import Mathlib.Algebra.Ring.Nat
import Meshpoint.BackupRestore
import Meshpoint.FileTree
import Meshpoint.JsonText

/-!
# Building a backup

`BackupArchiveBuilder.build` (`src/backup/archive_builder.py`) over the files that belong in a
backup (`src/backup/paths.py`), with the dictionary of the manifest (`src/backup/manifest.py`) and
the encryption of the archive (`src/backup/encryption.py`).

The data directory is a tree of files and directories; sizes, times and modes are left out, and
links, which a backup follows.  Hashing, JSON texts, `.tar.gz` files, the copy of a database and the
ciphers are in `Runtime`.
-/

namespace Meshpoint.BackupArchive

open ByteCodec JsonText TarArchive BackupRestore

variable {B : Type}

/-- The libraries that a backup uses. -/
structure Runtime (B : Type) where
  /-- `hashlib.sha256(content).hexdigest()` -/
  sha256 : B → String
  /-- The number of bytes of a file. -/
  size : B → Nat
  /-- `json.dumps(value, indent=2, sort_keys=True)` in UTF-8. -/
  dumps : Value Empty → B
  /-- `json.loads` of a UTF-8 text. -/
  loads : B → Option (Value Empty)
  /-- `str` of a list or a dictionary. -/
  repr : Value Empty → String
  /-- A `.tar.gz` file of the members. -/
  tarGz : List (Member B) → Bytes
  /-- The members of a `.tar.gz` file, as `tarfile` and `tar` read it. -/
  untar : Bytes → Option (List (Member B))
  /-- The copy that `sqlite3` makes of the database in a data directory. -/
  snapshotDatabase : FileTree B → Option B
  /-- `Scrypt(salt, length=32, n=2**n_log2, r=r, p=p).derive(password)` -/
  scrypt : (password salt : Bytes) → (nLog2 r p : UInt8) → Bytes
  /-- `AESGCM(key).encrypt(nonce, plaintext, header)` -/
  encrypt : (key nonce plaintext header : Bytes) → Option Bytes
  /-- `AESGCM(key).decrypt(nonce, ciphertext, header)` -/
  decrypt : (key nonce ciphertext header : Bytes) → Option Bytes

/-! ### The dictionary of the manifest -/

section

variable (R : Runtime B)

/-- `BackupFileEntry.to_dict`. -/
def entryToDict (entry : BackupFileEntry) : Value Empty :=
  .dict (.ofList [("path", .str entry.path), ("sha256", .str entry.sha256),
    ("size_bytes", .int entry.sizeBytes)])

/-- `BackupManifest.to_dict`. -/
def toDict (manifest : BackupManifest) : Value Empty :=
  .dict (.ofList [("format_version", .int manifest.formatVersion),
    ("meshpoint_version", .str manifest.meshpointVersion),
    ("created_at", .str manifest.createdAt),
    ("device_id", .str manifest.deviceId),
    ("device_name", .str manifest.deviceName),
    ("entries", .list (.ofList (manifest.entries.map entryToDict))),
    ("total_bytes", .int manifest.totalBytes)])

def insertKey (key : String) (value : Value Empty) : Entries Empty → Entries Empty
  | .nil => .cons key value .nil
  | .cons k v rest =>
    if key < k then .cons key value (.cons k v rest) else .cons k v (insertKey key value rest)

mutual

/-- The value with the keys of every dictionary in order. -/
def sortKeys : Value Empty → Value Empty
  | .list items => .list (sortItems items)
  | .dict entries => .dict (sortEntries entries)
  | value => value

def sortItems : Values Empty → Values Empty
  | .nil => .nil
  | .cons item rest => .cons (sortKeys item) (sortItems rest)

def sortEntries : Entries Empty → Entries Empty
  | .nil => .nil
  | .cons key value rest => insertKey key (sortKeys value) (sortEntries rest)

end

/-- `str(value)`. -/
def pyStr : Value Empty → String
  | .null => "None"
  | .bool true => "True"
  | .bool false => "False"
  | .int n => String.ofList (intText n)
  | .str s => s
  | value => R.repr value

/-- `int(value)`. -/
def pyInt : Value Empty → Option Int
  | .bool b => some (if b then 1 else 0)
  | .int n => some n
  | .str s => PyText.intOfText 10 s
  | _ => none

def valuesToList : Values Empty → List (Value Empty)
  | .nil => []
  | .cons item rest => item :: valuesToList rest

def keysToList : Entries Empty → List (Value Empty)
  | .nil => []
  | .cons key _ rest => .str key :: keysToList rest

def iterate : Value Empty → Option (List (Value Empty))
  | .list items => some (valuesToList items)
  | .dict entries => some (keysToList entries)
  | .str s => some (s.toList.map fun c => .str (String.ofList [c]))
  | _ => none

/-- `BackupFileEntry.from_dict`. -/
def entryFromDict : Value Empty → Option BackupFileEntry
  | .dict raw => do
    let path ← raw.get? "path"
    let sha256 ← raw.get? "sha256"
    let sizeBytes ← (raw.get? "size_bytes").bind pyInt
    return ⟨pyStr R path, pyStr R sha256, sizeBytes⟩
  | _ => none

/-- `BackupManifest.from_dict`. -/
def fromDict : Value Empty → Option BackupManifest
  | .dict raw => do
    let items ← iterate ((raw.get? "entries").getD (.list .nil))
    let entries ← items.mapM (entryFromDict R)
    let formatVersion ← (raw.get? "format_version").bind pyInt
    let meshpointVersion ← raw.get? "meshpoint_version"
    let createdAt ← raw.get? "created_at"
    let deviceId ← raw.get? "device_id"
    let totalBytes ← pyInt ((raw.get? "total_bytes").getD (.int 0))
    return {
      formatVersion := formatVersion
      meshpointVersion := pyStr R meshpointVersion
      createdAt := pyStr R createdAt
      deviceId := pyStr R deviceId
      deviceName := pyStr R ((raw.get? "device_name").getD (.str ""))
      entries := entries
      totalBytes := totalBytes }
  | _ => none

/-- `BackupManifest.from_json`. -/
def fromJson (content : B) : Option BackupManifest := (R.loads content).bind (fromDict R)

theorem entryFromDict_sortKeys (entry : BackupFileEntry) :
    entryFromDict R (sortKeys (entryToDict entry)) = some entry := by
  rfl

theorem mapM_entryFromDict (entries : List BackupFileEntry) :
    (valuesToList (sortItems (.ofList (entries.map entryToDict)))).mapM (entryFromDict R) =
      some entries := by
  induction entries with
  | nil => rfl
  | cons entry entries ih =>
    simp only [List.map_cons, Values.ofList, sortItems, valuesToList, List.mapM_cons,
      entryFromDict_sortKeys, ih, Option.pure_def, Option.bind_eq_bind, Option.bind_some]

/-- The entries of the dictionary of a manifest, in the order of their keys. -/
def sortedManifest (manifest : BackupManifest) : Entries Empty :=
  .ofList [("created_at", .str manifest.createdAt), ("device_id", .str manifest.deviceId),
    ("device_name", .str manifest.deviceName),
    ("entries", .list (sortItems (.ofList (manifest.entries.map entryToDict)))),
    ("format_version", .int manifest.formatVersion),
    ("meshpoint_version", .str manifest.meshpointVersion),
    ("total_bytes", .int manifest.totalBytes)]

theorem fromDict_sortKeys (manifest : BackupManifest) :
    fromDict R (sortKeys (toDict manifest)) = some manifest := by
  have hsorted : sortKeys (toDict manifest) = .dict (sortedManifest manifest) := rfl
  have hentries : (sortedManifest manifest).get? "entries" =
      some (.list (sortItems (.ofList (manifest.entries.map entryToDict)))) := rfl
  have hversion : (sortedManifest manifest).get? "format_version" =
      some (.int manifest.formatVersion) := rfl
  have hmeshpoint : (sortedManifest manifest).get? "meshpoint_version" =
      some (.str manifest.meshpointVersion) := rfl
  have hcreated : (sortedManifest manifest).get? "created_at" =
      some (.str manifest.createdAt) := rfl
  have hdevice : (sortedManifest manifest).get? "device_id" = some (.str manifest.deviceId) := rfl
  have hname : (sortedManifest manifest).get? "device_name" =
      some (.str manifest.deviceName) := rfl
  have htotal : (sortedManifest manifest).get? "total_bytes" =
      some (.int manifest.totalBytes) := rfl
  rw [hsorted, fromDict]
  simp only [hentries, hversion, hmeshpoint, hcreated, hdevice, hname, htotal, Option.getD_some,
    iterate, Option.bind_eq_bind, Option.bind_some, mapM_entryFromDict, pyInt, pyStr,
    Option.pure_def]

end

/-! ### What is backed up -/

/-- A data directory: a tree with names that a file can have. -/
structure DataTree (B : Type) extends FileTree B where
  wellFormed : toFileTree.WellFormed
  named : ∀ entry ∈ nodes, ∀ name ∈ entry.1, Plain name

/-- What a `BackupArchiveBuilder` is made with, and what it finds: the local configuration, if
    there is one, and the data directory. -/
structure Source (B : Type) where
  config : Option B
  data : DataTree B
  /-- The last part of `database_path`. -/
  dbName : List Char
  deviceId : String
  deviceName : String

/-- The time of a backup, as it is written: `%Y-%m-%dT%H:%M:%SZ` and `%Y%m%dT%H%M%SZ`. -/
structure BuildTime where
  createdAt : String
  stamp : List Char
  isStamp : isStamp ('-' :: stamp) = true

/-- The parts of `_EXCLUDED_DATA_DIR_PATTERN`. -/
def EXCLUDED_DATA_DIRS : List (List Char) :=
  ["restore-incoming".toList, "backup-staging".toList, "pre-restore-stash-".toList]

/-- `_EXCLUDED_DATA_DIR_PATTERN.match(name)`. -/
def isExcludedDataDir (name : List Char) : Bool := EXCLUDED_DATA_DIRS.any fun head => head <+: name

/-- A path is below an excluded directory, which is not entered. -/
def isPruned : Path → Bool
  | top :: _ :: _ => isExcludedDataDir top
  | _ => false

/-- `iter_included_data_files`. -/
def iterIncludedDataFiles (data : FileTree B) : List (Path × B) :=
  data.nodes.filterMap fun entry =>
    match entry.2 with
    | .dir => none
    | .file content => if isPruned entry.1 then none else some (entry.1, content)

/-- The names of the database's files that are left out, wherever they are. -/
def isWalName (dbName name : List Char) : Bool :=
  name = dbName ++ "-wal".toList ∨ name = dbName ++ "-shm".toList

/-- A file of the data directory as it is copied: of the database, a snapshot. -/
def copiedFile (snapshot : Option B) (dbName : List Char) (file : Path × B) : Option (Path × B) :=
  if file.1 = [dbName] then snapshot.map fun content => ("data".toList :: file.1, content)
  else some ("data".toList :: file.1, file.2)

/-- `_add_data_tree`, the files it copies. -/
def addDataTree (R : Runtime B) (dbName : List Char) (data : FileTree B) :
    Option (List (Path × B)) :=
  (((iterIncludedDataFiles data).insertionSort fun file other => file.1 ≤ other.1).filter
    fun file => !isWalName dbName (file.1.getLast?.getD [])).mapM
      (copiedFile (R.snapshotDatabase data) dbName)

def configPath : Path := ["config".toList, "local.yaml".toList]

/-- `_entry_from_file`. -/
def entryFromFile (R : Runtime B) (file : Path × B) : BackupFileEntry :=
  ⟨String.ofList (joinPath file.1), R.sha256 file.2, R.size file.2⟩

/-- `short_id`. -/
def shortId (deviceId : String) : List Char :=
  (if deviceId = "" then "unknown" else deviceId).toList.take 8

def bundleName (deviceId : String) (time : BuildTime) : List Char :=
  bundleHead ++ shortId deviceId ++ '-' :: time.stamp

def manifestOf (R : Runtime B) (source : Source B) (version : String) (time : BuildTime)
    (files : List (Path × B)) : BackupManifest where
  formatVersion := FORMAT_VERSION
  meshpointVersion := version
  createdAt := time.createdAt
  deviceId := source.deviceId
  deviceName := source.deviceName
  entries := files.map (entryFromFile R)
  totalBytes := (files.map fun file => R.size file.2).sum

/-- The copied files: the configuration and those of the data directory. -/
def copiedFiles (R : Runtime B) (source : Source B) : Option (List (Path × B)) := do
  let config ← source.config
  let dataFiles ← addDataTree R source.dbName source.data.toFileTree
  return (configPath, config) :: dataFiles

/-- The files of the bundle folder, with the manifest written last. -/
def bundleFiles (R : Runtime B) (source : Source B) (version : String) (time : BuildTime)
    (files : List (Path × B)) : List (Path × B) :=
  files ++ [(["manifest.json".toList], R.dumps (toDict (manifestOf R source version time files)))]

/-- The members of the archive; `none` when the build raises.  The archive cannot be created when
    the folder's name holds a slash, nor the folder when it holds a zero. -/
def archiveMembers (R : Runtime B) (source : Source B) (version : String) (time : BuildTime) :
    Option (List (Member B)) := do
  if '/' ∈ shortId source.deviceId ∨ Char.ofNat 0 ∈ shortId source.deviceId then none
  let files ← copiedFiles R source
  let bundle ← FileTree.empty.writeAll (bundleFiles R source version time files)
  return bundle.members (bundleName source.deviceId time)

/-! ### Encryption -/

def MAGIC : Bytes := utf8 "MPBKENC1"

def HEADER_SIZE : Nat := 40

def MIN_PASSWORD_LENGTH : Nat := 8
def MAX_PASSWORD_LENGTH : Nat := 256

/-- The salt and the nonce of an encryption. -/
structure Fresh where
  salt : Bytes
  nonce : Bytes
  salt_length : salt.length = 16
  nonce_length : nonce.length = 12

/-- `_pack_header` of the current version and parameters. -/
def packHeader (fresh : Fresh) : Bytes := MAGIC ++ [1, 14, 8, 1] ++ fresh.salt ++ fresh.nonce

theorem length_packHeader (fresh : Fresh) : (packHeader fresh).length = HEADER_SIZE := by
  have hmagic : MAGIC.length = 8 := by decide
  simp [packHeader, hmagic, fresh.salt_length, fresh.nonce_length, HEADER_SIZE]

/-- `encrypt_archive`; `none` when it raises. -/
def encryptArchive (R : Runtime B) (fresh : Fresh) (plaintext : Bytes) (password : String) :
    Option Bytes :=
  if MIN_PASSWORD_LENGTH ≤ password.length ∧ password.length ≤ MAX_PASSWORD_LENGTH then
    let header := packHeader fresh
    let key := R.scrypt (utf8 password) fresh.salt 14 8 1
    (R.encrypt key fresh.nonce plaintext header).map (header ++ ·)
  else none

/-- `BackupArchiveBuilder.build`: what is downloaded. -/
def build (R : Runtime B) (source : Source B) (version : String) (time : BuildTime)
    (fresh : Fresh) (password : Option String) : Option Bytes := do
  let members ← archiveMembers R source version time
  match password with
  | none => return R.tarGz members
  | some password => encryptArchive R fresh (R.tarGz members) password

def isEncrypted (payload : Bytes) : Bool := payload.take MAGIC.length = MAGIC

/-- `decrypt_archive`; the reason when it raises. -/
def decryptArchive (R : Runtime B) (payload : Bytes) (password : String) : Except String Bytes :=
  if payload.length < HEADER_SIZE then
    .error "archive is too small to be an encrypted backup"
  else if payload.take 8 ≠ MAGIC then .error "not an encrypted backup archive"
  else
    match payload.drop 8 with
    | version :: nLog2 :: r :: p :: rest =>
      if version ≠ 1 then
        .error ("unsupported encrypted-backup version " ++ toString version.toNat)
      else
        let salt := rest.take 16
        let nonce := (rest.drop 16).take 12
        let key := R.scrypt (utf8 password) salt nLog2 r p
        match R.decrypt key nonce (payload.drop HEADER_SIZE) (payload.take HEADER_SIZE) with
        | some plaintext => .ok plaintext
        | none => .error "incorrect password or corrupted archive"
    | _ => .error "archive is too small to be an encrypted backup"

/-- `BackupRestoreService.decrypt_upload`; the reason when it raises. -/
def decryptUpload (R : Runtime B) (payload : Bytes) (password : Option String) :
    Except String Bytes :=
  if isEncrypted payload then
    match password with
    | none => .error "archive is password-encrypted; password required"
    | some password =>
      if password = "" then .error "archive is password-encrypted; password required"
      else decryptArchive R payload password
  else .ok payload

/-- `validate_archive_path`, on the archive's bytes; the text of a tar error is left out. -/
def validateArchive (R : Runtime B) (payload : Bytes) : Except Rejection BackupManifest :=
  match R.untar payload with
  | none => .error (.validation "invalid tar archive")
  | some members => validateArchivePath R.sha256 (fromJson R) members

theorem decryptUpload_encryptArchive {R : Runtime B}
    (hcipher : ∀ key nonce plaintext header ciphertext,
      R.encrypt key nonce plaintext header = some ciphertext →
        R.decrypt key nonce ciphertext header = some plaintext)
    {fresh : Fresh} {plaintext payload : Bytes} {password : String}
    (h : encryptArchive R fresh plaintext password = some payload) :
    decryptUpload R payload (some password) = .ok plaintext := by
  unfold encryptArchive at h
  split at h
  · rename_i hlength
    obtain ⟨ciphertext, hencrypt, rfl⟩ := Option.map_eq_some_iff.mp h
    have hdecrypt := hcipher _ _ _ _ _ hencrypt
    have hpassword : password ≠ "" := by
      rintro rfl
      exact absurd hlength.1 (by decide)
    have hheader := length_packHeader fresh
    have htake : (packHeader fresh ++ ciphertext).take HEADER_SIZE = packHeader fresh := by
      rw [← hheader, List.take_left']
      rfl
    have hdrop : (packHeader fresh ++ ciphertext).drop HEADER_SIZE = ciphertext := by
      rw [← hheader, List.drop_left']
      rfl
    have hlong : ¬ (packHeader fresh ++ ciphertext).length < HEADER_SIZE := by
      rw [List.length_append, hheader]
      omega
    have hmagic : (packHeader fresh ++ ciphertext).take 8 = MAGIC := by
      simp only [packHeader, List.append_assoc]
      exact List.take_left' (by decide)
    have hfields : (packHeader fresh ++ ciphertext).drop 8 =
        1 :: 14 :: 8 :: 1 :: (fresh.salt ++ (fresh.nonce ++ ciphertext)) := by
      simp only [packHeader, List.append_assoc]
      exact List.drop_left' (by decide)
    have hencrypted : isEncrypted (packHeader fresh ++ ciphertext) = true := by
      have hlength : MAGIC.length = 8 := by decide
      rw [isEncrypted, hlength, hmagic]
      decide
    unfold decryptUpload
    simp only [hencrypted, if_true, if_neg hpassword]
    unfold decryptArchive
    simp only [if_neg hlong, hmagic, ne_eq, not_true_eq_false, if_false, hfields,
      List.take_left' fresh.salt_length, List.drop_left' fresh.salt_length,
      List.take_left' fresh.nonce_length, htake, hdrop, hdecrypt]
  · cases h

end Meshpoint.BackupArchive
