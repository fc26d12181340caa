import Meshpoint.FolderMoves
import Meshpoint.HostSession
import Meshpoint.PluginCatalog
import Meshpoint.SourceUrls

/-!
# Staging a plugin from its archive

`_download_tarball`, `_safe_members`, `stage_from_tarball` and `install_from_source`
(`src/plugins/installer.py`) as sessions on a host: the tree of its folders, and a log of all that
is created and written in them.  Any operation of the file system may be refused, and there are no
links among the folders.

`tarfile` is a parameter: the members that it reads from the bytes of an archive.
-/

namespace Meshpoint.PluginStaging

open TarArchive ByteCodec ManifestFile LockedContent PluginCatalog HostSession FolderMoves

/-! ### Hosts -/

inductive FileKind
  | file
  | dir
  | link
  | device
deriving DecidableEq

/-- What a session does to the file system.  A file that is opened for writing is created, also
    where it was there. -/
inductive Action
  | create (kind : FileKind) (path : Path)
  | write (path : Path) (bytes : Bytes)
  | unlink (path : Path)
deriving DecidableEq

structure Host where
  tree : FileTree Bytes
  log : List Action

inductive TarKind
  | file
  | dir
  | symlink
  | hardlink
  | device
deriving DecidableEq

/-- `tarfile.TarInfo`, with what reading the member gives: `content` is `none` where
    `extractfile` gives none, and the reading of a torn one raises after its content. -/
structure TarMember where
  name : Chars
  kind : TarKind
  size : Int
  content : Option Bytes := none
  torn : Bool := false
deriving DecidableEq

/-- What an install meets: the folder that `mkdtemp` names, the response to the download and the
    error that it breaks off with, the operations that are refused after those of a log, and the
    paths that a removal, which ignores errors, cannot remove. -/
structure World where
  staging : Path
  plain : ['.', '.'] ∉ staging
  response : Except String (List Bytes)
  broken : Option String := none
  tarfile : Bytes → Option (List TarMember)
  refuses : List Action → Action → Bool := fun _ _ => false
  stuck : Path → Bool := fun _ => false
  calls : PlaceCalls Bytes := {}
  pyRepr : Chars → String

/-- `PluginInstallError`. -/
structure InstallError where
  code : String
  message : String

/-- `raise PluginInstallError(code, message)`. -/
def fail {α : Type} (code message : String) : Session Host α :=
  lift (.error (⟨code, message⟩ : InstallError))

/-! ### The file system -/

/-- Where a path leads, among folders without links. -/
def located (path : Path) : Path :=
  path.foldl (fun above part => if part = ['.', '.'] then above.dropLast else above ++ [part]) []

section

variable (w : World)

def perform (action : Action) (after : FileTree Bytes) : Session Host Unit := fun h =>
  if w.refuses h.log action then (none, h) else (some (), ⟨after, h.log ++ [action]⟩)

/-- `path.mkdir()`. -/
def mkdir (path : Path) : Session Host Unit := fun h =>
  match h.tree.get? (located path), h.tree.get? (located path).dropLast with
  | none, some .dir =>
    perform w (.create .dir (located path)) (h.tree.put (located path) .dir) h
  | _, _ => (none, h)

/-- `path.mkdir(exist_ok=True)`. -/
def ensureDir (path : Path) : Session Host Unit := fun h =>
  match h.tree.get? (located path) with
  | none => mkdir w path h
  | some .dir => (some (), h)
  | some (.file _) => (none, h)

/-- `path.mkdir(parents=True, exist_ok=True)`, for a path below a folder. -/
def makeDirs (folder : Path) : Path → Session Host Unit
  | [] => pure ()
  | part :: rest => do
    ensureDir w (folder ++ [part])
    makeDirs (folder ++ [part]) rest

/-- `open(path, "wb")`. -/
def openFile (path : Path) : Session Host Unit := fun h =>
  match h.tree.get? (located path), h.tree.get? (located path).dropLast with
  | some .dir, _ => (none, h)
  | _, some .dir =>
    perform w (.create .file (located path)) (h.tree.put (located path) (.file [])) h
  | _, _ => (none, h)

/-- `fh.write(chunk)`. -/
def append (path : Path) (chunk : Bytes) : Session Host Unit := fun h =>
  match h.tree.get? (located path) with
  | some (.file content) =>
    perform w (.write (located path) chunk)
      (h.tree.put (located path) (.file (content ++ chunk))) h
  | _ => (none, h)

/-- `path.unlink(missing_ok=True)`. -/
def unlink (path : Path) : Session Host Unit := fun h =>
  match h.tree.get? (located path) with
  | none => (some (), h)
  | some (.file _) =>
    perform w (.unlink (located path)) (h.tree.keep fun other => other ≠ located path) h
  | some .dir => (none, h)

/-- `shutil.rmtree(path, ignore_errors=True)`. -/
def rmtree (path : Path) : Session Host Unit := act fun h =>
  let tree := h.tree.keep fun other => !decide (path <+: other) || isKept w.stuck h.tree other
  ((), ⟨tree, h.log⟩)

/-! ### Downloading -/

def maxTarballBytes : Nat := 25 * 1024 * 1024

/-- The loop of `_download_tarball`, with the bytes so far. -/
def downloadChunks (archive : Path) : Nat → List Bytes → Session Host Unit
  | _, [] => pure ()
  | total, chunk :: rest =>
    if maxTarballBytes < total + chunk.length then fail "size" "archive exceeds 25 MB"
    else do
      append w archive chunk
      downloadChunks archive (total + chunk.length) rest

def fetchMessage (url : Chars) (error : String) : String :=
  "could not download " ++ String.ofList url ++ ": " ++ error

/-- `_download_tarball`, which gives what it has put into the file. -/
def downloadTarball (url : Chars) (archive : Path) : Session Host Bytes :=
  match w.response with
  | .error error => fail "fetch" (fetchMessage url error)
  | .ok chunks => do
    openFile w archive
    downloadChunks w archive 0 chunks
    match w.broken with
    | some error => fail "fetch" (fetchMessage url error)
    | none => pure chunks.flatten

end

/-! ### Members -/

def maxMembers : Nat := 4000

def maxUncompressedBytes : Nat := 80 * 1024 * 1024

/-- `names[0].split("/", 1)[0]`. -/
def toplevel (members : List TarMember) : Chars :=
  match members with
  | [] => []
  | first :: _ => first.name.takeWhile fun c => !isSlash c

/-- `f"{toplevel}/{subpath.strip('/')}/"`. -/
def subtreeText (members : List TarMember) (subpath : Chars) : Chars :=
  toplevel members ++ '/' :: (stripSlash subpath ++ ['/'])

/-- `name[len(prefix):].strip("/")`. -/
def relOf (subtree name : Chars) : Chars := stripSlash (name.drop subtree.length)

/-- What `_safe_members` counts. -/
structure Seen where
  matched : Bool := false
  count : Nat := 0
  totalBytes : Int := 0

def isPlainKind (kind : TarKind) : Bool := kind = .file || kind = .dir

/-- A path that `_safe_members` takes for unsafe. -/
def isUnsafePath (rel : Chars) : Bool := rel.head? = some '/' || ['.', '.'] ∈ components rel

def unpacksMessage (pyRepr : Chars → String) (subpath : Chars) : String :=
  pyRepr subpath ++ " unpacks to more than 80 MB"

/-- One member of `_safe_members`: it is refused, or left out, or yielded with its path. -/
def safeMember (pyRepr : Chars → String) (subpath subtree : Chars) (seen : Seen) (m : TarMember) :
    Except InstallError (Seen × Option Chars) :=
  if m.name = rstripSlash subtree then .ok (seen, none)
  else if ¬ subtree <+: m.name then .ok (seen, none)
  else if relOf subtree m.name = [] then .ok (seen, none)
  else if isUnsafePath (relOf subtree m.name) then
    .error ⟨"archive", "unsafe path in archive: " ++ pyRepr m.name⟩
  else if !isPlainKind m.kind then
    .error ⟨"archive", "archive member " ++ pyRepr m.name ++ " is not a regular file or dir"⟩
  else if maxMembers < seen.count + 1 then
    .error ⟨"archive", "more than 4000 files in " ++ pyRepr subpath⟩
  else if (maxUncompressedBytes : Int) < seen.totalBytes + max m.size 0 then
    .error ⟨"archive", unpacksMessage pyRepr subpath⟩
  else .ok (⟨true, seen.count + 1, seen.totalBytes + max m.size 0⟩, some (relOf subtree m.name))

def isHexDigit (c : Char) : Bool := ('0' ≤ c && c ≤ '9') || ('a' ≤ c && c ≤ 'f')

/-- `_commit_from_toplevel`. -/
def commitFromToplevel (toplevel : Chars) : Chars :=
  let tail := if '-' ∈ toplevel then (toplevel.reverse.takeWhile (· ≠ '-')).reverse else []
  if 7 ≤ tail.length ∧ tail.length ≤ 40 ∧ tail.all isHexDigit then tail else []

section

variable (w : World)

/-! ### Staging -/

/-- The size of the pieces in which a member is read. -/
def readBytes : Nat := 256 * 1024

/-- The loop that writes a member, with the bytes of the whole extraction so far. -/
def writeChunks (subpath : Chars) (target : Path) : Nat → List Bytes → Session Host Nat
  | written, [] => pure written
  | written, chunk :: rest =>
    if maxUncompressedBytes < written + chunk.length then
      fail "archive" (unpacksMessage w.pyRepr subpath)
    else do
      append w target chunk
      writeChunks subpath target (written + chunk.length) rest

/-- One turn of the loop of `stage_from_tarball`. -/
def extractMember (outDir : Path) (subpath : Chars) (m : TarMember) (rel : Chars) (written : Nat) :
    Session Host Nat :=
  let folder := if rel.head? = some '/' then [] else outDir
  if m.kind = .dir then do
    makeDirs w folder (components rel)
    pure written
  else do
    makeDirs w folder (components rel).dropLast
    match m.content with
    | none => fail "archive" ("could not read " ++ w.pyRepr m.name)
    | some content => do
      openFile w (folder ++ components rel)
      let written ← writeChunks w subpath (folder ++ components rel) written
        (content.toChunks readBytes)
      if m.torn then raise else pure written

def stageMember (outDir : Path) (subpath subtree : Chars) (state : Seen × Nat) (m : TarMember) :
    Session Host (Seen × Nat) := do
  let (seen, rel) ← lift (safeMember w.pyRepr subpath subtree state.1 m)
  match rel with
  | none => pure (seen, state.2)
  | some rel => do
    let written ← extractMember w outDir subpath m rel state.2
    pure (seen, written)

/-- The loop of `stage_from_tarball` over `_safe_members`. -/
def extractAll (outDir : Path) (subpath : Chars) (members : List TarMember) : Session Host Unit :=
  if members = [] then fail "archive" "the archive is empty"
  else do
    let (seen, _) ← members.foldlM
      (stageMember w outDir subpath (subtreeText members subpath)) ({}, 0)
    if seen.matched then pure ()
    else fail "archive" (w.pyRepr subpath ++ " is not in the repo at that ref")

/-- A source, as its catalog was fetched from. -/
structure Source where
  owner : Chars
  repo : Chars
  ref : Chars

def archivePath (staging : Path) : Path := staging ++ ["src.tar.gz".toList]

/-- What `stage_from_tarball` does in its folder. -/
def stageBody (source : Source) (subpath : Chars) (pluginId : String) :
    Session Host (Path × Chars) := do
  let outDir := joinPath w.staging pluginId
  let tarball ← downloadTarball w (SourceUrls.tarballUrl source.owner source.repo source.ref)
    (archivePath w.staging)
  mkdir w outDir
  match w.tarfile tarball with
  | none => raise
  | some members => do
    extractAll w outDir subpath members
    unlink w (archivePath w.staging)
    pure (outDir, commitFromToplevel (toplevel members))

/-- `stage_from_tarball`. -/
def stageFromTarball (source : Source) (subpath : Chars) (pluginId : String) :
    Session Host (Path × Chars) := do
  mkdir w w.staging
  match ← attempt (stageBody w source subpath pluginId) with
  | some staged => pure staged
  | none => do
    rmtree w w.staging
    raise

/-! ### Installing -/

/-- What an install answers. -/
structure Installed where
  id : String
  kind : ContentKind
  version : String
  hasSetup : Bool
  commit : Chars
deriving DecidableEq

/-- The checks of the staged folder; the version and whether there is a setup. -/
def validated (fmt : Formats Bytes) (entry : Entry) (staged : FileTree Bytes) :
    Option (String × Bool) :=
  match entry.kind with
  | .theme => if validateStagedTheme fmt staged entry.id then some (entry.version, false) else none
  | .app =>
    match parseManifest
        (files ((FileTree.empty : FileTree Bytes).replace [entry.id.toList] staged.nodes))
        fmt.loadsToml [entry.id.toList] .community with
    | .ok manifest =>
      if manifest.locked then none else some (manifest.version, manifest.setup.isSome)
    | .error _ => none

/-- The staged folder is checked, and moved to its place. -/
def placeStaged (fmt : Formats Bytes) (layout : Layout) (entry : Entry) (staged : Path) :
    Session Host (String × Bool) := fun h =>
  match validated fmt entry ⟨h.tree.subtree staged⟩ with
  | none => (none, h)
  | some told =>
    let placed := place h.tree (destination layout entry.listed) (h.tree.subtree staged) w.calls
    (if placed.2 = 200 then some told else none, { h with tree := placed.1 })

/-- `install_from_source`. -/
def installFromSource (source : Source) (fmt : Formats Bytes) (layout : Layout) (entry : Entry) :
    Session Host Installed := do
  let (staged, commit) ← stageFromTarball w source entry.path entry.id
  let placed ← attempt (placeStaged w fmt layout entry staged)
  rmtree w staged.dropLast
  match placed with
  | some (version, hasSetup) => pure ⟨entry.id, entry.kind, version, hasSetup, commit⟩
  | none => raise

end

end Meshpoint.PluginStaging
