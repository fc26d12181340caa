import Mathlib.Data.List.Dedup
import Mathlib.Data.List.Infix
import Meshpoint.PyText
import Meshpoint.TarArchive

/-!
# The validation of an uploaded backup

`validate_archive_path` reads the members of an archive, finds the one bundle folder and its
manifest, checks the path of every file against the manifest and the digest of every entry.  What
reads the manifest and the digest are parameters.
-/

namespace Meshpoint.BackupRestore

open TarArchive

variable {B : Type}

/-! ### The manifest -/

structure BackupFileEntry where
  path : String
  sha256 : String
  sizeBytes : Int
deriving DecidableEq

structure BackupManifest where
  formatVersion : Int
  meshpointVersion : String
  createdAt : String
  deviceId : String
  deviceName : String := ""
  entries : List BackupFileEntry := []
  totalBytes : Int := 0
deriving DecidableEq

def FORMAT_VERSION : Int := 1

/-- Why an archive is not accepted. -/
inductive Rejection
  /-- a `RestoreValidationError` -/
  | validation (message : String)
  /-- an exception of the manifest's reader -/
  | unreadable
deriving DecidableEq

/-! ### Names -/

/-- The first part of an absolute name: two leading slashes are kept apart from one. -/
def root : List Char → Path
  | '/' :: '/' :: '/' :: _ => [['/']]
  | '/' :: '/' :: _ => [['/', '/']]
  | '/' :: _ => [['/']]
  | _ => []

/-- `PurePosixPath(name).parts`. -/
def parts (name : String) : List (List Char) := root name.toList ++ components name.toList

/-- A character of `\d`. -/
def isDecimal (c : Char) : Bool :=
  PyText.decimalZeros.any fun first => first ≤ c.toNat ∧ c.toNat < first + 10

/-- A character of `[a-zA-Z0-9_-]`. -/
def isIdChar (c : Char) : Bool := c.isAlphanum ∨ c = '_' ∨ c = '-'

/-- `-\d{8}T\d{6}Z`. -/
def isStamp (cs : List Char) : Bool :=
  cs.length = 17 ∧ cs[0]? = some '-' ∧ ((cs.drop 1).take 8).all isDecimal ∧ cs[9]? = some 'T' ∧
    ((cs.drop 10).take 6).all isDecimal ∧ cs[16]? = some 'Z'

def bundleHead : List Char := "meshpoint-backup-".toList

/-- `_BUNDLE_DIR_PATTERN`; `$` also matches before a line feed at the end. -/
def isBundleName (name : List Char) : Bool :=
  let name := if name.getLast? = some '\n' then name.dropLast else name
  let rest := name.drop bundleHead.length
  let id := rest.take (rest.length - 17)
  bundleHead <+: name ∧ id ≠ [] ∧ id.all isIdChar ∧ isStamp (rest.drop (rest.length - 17))

/-- `_is_allowed_member_path`. -/
def isAllowedMemberPath (path : String) : Bool :=
  if path = "manifest.json" then true
  else if path = "config/local.yaml" then true
  else "data/".toList <+: path.toList ∧ ¬ ['.', '.'] <:+: path.toList

/-! ### The checks -/

/-- Run a check over a list, up to the first that fails. -/
def checkAll {α ε : Type} (check : α → Except ε Unit) : List α → Except ε Unit
  | [] => .ok ()
  | a :: rest =>
    match check a with
    | .error e => .error e
    | .ok () => checkAll check rest

theorem checkAll_eq_ok {α ε : Type} {check : α → Except ε Unit} {list : List α} :
    checkAll check list = .ok () ↔ ∀ a ∈ list, check a = .ok () := by
  induction list with
  | nil => simp [checkAll]
  | cons a rest ih =>
    simp only [checkAll, List.forall_mem_cons]
    cases check a with
    | error e => simp
    | ok done => simpa using ih

/-- `_reject_non_regular_members`, of one member. -/
def rejectNonRegularMember (m : Member B) : Except Rejection Unit :=
  if m.kind.isOther then
    .error (.validation ("archive contains a non-regular-file member (" ++ m.name ++ "): " ++
      "symlinks, hardlinks, and device/FIFO entries are not allowed"))
  else .ok ()

/-- `_resolve_bundle_prefix`. -/
def resolveBundle (members : List (Member B)) : Except Rejection (List Char) :=
  match (members.filterMap fun m => (parts m.name).head?).dedup with
  | [bundle] =>
    if isBundleName bundle then .ok bundle
    else .error (.validation ("unexpected bundle folder name: " ++ String.ofList bundle))
  | _ => .error (.validation "archive must contain one top-level folder")

def inBundle (bundle : List Char) (path : String) : String :=
  String.ofList (bundle ++ '/' :: path.toList)

/-- `_member_archive_path`. -/
def memberArchivePath (m : Member B) (bundle : List Char) : Option String :=
  if bundle ++ ['/'] <+: m.name.toList then
    let rel := m.name.toList.drop (bundle.length + 1)
    if rel = [] ∨ rel.getLast? = some '/' then none else some (String.ofList rel)
  else none

/-- `_find_member`. -/
def findMember (members : List (Member B)) (name : String) : Option (Member B) :=
  members.find? fun m => m.name = name

/-- `tar.extractfile`. -/
def extractfile (m : Member B) : Option B :=
  match m.kind with
  | .file content => some content
  | _ => none

/-- `_validate_manifest_header`. -/
def validateManifestHeader (manifest : BackupManifest) : Except Rejection Unit :=
  if manifest.formatVersion ≠ FORMAT_VERSION then
    .error (.validation ("unsupported format_version " ++ toString manifest.formatVersion))
  else if manifest.deviceId = "" then .error (.validation "manifest missing device_id")
  else .ok ()

def checkMember (bundle : List Char) (manifest : BackupManifest) (m : Member B) :
    Except Rejection Unit :=
  match m.kind with
  | .file _ =>
    match memberArchivePath m bundle with
    | none => .ok ()
    | some rel =>
      if rel = "manifest.json" then .ok ()
      else if isAllowedMemberPath rel = false then
        .error (.validation ("disallowed archive path: " ++ rel))
      else if rel ∉ manifest.entries.map BackupFileEntry.path then
        .error (.validation ("unexpected file in archive: " ++ rel))
      else .ok ()
  | _ => .ok ()

def checkEntry (sha256 : B → String) (members : List (Member B)) (bundle : List Char)
    (entry : BackupFileEntry) : Except Rejection Unit :=
  match findMember members (inBundle bundle entry.path) with
  | none => .error (.validation ("manifest entry missing from archive: " ++ entry.path))
  | some m =>
    match extractfile m with
    | none => .error (.validation ("could not read archive member: " ++ entry.path))
    | some content =>
      if sha256 content ≠ entry.sha256 then
        .error (.validation ("checksum mismatch for " ++ entry.path))
      else .ok ()

def manifestContent (members : List (Member B)) (bundle : List Char) : Except Rejection B :=
  match findMember members (inBundle bundle "manifest.json") with
  | none => .error (.validation "manifest.json missing")
  | some m =>
    match extractfile m with
    | none => .error (.validation "could not read manifest.json")
    | some content => .ok content

/-- `validate_archive_path`, on the members of the archive. -/
def validateArchivePath (sha256 : B → String) (fromJson : B → Option BackupManifest)
    (members : List (Member B)) : Except Rejection BackupManifest := do
  checkAll rejectNonRegularMember members
  let bundle ← resolveBundle members
  let content ← manifestContent members bundle
  let manifest ← (fromJson content).elim (.error .unreadable) .ok
  validateManifestHeader manifest
  checkAll (checkMember bundle manifest) members
  checkAll (checkEntry sha256 members bundle) manifest.entries
  return manifest

/-- What acceptance says, check by check. -/
structure Accepted (sha256 : B → String) (fromJson : B → Option BackupManifest)
    (members : List (Member B)) (bundle : List Char) (content : B) (manifest : BackupManifest) :
    Prop where
  regular : ∀ m ∈ members, m.kind.isOther = false
  folder : resolveBundle members = .ok bundle
  found : manifestContent members bundle = .ok content
  read : fromJson content = some manifest
  header : validateManifestHeader manifest = .ok ()
  checked : ∀ m ∈ members, checkMember bundle manifest m = .ok ()
  digests : ∀ entry ∈ manifest.entries, checkEntry sha256 members bundle entry = .ok ()

theorem rejectNonRegularMember_eq_ok {m : Member B} :
    rejectNonRegularMember m = .ok () ↔ m.kind.isOther = false := by
  unfold rejectNonRegularMember
  cases m.kind.isOther <;> simp

theorem validateArchivePath_eq_ok {sha256 : B → String} {fromJson : B → Option BackupManifest}
    {members : List (Member B)} {manifest : BackupManifest} :
    validateArchivePath sha256 fromJson members = .ok manifest ↔
      ∃ bundle content, Accepted sha256 fromJson members bundle content manifest := by
  have hregular : checkAll rejectNonRegularMember members = .ok () ↔
      ∀ m ∈ members, m.kind.isOther = false := by
    rw [checkAll_eq_ok]
    simp only [rejectNonRegularMember_eq_ok]
  unfold validateArchivePath
  constructor
  · intro h
    cases hrejects : checkAll rejectNonRegularMember members with
    | error e =>
      rw [hrejects] at h
      cases h
    | ok done =>
      cases hbundle : resolveBundle members with
      | error e =>
        rw [hrejects, hbundle] at h
        cases h
      | ok bundle =>
        cases hcontent : manifestContent members bundle with
        | error e =>
          simp only [hrejects, hbundle, hcontent, bind, Except.bind] at h
          cases h
        | ok content =>
          cases hmanifest : fromJson content with
          | none =>
            simp only [hrejects, hbundle, hcontent, hmanifest, bind, Except.bind,
              Option.elim_none] at h
            cases h
          | some manifest' =>
            simp only [hrejects, hbundle, hcontent, hmanifest, bind, Except.bind,
              Option.elim_some] at h
            cases hheader : validateManifestHeader manifest' with
            | error e =>
              rw [hheader] at h
              cases h
            | ok done =>
              cases hchecked : checkAll (checkMember bundle manifest') members with
              | error e =>
                simp only [hheader, hchecked] at h
                cases h
              | ok done =>
                cases hdigests : checkAll (checkEntry sha256 members bundle) manifest'.entries with
                | error e =>
                  simp only [hheader, hchecked, hdigests] at h
                  cases h
                | ok done =>
                  simp only [hheader, hchecked, hdigests] at h
                  cases h
                  exact ⟨bundle, content, hregular.mp hrejects, hbundle, hcontent, hmanifest,
                    hheader, checkAll_eq_ok.mp hchecked, checkAll_eq_ok.mp hdigests⟩
  · rintro ⟨bundle, content, h⟩
    have hrejects := hregular.mpr h.regular
    have hchecked := checkAll_eq_ok.mpr h.checked
    have hdigests := checkAll_eq_ok.mpr h.digests
    simp only [hrejects, h.folder, h.found, h.read, h.header, hchecked, hdigests, bind,
      Except.bind, Option.elim_some]
    rfl

end Meshpoint.BackupRestore
