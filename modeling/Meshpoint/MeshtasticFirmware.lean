import Meshpoint.FirmwareFiles
import Meshpoint.GuardedRun
import Meshpoint.OrderedDict
import Meshpoint.PyText

/-!
# The cache of Meshtastic firmware

Model of `_ensure_board_firmware_cached_sync` of `src/api/routes/meshtastic_firmware_routes.py` and
of the images that the flash route hands to esptool. GitHub's answers are the releases of a
`Catalogue`; each attempt may fail at any action.

The factory image is the mark of a cached board: what is in the folder when it stands is complete
(`Whole`), as long as no attempt is cut while it writes the images (`meshtastic_good`).
-/

namespace Meshpoint.MeshtasticFirmware

open ByteCodec TarArchive HostSession FirmwareFiles GuardedRun

/-! ### Releases -/

structure Target where
  board : String
  platform : Option String
deriving DecidableEq

/-- `firmware-<version>.json`; the version is empty where it has none. -/
structure Manifest where
  version : String
  targets : List Target
deriving DecidableEq

/-- A file that `.mt.json` lists, and a partition. -/
structure ListedFile where
  name : Option String
  partName : Option String

structure Partition where
  name : Option String
  offset : Option String

/-- What the code reads of a `.mt.json`. -/
structure BoardMetadata where
  mcu : Option String
  files : List ListedFile
  parts : List Partition

inductive Asset where
  | manifest (m : Manifest)
  | archive (members : OrderedDict String Bytes)
  | other

structure Release where
  tagName : String
  assets : OrderedDict String Asset

/-- `_manifest_from_release_sync`; `none` when it raises. -/
def manifestFromRelease (release : Release) : Option Manifest :=
  let found := release.assets.items.find? fun asset =>
    "firmware-".toList <+: asset.1.toList ∧ ".json".toList <:+ asset.1.toList
  match found with
  | some (_, .manifest m) => some m
  | _ => none

/-- `manifest.get("version") or release.get("tag_name", "").lstrip("v")`. -/
def versionOf (release : Release) (manifest : Manifest) : String :=
  if manifest.version ≠ "" then manifest.version
  else PyText.lstripWhere (· = 'v') release.tagName

/-- The members of the archive for a platform, where the release has it. -/
def archiveOf (release : Release) (platform version : String) :
    Option (OrderedDict String Bytes) :=
  match release.assets.get? ("firmware-" ++ platform ++ "-" ++ version ++ ".zip") with
  | some (.archive members) => some members
  | _ => none

/-- The name of the file system image; `none` when an entry has no name. -/
def BoardMetadata.spiffsFile (mt : BoardMetadata) : Option (Option String) :=
  match mt.files.find? fun f => f.partName = some "spiffs" with
  | none => some none
  | some f => f.name.map fun name => if name = "" then none else some name

/-- `int(spiffs_part["offset"], 16)`; `none` when it raises. -/
def BoardMetadata.spiffsOffset (mt : BoardMetadata) : Option (Option Int) :=
  match mt.parts.find? fun p => p.name = some "spiffs" with
  | none => some none
  | some p => (p.offset.bind fun text => PyText.intOfText 16 text).map some

/-! ### The route -/

def cacheDirFor (root : Path) (board version : String) : Path :=
  joinText (joinText root board) version

def fileName (board version suffix : String) : String :=
  "firmware-" ++ board ++ "-" ++ version ++ suffix

def mtName (board version : String) : String := fileName board version ".mt.json"

def factoryName (board version : String) : String := fileName board version ".factory.bin"

/-- How the actions of an attempt end; `archive` is whether the archive arrives whole, which
    `zipfile` finds out before anything is written. -/
structure Faults where
  metadataExists : Fault := .none
  factoryExists : Fault := .none
  readMetadata : Fault := .none
  mkdir : Fault := .none
  archive : Bool := true
  writeMetadata : Fault := .none
  writeFactory : Fault := .none
  writeFilesystem : Fault := .none
  filesystemExists : Fault := .none

structure Firmware where
  version : String
  mcu : String
  factoryBin : Path
  littlefsBin : Option Path
  littlefsOffset : Option Int

section

variable (loads : Bytes → Option BoardMetadata) (root : Path)

/-- The file system image is written, where the archive has it. -/
def writeFilesystem (cacheDir : Path) (members : OrderedDict String Bytes) (spiffs : Option String)
    (fault : Fault) : Session Disk Unit :=
  match spiffs.bind fun name => (members.get? name).map fun content => (name, content) with
  | some (name, content) => writeFile (joinText cacheDir name) content fault
  | none => pure ()

/-- The files of the board are written, one after another. -/
def unpackBoard (board version : String) (members : OrderedDict String Bytes) (faults : Faults) :
    Session Disk BoardMetadata := do
  let cacheDir := cacheDirFor root board version
  let mtContent ← ofOption (members.get? (mtName board version))
  let factory ← ofOption (members.get? (factoryName board version))
  let mt ← ofOption (loads mtContent)
  writeFile (joinText cacheDir (mtName board version)) mtContent faults.writeMetadata
  writeFile (joinText cacheDir (factoryName board version)) factory faults.writeFactory
  let spiffs ← ofOption mt.spiffsFile
  writeFilesystem cacheDir members spiffs faults.writeFilesystem
  return mt

def fetchBoard (board version : String) (archive : Option (OrderedDict String Bytes))
    (faults : Faults) : Session Disk BoardMetadata := do
  let members ← ofOption archive
  mkdir (cacheDirFor root board version) faults.mkdir
  ofOption (if faults.archive then some () else none)
  unpackBoard loads root board version members faults

/-- `mt_json_path.exists() and factory_path.exists()`. -/
def isCached (mtPath factoryPath : Path) (faults : Faults) : Session Disk Bool := do
  let hasMetadata ← pathExists mtPath faults.metadataExists
  if hasMetadata then pathExists factoryPath faults.factoryExists else pure false

/-- The metadata of the board, from the cache or from the archive. -/
def loadBoard (board version : String) (archive : Option (OrderedDict String Bytes))
    (faults : Faults) (cached : Bool) : Session Disk BoardMetadata :=
  if cached then do
    let content ← readFile (joinText (cacheDirFor root board version) (mtName board version))
      faults.readMetadata
    ofOption (loads content)
  else fetchBoard loads root board version archive faults

/-- `_ensure_board_firmware_cached_sync`, for the answer of GitHub. -/
def ensureBoardFirmwareCached (board : String) (answer : Option Release) (faults : Faults) :
    Session Disk Firmware := do
  let release ← ofOption answer
  let manifest ← ofOption (manifestFromRelease release)
  let version := versionOf release manifest
  let target ← ofOption (manifest.targets.find? fun t => t.board = board)
  let platform ← ofOption target.platform
  let cacheDir := cacheDirFor root board version
  let mtPath := joinText cacheDir (mtName board version)
  let factoryPath := joinText cacheDir (factoryName board version)
  let cached ← isCached mtPath factoryPath faults
  let mt ← loadBoard loads root board version (archiveOf release platform version) faults cached
  let spiffs ← ofOption mt.spiffsFile
  let offset ← ofOption mt.spiffsOffset
  let mcu ← ofOption mt.mcu
  match spiffs with
  | none => return ⟨version, mcu, factoryPath, none, offset⟩
  | some name => do
    let there ← pathExists (joinText cacheDir name) faults.filesystemExists
    return ⟨version, mcu, factoryPath,
      if there then some (joinText cacheDir name) else none, offset⟩

end

/-- The files of `write_flash_args`, by their offset. -/
def writeFlashArgs (eraseAll : Bool) (fw : Firmware) : List (Int × Path) :=
  (0, fw.factoryBin) ::
    match fw.littlefsBin, fw.littlefsOffset with
    | some path, some offset => if eraseAll then [(offset, path)] else []
    | _, _ => []

/-! ### Packages -/

/-- What a release has for a board. -/
structure Package where
  board : String
  version : String
  members : OrderedDict String Bytes

def packageOf (release : Release) (board : String) : Option Package := do
  let manifest ← manifestFromRelease release
  let version := versionOf release manifest
  let target ← manifest.targets.find? fun t => t.board = board
  let platform ← target.platform
  some ⟨board, version, (archiveOf release platform version).getD .empty⟩

namespace Package

variable (loads : Bytes → Option BoardMetadata) (root : Path) (pkg : Package)

def metadata : Option BoardMetadata := (pkg.members.get? (mtName pkg.board pkg.version)).bind loads

def factory : Option Bytes := pkg.members.get? (factoryName pkg.board pkg.version)

def filesystem : Option (String × Bytes) := do
  let mt ← pkg.metadata loads
  let spiffs ← mt.spiffsFile
  spiffs.bind fun name => (pkg.members.get? name).map fun content => (name, content)

/-- The images of the release: the factory image, and with the chip erased the file system image
    where the release has one and a partition for it. -/
def images (eraseAll : Bool) : Option (List (Int × Bytes)) := do
  let mt ← pkg.metadata loads
  let factory ← pkg.factory
  let offset ← mt.spiffsOffset
  some ((0, factory) ::
    match pkg.filesystem loads, offset with
    | some (_, content), some offset => if eraseAll then [(offset, content)] else []
    | _, _ => [])

/-- The names are such that the files lie in the folder of the board. -/
structure Named : Prop where
  board : Plain pkg.board.toList
  version : Plain pkg.version.toList
  spiffs : ∀ mt name, pkg.metadata loads = some mt → mt.spiffsFile = some (some name) →
    Plain name.toList

def dir : Path := root ++ [pkg.board.toList, pkg.version.toList]

def path (name : String) : Path := pkg.dir root ++ [name.toList]

/-- Everything in the folder of the package is a member of its archive, in whole or in part. -/
def Known (t : FileTree Bytes) : Prop :=
  ∀ name node, t.get? (pkg.dir root ++ [name]) = some node →
    (∃ content, node = .file content) ∧ (pkg.members.get? (String.ofList name)).isSome

def Stored (name : String) (t : FileTree Bytes) : Prop :=
  ∃ content, pkg.members.get? name = some content ∧
    t.get? (pkg.path root name) = some (.file content)

/-- When the factory image stands, all files of the board are complete. -/
def Whole (t : FileTree Bytes) : Prop :=
  t.get? (pkg.path root (factoryName pkg.board pkg.version)) ≠ none →
    pkg.Stored root (mtName pkg.board pkg.version) t ∧
      pkg.Stored root (factoryName pkg.board pkg.version) t ∧
        ∀ name content, pkg.filesystem loads = some (name, content) → pkg.Stored root name t

end Package

/-- The releases that GitHub answers with: a version stands for one set of files of a board, and the
    names of boards, versions and images are plain. -/
structure Catalogue (loads : Bytes → Option BoardMetadata) where
  releases : List Release
  consistent : ∀ release ∈ releases, ∀ release' ∈ releases, ∀ board pkg pkg',
    packageOf release board = some pkg → packageOf release' board = some pkg' →
      pkg.version = pkg'.version → pkg = pkg'
  named : ∀ release ∈ releases, ∀ board pkg, packageOf release board = some pkg → pkg.Named loads

theorem board_of_packageOf {release : Release} {board : String} {pkg : Package}
    (h : packageOf release board = some pkg) : pkg.board = board := by
  simp only [packageOf, Option.bind_eq_bind, Option.bind_eq_some_iff] at h
  obtain ⟨manifest, -, target, -, platform, -, h⟩ := h
  cases h
  rfl

namespace Catalogue

variable {loads : Bytes → Option BoardMetadata} (catalogue : Catalogue loads)

def Has (pkg : Package) : Prop :=
  ∃ release ∈ catalogue.releases, packageOf release pkg.board = some pkg

def Sound (root : Path) (t : FileTree Bytes) : Prop :=
  ∀ pkg, catalogue.Has pkg → pkg.Known root t ∧ pkg.Whole loads root t

variable {catalogue}

theorem Has.named {pkg : Package} (h : catalogue.Has pkg) : pkg.Named loads := by
  obtain ⟨release, hrelease, hpkg⟩ := h
  exact catalogue.named release hrelease _ pkg hpkg

theorem Has.eq_of_dir {pkg pkg' : Package} (h : catalogue.Has pkg) (h' : catalogue.Has pkg')
    {root : Path} (hdir : pkg.dir root = pkg'.dir root) : pkg = pkg' := by
  obtain ⟨release, hrelease, hpkg⟩ := h
  obtain ⟨release', hrelease', hpkg'⟩ := h'
  have hlists := List.append_cancel_left hdir
  simp only [List.cons.injEq, String.toList_inj, and_true] at hlists
  obtain ⟨hboard, hversion⟩ := hlists
  rw [← hboard] at hpkg'
  exact catalogue.consistent release hrelease release' hrelease' _ pkg pkg' hpkg hpkg' hversion

end Catalogue

/-! ### Paths -/

theorem plain_fileName {board version suffix : String} (hboard : Plain board.toList)
    (hversion : Plain version.toList) (hsuffix : '/' ∉ suffix.toList) :
    Plain (fileName board version suffix).toList := by
  have htext : (fileName board version suffix).toList =
      "firmware-".toList ++ board.toList ++ "-".toList ++ version.toList ++ suffix.toList := by
    simp only [fileName, String.toList_append]
  have hlength : 9 ≤ (fileName board version suffix).toList.length := by
    rw [htext]
    simp only [List.length_append]
    have : "firmware-".toList.length = 9 := rfl
    omega
  refine ⟨?_, ?_, ?_, ?_⟩
  · rw [htext]
    simp only [List.mem_append, not_or]
    exact ⟨⟨⟨⟨by decide, hboard.1⟩, by decide⟩, hversion.1⟩, hsuffix⟩
  all_goals
    intro heq
    rw [heq] at hlength
    exact absurd hlength (by decide)

namespace Package.Named

variable {loads : Bytes → Option BoardMetadata} {root : Path} {pkg : Package}

theorem cacheDirFor_eq (h : pkg.Named loads) :
    cacheDirFor root pkg.board pkg.version = pkg.dir root := by
  rw [cacheDirFor, joinText_of_plain root h.board, joinText_of_plain _ h.version, dir,
    List.append_assoc]
  rfl

theorem plain_mtName (h : pkg.Named loads) : Plain (mtName pkg.board pkg.version).toList :=
  plain_fileName h.board h.version (by decide)

theorem plain_factoryName (h : pkg.Named loads) :
    Plain (factoryName pkg.board pkg.version).toList :=
  plain_fileName h.board h.version (by decide)

end Package.Named

/-! ### What the actions keep -/

section Keeps

variable {loads : Bytes → Option BoardMetadata} {catalogue : Catalogue loads} {root : Path}
  {pkg : Package} {t t' : FileTree Bytes}

theorem not_prefix_dir (pkg pkg' : Package) (root : Path) (name : List Char) :
    ¬ pkg'.dir root ++ [name] <+: pkg.dir root := by
  intro h
  have hlength := h.length_le
  simp only [Package.dir, List.length_append, List.length_cons, List.length_nil] at hlength
  omega

theorem path_inj {name name' : String} (h : pkg.path root name = pkg.path root name') :
    name = name' := by
  have hnames := List.append_cancel_left h
  rw [List.cons.injEq, String.toList_inj] at hnames
  exact hnames.1

theorem sound_congr (hsame : ∀ name, t'.get? (pkg.dir root ++ [name]) =
    t.get? (pkg.dir root ++ [name])) (h : pkg.Known root t ∧ pkg.Whole loads root t) :
    pkg.Known root t' ∧ pkg.Whole loads root t' := by
  have hstored : ∀ name, pkg.Stored root name t → pkg.Stored root name t' := by
    rintro name ⟨content, hmember, hget⟩
    exact ⟨content, hmember, (hsame name.toList).trans hget⟩
  refine ⟨fun name node hget => h.1 name node ((hsame name).symm.trans hget), fun hfactory => ?_⟩
  have hthere : t.get? (pkg.path root (factoryName pkg.board pkg.version)) ≠ none := by
    rw [Package.path, ← hsame]
    exact hfactory
  obtain ⟨hmt, hwhole, hspiffs⟩ := h.2 hthere
  exact ⟨hstored _ hmt, hstored _ hwhole, fun name content hname =>
    hstored name (hspiffs name content hname)⟩

theorem Catalogue.Sound.along (h : catalogue.Sound root t) (halong : Along (pkg.dir root) t t') :
    catalogue.Sound root t' := by
  intro pkg' hpkg'
  refine sound_congr (fun name => ?_) (h pkg' hpkg')
  rcases halong (pkg'.dir root ++ [name]) with hsame | ⟨habove, -⟩
  · exact hsame
  · exact absurd habove (not_prefix_dir pkg pkg' root name)

theorem get?_put_other (hpkg : catalogue.Has pkg) {pkg' : Package} (hpkg' : catalogue.Has pkg')
    (hne : pkg' ≠ pkg) (name name' : List Char) (node : Node Bytes) :
    (t.put (pkg.dir root ++ [name]) node).get? (pkg'.dir root ++ [name']) =
      t.get? (pkg'.dir root ++ [name']) := by
  refine FileTree.get?_put_of_ne _ _ fun heq => hne ?_
  have hdir := congrArg List.dropLast heq
  rw [List.dropLast_concat, List.dropLast_concat] at hdir
  exact hpkg'.eq_of_dir hpkg hdir

theorem Package.Known.put (h : pkg.Known root t) {name : String}
    (hname : (pkg.members.get? name).isSome) (content : Bytes) :
    pkg.Known root (t.put (pkg.path root name) (.file content)) := by
  intro other node hget
  by_cases heq : other = name.toList
  · subst heq
    rw [← Package.path, FileTree.get?_put_self] at hget
    cases hget
    exact ⟨⟨content, rfl⟩, by rwa [String.ofList_toList]⟩
  · have hne : pkg.dir root ++ [other] ≠ pkg.path root name := fun hpath =>
      heq (by simpa [Package.path] using hpath)
    rw [FileTree.get?_put_of_ne _ _ hne] at hget
    exact h other node hget

theorem Catalogue.Sound.put (h : catalogue.Sound root t) (hpkg : catalogue.Has pkg)
    (hfactory : t.get? (pkg.path root (factoryName pkg.board pkg.version)) = none) {name : String}
    (hname : (pkg.members.get? name).isSome) (hne : name ≠ factoryName pkg.board pkg.version)
    (content : Bytes) : catalogue.Sound root (t.put (pkg.path root name) (.file content)) := by
  intro pkg' hpkg'
  by_cases heq : pkg' = pkg
  · subst heq
    refine ⟨(h _ hpkg).1.put hname content, fun hthere => ?_⟩
    rw [FileTree.get?_put_of_ne _ _ (fun hpath => hne (path_inj hpath.symm)),
      hfactory] at hthere
    exact absurd rfl hthere
  · exact sound_congr (fun name' => get?_put_other hpkg hpkg' heq name.toList name' _)
      (h pkg' hpkg')

/-- The cache with the metadata and the factory image of a package, before its file system image. -/
structure Factored (catalogue : Catalogue loads) (root : Path) (pkg : Package)
    (t : FileTree Bytes) : Prop where
  others : ∀ pkg', catalogue.Has pkg' → pkg' ≠ pkg → pkg'.Known root t ∧ pkg'.Whole loads root t
  known : pkg.Known root t
  metadata : pkg.Stored root (mtName pkg.board pkg.version) t
  factory : pkg.Stored root (factoryName pkg.board pkg.version) t
  dir : t.get? (pkg.dir root) = some .dir

theorem mtName_ne_factoryName (board version : String) :
    mtName board version ≠ factoryName board version := by
  intro h
  have hlists := congrArg String.toList h
  simp only [mtName, factoryName, fileName, String.toList_append] at hlists
  exact absurd (List.append_cancel_left hlists) (by decide)

theorem Package.Stored.put {name name' : String} {content : Bytes}
    (h : pkg.Stored root name t) (hcontent : pkg.members.get? name' = some content) :
    pkg.Stored root name (t.put (pkg.path root name') (.file content)) := by
  obtain ⟨old, hmember, hget⟩ := h
  by_cases heq : name = name'
  · subst heq
    exact ⟨content, hcontent, FileTree.get?_put_self _ _ _⟩
  · exact ⟨old, hmember, (FileTree.get?_put_of_ne _ _
      (fun hpath => heq (path_inj hpath))).trans hget⟩

theorem Package.stored_put_self {name : String} {content : Bytes}
    (hcontent : pkg.members.get? name = some content) (t : FileTree Bytes) :
    pkg.Stored root name (t.put (pkg.path root name) (.file content)) :=
  ⟨content, hcontent, FileTree.get?_put_self _ _ _⟩

theorem get?_dir_put (pkg : Package) (root : Path) (t : FileTree Bytes) (name : String)
    (node : Node Bytes) :
    (t.put (pkg.path root name) node).get? (pkg.dir root) = t.get? (pkg.dir root) := by
  refine FileTree.get?_put_of_ne _ _ fun heq => ?_
  exact not_prefix_dir pkg pkg root name.toList ⟨[], by rw [List.append_nil]; exact heq.symm⟩

theorem Catalogue.Sound.factored (h : catalogue.Sound root t) (hpkg : catalogue.Has pkg)
    (hdir : t.get? (pkg.dir root) = some .dir)
    (hmt : pkg.Stored root (mtName pkg.board pkg.version) t) {factory : Bytes}
    (hfactory : pkg.factory = some factory) :
    Factored catalogue root pkg
      (t.put (pkg.path root (factoryName pkg.board pkg.version)) (.file factory)) where
  others := fun pkg' hpkg' hne =>
    sound_congr (fun name' => get?_put_other hpkg hpkg' hne _ name' _) (h pkg' hpkg')
  known := (h pkg hpkg).1.put (Option.isSome_of_eq_some hfactory) factory
  metadata := hmt.put hfactory
  factory := Package.stored_put_self hfactory t
  dir := (get?_dir_put pkg root t _ _).trans hdir

theorem Factored.put (h : Factored catalogue root pkg t) (hpkg : catalogue.Has pkg) {name : String}
    {content : Bytes} (hcontent : pkg.members.get? name = some content) :
    Factored catalogue root pkg (t.put (pkg.path root name) (.file content)) where
  others := fun pkg' hpkg' hne =>
    sound_congr (fun name' => get?_put_other hpkg hpkg' hne _ name' _) (h.others pkg' hpkg' hne)
  known := h.known.put (Option.isSome_of_eq_some hcontent) content
  metadata := h.metadata.put hcontent
  factory := h.factory.put hcontent
  dir := (get?_dir_put pkg root t _ _).trans h.dir

theorem Factored.sound (h : Factored catalogue root pkg t)
    (hfilesystem : ∀ name content, pkg.filesystem loads = some (name, content) →
      pkg.Stored root name t) : catalogue.Sound root t := by
  intro pkg' hpkg'
  by_cases heq : pkg' = pkg
  · subst heq
    exact ⟨h.known, fun _ => ⟨h.metadata, h.factory, hfilesystem⟩⟩
  · exact h.others pkg' hpkg' heq

end Keeps

/-! ### An attempt -/

/-- No image of the package is cut when it is written. -/
structure Faults.WritesWhole (loads : Bytes → Option BoardMetadata) (faults : Faults)
    (pkg : Package) : Prop where
  factory : ∀ content, pkg.factory = some content → faults.writeFactory.completes content.length
  filesystem : ∀ name content, pkg.filesystem loads = some (name, content) →
    faults.writeFactory = .none ∧ faults.writeFilesystem.completes content.length

section Attempts

variable {loads : Bytes → Option BoardMetadata} {catalogue : Catalogue loads} {root : Path}
  {pkg : Package}

theorem Package.Named.straight_dir (h : pkg.Named loads) (hroot : Straight root) :
    Straight (pkg.dir root) :=
  straight_append hroot fun hmem => by
    rcases List.mem_cons.mp hmem with heq | hmem
    · exact h.board.2.2.2 heq.symm
    · exact straight_singleton h.version hmem

theorem Package.Named.straight_path (h : pkg.Named loads) (hroot : Straight root) {name : String}
    (hname : Plain name.toList) : Straight (pkg.path root name) :=
  straight_append (h.straight_dir hroot) (straight_singleton hname)

theorem confined_path (root : Path) (pkg : Package) (name : String) :
    Confined root (pkg.path root name) := by
  rw [Package.path, Package.dir, List.append_assoc]
  exact confined_append root _

theorem Package.Known.ne_dir {t : FileTree Bytes} (h : pkg.Known root t) (name : String) :
    t.get? (pkg.path root name) ≠ some .dir := by
  intro hdir
  obtain ⟨⟨content, hfile⟩, -⟩ := h name.toList .dir hdir
  cases hfile

/-- A file of the package is written: what a write of its whole content or of a part of it has to
    keep. -/
theorem meets_writeMember {T T' : FileTree Bytes → Prop} (hnamed : pkg.Named loads)
    (hroot : Straight root) {name : String} (hname : Plain name.toList)
    (hdir : ∀ t, T t → t.get? (pkg.dir root) = some .dir)
    (hknown : ∀ t, T t → pkg.Known root t) {content : Bytes} {fault : Fault}
    (hwhole : fault = .none → ∀ t, T t → T' (t.put (pkg.path root name) (.file content)))
    (hpart : ∀ n, fault = .raised n ∨ fault = .killed n → ∀ t, T t →
      catalogue.Sound root (t.put (pkg.path root name) (.file (content.take n)))) :
    Meets (Runs (Confined root) T) (writeFile (joinText (pkg.dir root) name) content fault)
      (fun _ => Runs (Confined root) T') (Left (Confined root) (catalogue.Sound root)) := by
  rw [joinText_of_plain _ hname]
  refine meets_writeFile (hnamed.straight_path hroot hname) (confined_path root pkg name)
    (fun t ht => ?_) (fun t ht => (hknown t ht).ne_dir name) hwhole hpart
  have hparent : (pkg.path root name).dropLast = pkg.dir root := List.dropLast_concat
  rw [hparent]
  exact hdir t ht

theorem bind_member_eq_some {members : OrderedDict String Bytes} {spiffs : Option String}
    {name : String} {content : Bytes}
    (h : (spiffs.bind fun name => (members.get? name).map fun content => (name, content)) =
      some (name, content)) : spiffs = some name ∧ members.get? name = some content := by
  obtain ⟨name', hname', hmap⟩ := Option.bind_eq_some_iff.mp h
  obtain ⟨content', hcontent', heq⟩ := Option.map_eq_some_iff.mp hmap
  cases heq
  exact ⟨hname', hcontent'⟩

theorem meets_writeFilesystem (hpkg : catalogue.Has pkg) (hroot : Straight root) {faults : Faults}
    (hwrites : faults.WritesWhole loads pkg) {mt : BoardMetadata}
    (hmt : pkg.metadata loads = some mt) {spiffs : Option String}
    (hspiffs : mt.spiffsFile = some spiffs) :
    Meets (Runs (Confined root) (Factored catalogue root pkg))
      (writeFilesystem (pkg.dir root) pkg.members spiffs faults.writeFilesystem)
      (fun _ => Runs (Confined root) fun t => catalogue.Sound root t ∧
        t.get? (pkg.path root (factoryName pkg.board pkg.version)) ≠ none)
      (Left (Confined root) (catalogue.Sound root)) := by
  have hfilesystem : pkg.filesystem loads =
      spiffs.bind fun name => (pkg.members.get? name).map fun content => (name, content) := by
    simp only [Package.filesystem, hmt, hspiffs, Option.bind_eq_bind, Option.bind_some]
  have hfactory : ∀ t, Factored catalogue root pkg t →
      t.get? (pkg.path root (factoryName pkg.board pkg.version)) ≠ none := by
    intro t ht
    obtain ⟨content, -, hget⟩ := ht.factory
    rw [hget]
    exact Option.some_ne_none _
  rw [writeFilesystem, ← hfilesystem]
  cases himage : pkg.filesystem loads with
  | none =>
    refine meets_pure fun d hd => hd.imp fun t ht => ⟨ht.sound ?_, hfactory t ht⟩
    intro name content hnone
    rw [himage] at hnone
    cases hnone
  | some image =>
    obtain ⟨name, content⟩ := image
    obtain ⟨hname, hcontent⟩ := bind_member_eq_some (hfilesystem.symm.trans himage)
    have hsound : ∀ t, Factored catalogue root pkg t →
        catalogue.Sound root (t.put (pkg.path root name) (.file content)) := by
      intro t ht
      refine (ht.put hpkg hcontent).sound fun name' content' himage' => ?_
      rw [himage] at himage'
      cases himage'
      exact Package.stored_put_self hcontent t
    have hplain := hpkg.named.spiffs mt name hmt (by rw [hspiffs, hname])
    refine meets_writeMember hpkg.named hroot hplain
      (fun t ht => ht.dir) (fun t ht => ht.known) (fun _ t ht => ?_) fun n hstops t ht => ?_
    · exact ⟨hsound t ht, hfactory _ (ht.put hpkg hcontent)⟩
    · rw [take_of_completes hstops (hwrites.filesystem name content himage).2]
      exact hsound t ht

theorem meets_unpackBoard (hpkg : catalogue.Has pkg) (hroot : Straight root) {faults : Faults}
    (hwrites : faults.WritesWhole loads pkg) :
    Meets
      (Runs (Confined root) fun t => catalogue.Sound root t ∧
        t.get? (pkg.path root (factoryName pkg.board pkg.version)) = none ∧
          t.get? (pkg.dir root) = some .dir)
      (unpackBoard loads root pkg.board pkg.version pkg.members faults)
      (fun mt => Runs (Confined root) fun t => (catalogue.Sound root t ∧
        t.get? (pkg.path root (factoryName pkg.board pkg.version)) ≠ none) ∧
          pkg.metadata loads = some mt)
      (Left (Confined root) (catalogue.Sound root)) := by
  have hnamed := hpkg.named
  have hleft := fun (d : Disk) hd => Runs.left (A := Confined root) (d := d)
    (T := fun t => catalogue.Sound root t ∧
      t.get? (pkg.path root (factoryName pkg.board pkg.version)) = none ∧
        t.get? (pkg.dir root) = some .dir) (S := catalogue.Sound root) (fun t ht => ht.1) hd
  unfold unpackBoard
  rw [hnamed.cacheDirFor_eq]
  cases hmtContent : pkg.members.get? (mtName pkg.board pkg.version) with
  | none => exact meets_ofOption_none_bind hleft
  | some mtContent =>
  rw [ofOption_some_bind]
  cases hfactory : pkg.members.get? (factoryName pkg.board pkg.version) with
  | none => exact meets_ofOption_none_bind hleft
  | some factory =>
  rw [ofOption_some_bind]
  cases hloads : loads mtContent with
  | none => exact meets_ofOption_none_bind hleft
  | some mt =>
  rw [ofOption_some_bind]
  have hmt : pkg.metadata loads = some mt := by
    rw [Package.metadata, hmtContent, Option.bind_some, hloads]
  have hsound : ∀ t content, catalogue.Sound root t →
      t.get? (pkg.path root (factoryName pkg.board pkg.version)) = none →
      catalogue.Sound root (t.put (pkg.path root (mtName pkg.board pkg.version))
        (.file content)) :=
    fun t content ht hnone => ht.put hpkg hnone (Option.isSome_of_eq_some hmtContent)
      (mtName_ne_factoryName pkg.board pkg.version) content
  refine meets_bind (Q := fun _ => Runs (Confined root) fun t => catalogue.Sound root t ∧
      t.get? (pkg.dir root) = some .dir ∧ pkg.Stored root (mtName pkg.board pkg.version) t)
    (meets_writeMember hnamed hroot hnamed.plain_mtName
      (fun t ht => ht.2.2) (fun t ht => (ht.1 pkg hpkg).1) (fun _ t ht => ?_)
      fun n _ t ht => hsound t _ ht.1 ht.2.1) fun _ => ?_
  · exact ⟨hsound t _ ht.1 ht.2.1, (get?_dir_put pkg root t _ _).trans ht.2.2,
      Package.stored_put_self hmtContent t⟩
  refine meets_bind (Q := fun _ => Runs (Confined root) (Factored catalogue root pkg))
    (meets_writeMember hnamed hroot hnamed.plain_factoryName
      (fun t ht => ht.2.1) (fun t ht => (ht.1 pkg hpkg).1)
      (fun _ t ht => ht.1.factored hpkg ht.2.1 ht.2.2 hfactory) fun n hstops t ht => ?_) fun _ => ?_
  · -- cut after its last byte, and only where no file system image is to follow
    rw [take_of_completes hstops (hwrites.factory factory hfactory)]
    refine (ht.1.factored hpkg ht.2.1 ht.2.2 hfactory).sound fun name content himage => ?_
    have hnone := (hwrites.filesystem name content himage).1
    rw [hnone] at hstops
    rcases hstops with hstops | hstops <;> cases hstops
  cases hspiffs : mt.spiffsFile with
  | none =>
    refine meets_ofOption_none_bind fun d hd => hd.left fun t ht => ht.sound ?_
    intro name content himage
    simp [Package.filesystem, hmt, hspiffs] at himage
  | some spiffs =>
  rw [ofOption_some_bind]
  refine meets_bind (meets_writeFilesystem hpkg hroot hwrites hmt hspiffs) fun _ => ?_
  exact meets_pure fun d hd => hd.imp fun t ht => ⟨ht, hmt⟩

theorem meets_fetchBoard (hpkg : catalogue.Has pkg) (hroot : Straight root)
    {archive : Option (OrderedDict String Bytes)} (harchive : archive.getD .empty = pkg.members)
    {faults : Faults} (hwrites : faults.WritesWhole loads pkg) :
    Meets
      (Runs (Confined root) fun t => catalogue.Sound root t ∧
        t.get? (pkg.path root (factoryName pkg.board pkg.version)) = none)
      (fetchBoard loads root pkg.board pkg.version archive faults)
      (fun mt => Runs (Confined root) fun t => (catalogue.Sound root t ∧
        t.get? (pkg.path root (factoryName pkg.board pkg.version)) ≠ none) ∧
          pkg.metadata loads = some mt)
      (Left (Confined root) (catalogue.Sound root)) := by
  have hnamed := hpkg.named
  unfold fetchBoard
  rw [hnamed.cacheDirFor_eq]
  cases archive with
  | none => exact meets_ofOption_none_bind fun d hd => hd.left fun t ht => ht.1
  | some members =>
  have hmembers : members = pkg.members := harchive
  subst hmembers
  rw [ofOption_some_bind]
  refine meets_bind (meets_mkdir (hnamed.straight_dir hroot) (by simp [Package.dir])
    (fun above h => confined_of_prefix h) (fun t t' ht halong => ht.1.along halong) _) fun _ => ?_
  refine meets_imp (Runs (Confined root) fun t => catalogue.Sound root t ∧
    t.get? (pkg.path root (factoryName pkg.board pkg.version)) = none ∧
      t.get? (pkg.dir root) = some .dir) ?_ fun d hd => hd.imp ?_
  · cases faults.archive with
    | false => exact meets_ofOption_none_bind fun d hd => hd.left fun t ht => ht.1
    | true => exact meets_unpackBoard hpkg hroot hwrites
  · rintro t' ⟨⟨t, ⟨hsound, hnone⟩, halong⟩, hdir⟩
    refine ⟨hsound.along halong, ?_, hdir⟩
    rcases halong (pkg.path root (factoryName pkg.board pkg.version)) with hsame | ⟨habove, -⟩
    · exact hsame.trans hnone
    · exact absurd habove (not_prefix_dir pkg pkg root _)

theorem meets_isCached (hpkg : catalogue.Has pkg) (hroot : Straight root) (faults : Faults) :
    Meets (Runs (Confined root) (catalogue.Sound root))
      (isCached (pkg.path root (mtName pkg.board pkg.version))
        (pkg.path root (factoryName pkg.board pkg.version)) faults)
      (fun cached => Runs (Confined root) fun t => catalogue.Sound root t ∧
        cached = (t.get? (pkg.path root (factoryName pkg.board pkg.version))).isSome)
      (Left (Confined root) (catalogue.Sound root)) := by
  have hnamed := hpkg.named
  unfold isCached
  refine meets_bind (meets_pathExists (hnamed.straight_path hroot hnamed.plain_mtName)
    (confined_path root pkg _) (fun _ ht => ht) _) fun there => ?_
  refine meets_ite (fun _ => ?_) fun hnot => meets_pure fun d hd => ?_
  · refine meets_imp _ (meets_pathExists (hnamed.straight_path hroot hnamed.plain_factoryName)
      (confined_path root pkg _) (fun _ ht => ht) _) fun d hd => hd.imp fun t ht => ht.1
  · refine hd.imp fun t ht => ⟨ht.1, ?_⟩
    -- without the metadata there is no factory image
    by_contra hfactory
    have hthere : t.get? (pkg.path root (factoryName pkg.board pkg.version)) ≠ none := by
      intro hnone
      rw [hnone] at hfactory
      exact hfactory rfl
    obtain ⟨⟨content, -, hget⟩, -⟩ := (ht.1 pkg hpkg).2 hthere
    rw [ht.2, hget] at hnot
    exact hnot rfl

theorem meets_loadBoard (hpkg : catalogue.Has pkg) (hroot : Straight root)
    {archive : Option (OrderedDict String Bytes)} (harchive : archive.getD .empty = pkg.members)
    {faults : Faults} (hwrites : faults.WritesWhole loads pkg) (cached : Bool) :
    Meets
      (Runs (Confined root) fun t => catalogue.Sound root t ∧
        cached = (t.get? (pkg.path root (factoryName pkg.board pkg.version))).isSome)
      (loadBoard loads root pkg.board pkg.version archive faults cached)
      (fun mt => Runs (Confined root) fun t => (catalogue.Sound root t ∧
        t.get? (pkg.path root (factoryName pkg.board pkg.version)) ≠ none) ∧
          pkg.metadata loads = some mt)
      (Left (Confined root) (catalogue.Sound root)) := by
  have hnamed := hpkg.named
  unfold loadBoard
  rw [hnamed.cacheDirFor_eq, joinText_of_plain _ hnamed.plain_mtName]
  cases cached with
  | false =>
    refine meets_imp _ (meets_fetchBoard hpkg hroot harchive hwrites)
      fun d hd => hd.imp fun t ht => ?_
    exact ⟨ht.1, by simpa using ht.2.symm⟩
  | true =>
    rw [if_pos rfl]
    refine meets_bind (meets_readFile (hnamed.straight_path hroot hnamed.plain_mtName)
      (confined_path root pkg _) (fun t ht => ht.1) _) fun content => ?_
    refine meets_ofOption ?_ fun d hd => hd.left fun t ht => ht.1.1
    rintro mt hmt d hd
    refine hd.imp fun t ht => ?_
    obtain ⟨⟨hsound, hcached⟩, hget⟩ := ht
    have hthere : t.get? (pkg.path root (factoryName pkg.board pkg.version)) ≠ none := by
      intro hnone
      rw [hnone] at hcached
      cases hcached
    obtain ⟨⟨stored, hmember, hstored⟩, -⟩ := (hsound pkg hpkg).2 hthere
    rw [hstored] at hget
    cases hget
    refine ⟨⟨hsound, hthere⟩, ?_⟩
    rw [Package.metadata, hmember, Option.bind_some, hmt]

def HandsOver (loads : Bytes → Option BoardMetadata) (pkg : Package) (fw : Firmware)
    (t : FileTree Bytes) : Prop :=
  ∀ eraseAll, ∃ images, pkg.images loads eraseAll = some images ∧
    (writeFlashArgs eraseAll fw).map (fun image => (image.1, fileAt t image.2)) =
      images.map fun image => (image.1, some image.2)

theorem fileAt_path (hnamed : pkg.Named loads) (hroot : Straight root) {name : String}
    (hname : Plain name.toList) {t : FileTree Bytes} {content : Bytes}
    (hget : t.get? (pkg.path root name) = some (.file content)) :
    fileAt t (pkg.path root name) = some content := by
  rw [fileAt, located_of_straight (hnamed.straight_path hroot hname), hget]

theorem handsOver_of_sound (hpkg : catalogue.Has pkg) (hroot : Straight root) {t : FileTree Bytes}
    (hsound : catalogue.Sound root t)
    (hthere : t.get? (pkg.path root (factoryName pkg.board pkg.version)) ≠ none)
    {mt : BoardMetadata} (hmt : pkg.metadata loads = some mt) {spiffs : Option String}
    (hspiffs : mt.spiffsFile = some spiffs) {offset : Option Int}
    (hoffset : mt.spiffsOffset = some offset) {fw : Firmware}
    (hfactory : fw.factoryBin = pkg.path root (factoryName pkg.board pkg.version))
    (hlittlefs : fw.littlefsBin = spiffs.bind fun name =>
      if (t.get? (pkg.path root name)).isSome then some (pkg.path root name) else none)
    (hfwOffset : fw.littlefsOffset = offset) : HandsOver loads pkg fw t := by
  have hnamed := hpkg.named
  obtain ⟨hknown, hwhole⟩ := hsound pkg hpkg
  obtain ⟨-, ⟨factory, hmember, hget⟩, hfilesystem⟩ := hwhole hthere
  have hfactoryAt : fileAt t fw.factoryBin = some factory := by
    rw [hfactory]
    exact fileAt_path hnamed hroot hnamed.plain_factoryName hget
  have hfs : pkg.filesystem loads =
      spiffs.bind fun name => (pkg.members.get? name).map fun content => (name, content) := by
    simp only [Package.filesystem, hmt, hspiffs, Option.bind_eq_bind, Option.bind_some]
  have himages : ∀ eraseAll, pkg.images loads eraseAll = some ((0, factory) ::
      match pkg.filesystem loads, offset with
      | some (_, content), some offset => if eraseAll then [(offset, content)] else []
      | _, _ => []) := by
    intro eraseAll
    simp only [Package.images, hmt, Package.factory, hmember, hoffset, Option.bind_eq_bind,
      Option.bind_some]
  intro eraseAll
  refine ⟨_, himages eraseAll, ?_⟩
  simp only [writeFlashArgs, List.map_cons, hfactoryAt, List.cons.injEq, true_and, hfwOffset]
  cases hname : spiffs.bind fun name => (pkg.members.get? name).map fun content => (name, content)
    with
  | none =>
    have hnone : fw.littlefsBin = none := by
      rw [hlittlefs]
      cases spiffs with
      | none => rfl
      | some name =>
        have hmissing : t.get? (pkg.path root name) = none := by
          by_contra hstands
          obtain ⟨node, hnode⟩ := Option.ne_none_iff_exists'.mp hstands
          have hmember := (hknown name.toList node hnode).2
          rw [String.ofList_toList, Option.isSome_iff_exists] at hmember
          obtain ⟨content, hcontent⟩ := hmember
          simp [hcontent] at hname
        simp [hmissing]
    rw [hfs, hname, hnone]
    rfl
  | some image =>
    obtain ⟨name, content⟩ := image
    obtain ⟨hspiffsName, hcontent⟩ := bind_member_eq_some hname
    subst hspiffsName
    obtain ⟨stored, hstored, hgetStored⟩ := hfilesystem name content (hfs.trans hname)
    rw [hcontent] at hstored
    cases hstored
    have hsome : fw.littlefsBin = some (pkg.path root name) := by
      rw [hlittlefs]
      simp [hgetStored]
    have hcontentAt : fileAt t (pkg.path root name) = some content :=
      fileAt_path hnamed hroot (hnamed.spiffs mt name hmt hspiffs) hgetStored
    rw [hfs, hname, hsome]
    cases offset with
    | none => rfl
    | some offset => cases eraseAll <;> simp [hcontentAt]

/-- **One attempt.** It keeps the cache sound however it ends, and hands over complete images. -/
theorem meets_ensureBoardFirmwareCached (hroot : Straight root) {release : Release}
    (hrelease : release ∈ catalogue.releases) {board : String} {faults : Faults}
    (hwrites : ∀ pkg, packageOf release board = some pkg → faults.WritesWhole loads pkg) :
    Meets (Runs (Confined root) (catalogue.Sound root))
      (ensureBoardFirmwareCached loads root board (some release) faults)
      (fun fw d => Runs (Confined root) (catalogue.Sound root) d ∧
        ∃ pkg, packageOf release board = some pkg ∧ HandsOver loads pkg fw d.tree)
      (Left (Confined root) (catalogue.Sound root)) := by
  have hraises := fun (d : Disk) hd => Runs.left (A := Confined root) (d := d)
    (T := catalogue.Sound root) (S := catalogue.Sound root) (fun t ht => ht) hd
  unfold ensureBoardFirmwareCached
  rw [ofOption_some_bind]
  cases hmanifest : manifestFromRelease release with
  | none => exact meets_ofOption_none_bind hraises
  | some manifest =>
  rw [ofOption_some_bind]
  cases htarget : manifest.targets.find? fun t => t.board = board with
  | none => exact meets_ofOption_none_bind hraises
  | some target =>
  rw [ofOption_some_bind]
  cases hplatform : target.platform with
  | none => exact meets_ofOption_none_bind hraises
  | some platform =>
  rw [ofOption_some_bind]
  obtain ⟨pkg, hpackage, hboard, hversion, harchive⟩ : ∃ pkg, packageOf release board = some pkg ∧
      pkg.board = board ∧ pkg.version = versionOf release manifest ∧
        (archiveOf release platform (versionOf release manifest)).getD .empty = pkg.members :=
    ⟨⟨board, versionOf release manifest,
        (archiveOf release platform (versionOf release manifest)).getD .empty⟩,
      by simp only [packageOf, hmanifest, htarget, hplatform, Option.bind_eq_bind,
      Option.bind_some], rfl, rfl, rfl⟩
  subst hboard
  have hpkg : catalogue.Has pkg := ⟨release, hrelease, hpackage⟩
  have hnamed := hpkg.named
  rw [← hversion] at harchive ⊢
  rw [hnamed.cacheDirFor_eq]
  dsimp only
  rw [joinText_of_plain _ hnamed.plain_mtName, joinText_of_plain _ hnamed.plain_factoryName]
  refine meets_bind (meets_isCached hpkg hroot faults) fun cached => ?_
  refine meets_bind (meets_loadBoard hpkg hroot harchive (hwrites pkg hpackage) cached) fun mt => ?_
  refine meets_of_pure fun hmt => ?_
  have hleft := fun (d : Disk) hd => Runs.left (A := Confined root) (d := d)
    (T := fun t => catalogue.Sound root t ∧
      t.get? (pkg.path root (factoryName pkg.board pkg.version)) ≠ none)
    (S := catalogue.Sound root) (fun t ht => ht.1) hd
  cases hspiffs : mt.spiffsFile with
  | none => exact meets_ofOption_none_bind hleft
  | some spiffs =>
  rw [ofOption_some_bind]
  cases hoffset : mt.spiffsOffset with
  | none => exact meets_ofOption_none_bind hleft
  | some offset =>
  rw [ofOption_some_bind]
  cases mt.mcu with
  | none => exact meets_ofOption_none_bind hleft
  | some mcu =>
  rw [ofOption_some_bind]
  cases spiffs with
  | none =>
    refine meets_pure fun d hd => ⟨hd.imp fun t ht => ht.1, pkg, hpackage, ?_⟩
    exact handsOver_of_sound hpkg hroot hd.2.1.1 hd.2.1.2 hmt hspiffs hoffset rfl rfl rfl
  | some name =>
    have hname := hnamed.spiffs mt name hmt hspiffs
    dsimp only
    rw [joinText_of_plain _ hname]
    refine meets_bind (meets_pathExists (hnamed.straight_path hroot hname)
      (confined_path root pkg name) (fun t ht => ht.1) _) fun there => ?_
    refine meets_pure fun d hd => ⟨hd.imp fun t ht => ht.1.1, pkg, hpackage, ?_⟩
    obtain ⟨⟨hsound, hthere⟩, hexists⟩ := hd.2.1
    refine handsOver_of_sound hpkg hroot hsound hthere hmt hspiffs hoffset rfl ?_ rfl
    rw [hexists]
    rfl

end Attempts

/-! ### Histories of attempts -/

/-- A request to flash, with GitHub's answers at that time and how the actions end. -/
structure Attempt where
  board : String
  tag : String
  eraseAll : Bool
  github : String → Option Release
  faults : Faults

/-- The address that `_resolve_release_sync` asks. -/
def releaseUrl (tag : String) : String :=
  if tag = "" then "https://api.github.com/repos/meshtastic/firmware/releases/latest"
  else "https://api.github.com/repos/meshtastic/firmware/releases/tags/" ++ tag

def Attempt.answer (a : Attempt) : Option Release := a.github (releaseUrl a.tag)

def Attempt.expected (loads : Bytes → Option BoardMetadata) (a : Attempt) :
    Option (List (Int × Bytes)) := do
  let release ← a.answer
  let pkg ← packageOf release a.board
  pkg.images loads a.eraseAll

def step (loads : Bytes → Option BoardMetadata) (root : Path) (s : Station) (a : Attempt) :
    Option Station :=
  some (attemptFlash (ensureBoardFirmwareCached loads root a.board a.answer a.faults)
    (writeFlashArgs a.eraseAll) (a.expected loads) s)

/-- GitHub answers with a release of the catalogue, and no image is cut when it is written. -/
def Uncut {loads : Bytes → Option BoardMetadata} (catalogue : Catalogue loads) (_ : Station)
    (a : Attempt) : Prop :=
  ∀ release, a.answer = some release → release ∈ catalogue.releases ∧
    ∀ pkg, packageOf release a.board = some pkg → a.faults.WritesWhole loads pkg

theorem sound_of_fresh {loads : Bytes → Option BoardMetadata} (catalogue : Catalogue loads)
    {root : Path} {s : Station} (h : s.Fresh root) : catalogue.Sound root s.tree := by
  have hnone : ∀ (pkg : Package) name, s.tree.get? (pkg.dir root ++ [name]) = none := by
    intro pkg name
    refine h.empty _ ?_ fun heq => ?_
    · rw [Package.dir, List.append_assoc]
      exact List.prefix_append _ _
    · have hlength := congrArg List.length heq
      simp [Package.dir] at hlength
  intro pkg _
  refine ⟨fun name node hget => ?_, fun hfactory => ?_⟩
  · rw [hnone] at hget
    cases hget
  · exact absurd (hnone pkg _) hfactory

/-- **Complete images.** From an empty cache, after any history of attempts that do not cut an
    image when they write it, every image that was handed to esptool is complete and nothing
    outside the folder was touched. -/
theorem meshtastic_good {loads : Bytes → Option BoardMetadata} (catalogue : Catalogue loads)
    {root : Path} (hroot : Straight root) {s₀ s : Station} (hfresh : s₀.Fresh root)
    (h : Reaches (step loads root) (Uncut catalogue) s₀ s) : s.Good root := by
  have hinvariant := h.invariant (I := fun s => catalogue.Sound root s.tree ∧ s.Good root) ?_ ?_
  · exact hinvariant.2
  · refine ⟨sound_of_fresh catalogue hfresh, ?_, ?_⟩
    · rw [hfresh.flashed]
      exact nofun
    · rw [hfresh.touched]
      exact nofun
  · rintro s a s' ⟨hsound, hgood⟩ huncut hstep
    cases hstep
    refine good_attemptFlash hsound hgood ?_
    cases hanswer : a.answer with
    | none => exact meets_ofOption_none_bind fun d hd => hd.left fun t ht => ht
    | some release =>
      obtain ⟨hrelease, hwrites⟩ := huncut release hanswer
      refine fun d hd => (meets_ensureBoardFirmwareCached hroot hrelease hwrites d hd).mono ?_
        fun d hleft => hleft
      rintro fw d ⟨hruns, pkg, hpkg, hhands⟩
      obtain ⟨images, himages, heq⟩ := hhands a.eraseAll
      refine ⟨hruns, images, ?_, heq⟩
      simp only [Attempt.expected, hanswer, Option.bind_eq_bind, Option.bind_some, hpkg, himages]

end Meshpoint.MeshtasticFirmware
