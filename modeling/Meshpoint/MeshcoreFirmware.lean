import Meshpoint.MeshtasticFirmware

/-!
# The cache of MeshCore firmware

Model of `_ensure_board_firmware_cached_sync` of `src/api/routes/meshcore_firmware_routes.py`. An
image is downloaded to a temporary file of its folder and renamed when it is there, so that an
attempt may fail at any action; but a download that ends early does not raise, and the board of the
request is joined into the path as it is.

`meshcore_good` says what holds after any history in which no download ends early and the boards are
names of folders; `firmware_good` is the result for both routes.
-/

namespace Meshpoint.MeshcoreFirmware

open ByteCodec TarArchive HostSession FirmwareFiles GuardedRun

/-! ### Releases -/

structure Asset where
  name : String
  content : Bytes

structure Release where
  tagName : String
  assets : List Asset

/-- The answers of GitHub: the list of releases, and the release of a tag. -/
structure GitHub where
  releases : Option (List Release)
  byTag : String → Option Release

def FLAVORS : List String := ["usb", "ble"]

def isCompanion (release : Release) : Bool := "companion-".toList <+: release.tagName.toList

/-- `_companion_releases_sync`; `none` when it raises. -/
def companionReleases (github : GitHub) (limit : Nat) : Option (List Release) := do
  let releases ← github.releases
  match releases.filter isCompanion with
  | [] => none
  | found => some (found.take limit)

/-- `_companion_release_by_tag_sync`. -/
def companionReleaseByTag (github : GitHub) (tag : String) : Option Release :=
  (github.byTag tag).filter isCompanion

/-- `_resolve_release_sync`. -/
def resolveRelease (github : GitHub) (tag : String) : Option Release :=
  if tag ≠ "" then companionReleaseByTag github tag
  else (companionReleases github 1).bind List.head?

/-! ### The route -/

def cacheDirFor (root : Path) (board tag flavor : String) : Path :=
  joinText (joinText (joinText root board) tag) flavor

/-- What the names of the images of a board begin with. -/
def imageStart (board flavor : String) : String := board ++ "_companion_radio_" ++ flavor ++ "-"

def IMAGE_END : String := "-merged.bin"

def imageOf (release : Release) (board flavor : String) : Option Asset :=
  release.assets.find? fun a =>
    (imageStart board flavor).toList <+: a.name.toList ∧ IMAGE_END.toList <:+ a.name.toList

/-- A name that `tempfile` makes up. -/
structure TempName where
  random : List Char
  plain : ∀ c ∈ random, c.isAlphanum = true ∨ c = '_'

def TempName.name (temp : TempName) : String :=
  String.ofList ("tmp".toList ++ temp.random ++ ".bin".toList)

structure Faults where
  mkdir : Fault := .none
  glob : Fault := .none
  createTemp : Fault := .none
  download : Fault := .none
  rename : Fault := .none
  unlink : Fault := .none

/-- `_download_to_sync` of the bytes that arrive before the connection ends, and the rename. -/
def downloadImage (tmp dest : Path) (arrived : Bytes) (faults : Faults) : Session Disk Unit := do
  writeFile tmp arrived faults.download
  rename tmp dest faults.rename

/-- The branch without a cached image: the download to a temporary file, which is removed when it
    raises. -/
def fetchImage (cacheDir : Path) (asset : Asset) (temp : TempName) (received : Nat)
    (faults : Faults) : Session Disk Path := do
  let dest := joinText cacheDir asset.name
  let tmp := joinText cacheDir temp.name
  writeFile tmp [] faults.createTemp
  let done ← attempt (downloadImage tmp dest (asset.content.take received) faults)
  match done with
  | some () => pure dest
  | none => do
    unlink tmp faults.unlink
    raise

/-- `_ensure_board_firmware_cached_sync`, for the release that GitHub answers with: the path of the
    image. -/
def ensureBoardFirmwareCached (root : Path) (board flavor : String) (answer : Option Release)
    (temp : TempName) (received : Nat) (faults : Faults) : Session Disk Path := do
  ofOption (if flavor ∈ FLAVORS then some () else none)
  let release ← ofOption answer
  let cacheDir := cacheDirFor root board release.tagName flavor
  mkdir cacheDir faults.mkdir
  let existing ← glob cacheDir (imageStart board flavor ++ "*" ++ IMAGE_END) faults.glob
  match existing with
  | image :: _ => pure image
  | [] => do
    let asset ← ofOption (imageOf release board flavor)
    fetchImage cacheDir asset temp received faults

/-! ### Packages -/

/-- What a release has for a board. -/
structure Package where
  board : String
  flavor : String
  release : Release

namespace Package

variable (root : Path) (pkg : Package)

def image : Option Asset := imageOf pkg.release pkg.board pkg.flavor

def dir : Path := root ++ [pkg.board.toList, pkg.release.tagName.toList, pkg.flavor.toList]

def path (name : String) : Path := pkg.dir root ++ [name.toList]

def IsTemp (name : List Char) : Prop := '-' ∉ name

/-- The folder of the package holds the whole image, and temporary files. -/
def Known (t : FileTree Bytes) : Prop :=
  ∀ name node, t.get? (pkg.dir root ++ [name]) = some node →
    ∃ image content, pkg.image = some image ∧ node = .file content ∧
      (IsTemp name ∨ (name = image.name.toList ∧ content = image.content))

/-- The folder of the package is one in the cache. -/
structure Named : Prop where
  board : Plain pkg.board.toList
  flavor : pkg.flavor ∈ FLAVORS

end Package

/-- The releases that GitHub answers with: a tag stands for one release, tags are plain names, and
    the names of assets have no slash and no wildcard. -/
structure Catalogue where
  releases : List Release
  consistent : ∀ release ∈ releases, ∀ release' ∈ releases,
    release.tagName = release'.tagName → release = release'
  tags : ∀ release ∈ releases, Plain release.tagName.toList
  assets : ∀ release ∈ releases, ∀ asset ∈ release.assets,
    ∀ c ∈ asset.name.toList, c ≠ '/' ∧ Literal c

namespace Catalogue

variable (catalogue : Catalogue)

def Has (pkg : Package) : Prop := pkg.release ∈ catalogue.releases ∧ pkg.Named

def Sound (root : Path) (t : FileTree Bytes) : Prop := ∀ pkg, catalogue.Has pkg → pkg.Known root t

variable {catalogue}

theorem Has.eq_of_dir {pkg pkg' : Package} (h : catalogue.Has pkg) (h' : catalogue.Has pkg')
    {root : Path} (hdir : pkg.dir root = pkg'.dir root) : pkg = pkg' := by
  have hlists := List.append_cancel_left hdir
  simp only [List.cons.injEq, String.toList_inj, and_true] at hlists
  obtain ⟨hboard, htag, hflavor⟩ := hlists
  have hrelease := catalogue.consistent _ h.1 _ h'.1 htag
  obtain ⟨board, flavor, release⟩ := pkg
  obtain ⟨board', flavor', release'⟩ := pkg'
  cases hboard
  cases hflavor
  cases hrelease
  rfl

end Catalogue

/-! ### Names and paths -/

theorem plain_of_hyphen {name : List Char} (hhyphen : '-' ∈ name) (hslash : '/' ∉ name) :
    Plain name := by
  refine ⟨hslash, ?_, ?_, ?_⟩
  · rintro rfl
    cases hhyphen
  · rintro rfl
    exact absurd hhyphen (by decide)
  · rintro rfl
    exact absurd hhyphen (by decide)

theorem TempName.toList_name (temp : TempName) :
    temp.name.toList = "tmp".toList ++ temp.random ++ ".bin".toList := String.toList_ofList

/-- Besides letters, digits and underscores there are only the characters of the two ends. -/
theorem TempName.cases_of_mem {temp : TempName} {c : Char} (h : c ∈ temp.name.toList) :
    c ∈ "tmp".toList ∨ (c.isAlphanum = true ∨ c = '_') ∨ c ∈ ".bin".toList := by
  rw [temp.toList_name] at h
  rcases List.mem_append.mp h with h | h
  · rcases List.mem_append.mp h with h | h
    · exact .inl h
    · exact .inr (.inl (temp.plain c h))
  · exact .inr (.inr h)

theorem TempName.isTemp (temp : TempName) : Package.IsTemp temp.name.toList := by
  intro hmem
  rcases TempName.cases_of_mem hmem with h | h | h
  · exact absurd h (by decide)
  · exact absurd h (by decide)
  · exact absurd h (by decide)

theorem TempName.isPlain (temp : TempName) : Plain temp.name.toList := by
  have hstart : 't' ∈ temp.name.toList := by
    rw [temp.toList_name]
    exact List.mem_append_left _ (List.mem_append_left _ (by decide))
  refine ⟨fun hmem => ?_, ?_, ?_, ?_⟩
  · rcases TempName.cases_of_mem hmem with h | h | h
    · exact absurd h (by decide)
    · exact absurd h (by decide)
    · exact absurd h (by decide)
  all_goals
    intro heq
    rw [heq] at hstart
    exact absurd hstart (by decide)

theorem plain_of_mem_flavors {flavor : String} (h : flavor ∈ FLAVORS) : Plain flavor.toList := by
  simp only [FLAVORS, List.mem_cons, List.not_mem_nil, or_false] at h
  rcases h with rfl | rfl
  · decide
  · decide

section Names

variable {catalogue : Catalogue} {root : Path} {pkg : Package} {t t' : FileTree Bytes}

theorem Catalogue.Has.plain_tag (h : catalogue.Has pkg) : Plain pkg.release.tagName.toList :=
  catalogue.tags _ h.1

theorem Catalogue.Has.cacheDirFor_eq (h : catalogue.Has pkg) :
    cacheDirFor root pkg.board pkg.release.tagName pkg.flavor = pkg.dir root := by
  rw [cacheDirFor, joinText_of_plain root h.2.board, joinText_of_plain _ h.plain_tag,
    joinText_of_plain _ (plain_of_mem_flavors h.2.flavor), Package.dir, List.append_assoc,
    List.append_assoc]
  rfl

theorem Catalogue.Has.straight_dir (h : catalogue.Has pkg) (hroot : Straight root) :
    Straight (pkg.dir root) := by
  refine straight_append hroot fun hmem => ?_
  rcases List.mem_cons.mp hmem with heq | hmem
  · exact h.2.board.2.2.2 heq.symm
  · rcases List.mem_cons.mp hmem with heq | hmem
    · exact h.plain_tag.2.2.2 heq.symm
    · exact straight_singleton (plain_of_mem_flavors h.2.flavor) hmem

theorem Catalogue.Has.straight_path (h : catalogue.Has pkg) (hroot : Straight root) {name : String}
    (hname : Plain name.toList) : Straight (pkg.path root name) :=
  straight_append (h.straight_dir hroot) (straight_singleton hname)

theorem confined_dir (root : Path) (pkg : Package) (below : Path) :
    Confined root (pkg.dir root ++ below) := by
  rw [Package.dir, List.append_assoc]
  exact confined_append root _

/-- The image of a package is one of the assets of its release, with the names that the pattern
    looks for. -/
theorem of_image_eq_some {image : Asset} (h : pkg.image = some image) :
    image ∈ pkg.release.assets ∧ (imageStart pkg.board pkg.flavor).toList <+: image.name.toList ∧
      IMAGE_END.toList <:+ image.name.toList := by
  have hfound := List.find?_some h
  exact ⟨List.mem_of_find?_eq_some h, by simpa using hfound⟩

theorem not_isTemp_of_suffix {name : List Char} (h : IMAGE_END.toList <:+ name) :
    ¬ Package.IsTemp name :=
  fun htemp => htemp (h.subset (by decide))

theorem Catalogue.Has.plain_image (h : catalogue.Has pkg) {image : Asset}
    (himage : pkg.image = some image) : Plain image.name.toList := by
  obtain ⟨hmem, -, hend⟩ := of_image_eq_some himage
  refine plain_of_hyphen (hend.subset (by decide)) fun hslash => ?_
  exact (catalogue.assets _ h.1 image hmem _ hslash).1 rfl

/-- A file that the pattern finds in a folder of the cache is the image of its package. -/
theorem Package.Known.of_fnmatch (h : pkg.Known root t) (hpkg : catalogue.Has pkg)
    {name : List Char} (hthere : (t.get? (pkg.dir root ++ [name])).isSome)
    (hmatch : fnmatch name
      ((imageStart pkg.board pkg.flavor).toList ++ '*' :: IMAGE_END.toList) = true) :
    ∃ image, pkg.image = some image ∧ name = image.name.toList ∧
      t.get? (pkg.path root image.name) = some (.file image.content) := by
  obtain ⟨node, hnode⟩ := Option.isSome_iff_exists.mp hthere
  obtain ⟨image, content, himage, rfl, hname⟩ := h name node hnode
  obtain ⟨hmem, hstart, -⟩ := of_image_eq_some himage
  -- the board stands in the name of an asset, so that it has no wildcard
  have hliteral : ∀ c ∈ (imageStart pkg.board pkg.flavor).toList, Literal c :=
    fun c hc => (catalogue.assets _ hpkg.1 image hmem c (hstart.subset hc)).2
  have hend : IMAGE_END.toList <:+ name :=
    (of_fnmatch_star hliteral (forall_mem_of_all (by decide)) hmatch).2
  rcases hname with htemp | ⟨rfl, rfl⟩
  · exact absurd htemp (not_isTemp_of_suffix hend)
  · exact ⟨image, himage, rfl, hnode⟩

/-! ### What the actions keep -/

theorem not_prefix_dir (pkg pkg' : Package) (root : Path) (name : List Char) :
    ¬ pkg'.dir root ++ [name] <+: pkg.dir root := by
  intro h
  have hlength := h.length_le
  simp only [Package.dir, List.length_append, List.length_cons, List.length_nil] at hlength
  omega

theorem Package.Known.mono (h : pkg.Known root t)
    (hfewer : ∀ name node, t'.get? (pkg.dir root ++ [name]) = some node →
      t.get? (pkg.dir root ++ [name]) = some node) : pkg.Known root t' :=
  fun name node hget => h name node (hfewer name node hget)

theorem Catalogue.Sound.along (h : catalogue.Sound root t) (halong : Along (pkg.dir root) t t') :
    catalogue.Sound root t' := by
  intro pkg' hpkg'
  refine (h pkg' hpkg').mono fun name node hget => ?_
  rcases halong (pkg'.dir root ++ [name]) with hsame | ⟨habove, -⟩
  · exact hsame.symm.trans hget
  · exact absurd habove (not_prefix_dir pkg pkg' root name)

/-- A file is written in the folder of a package: a temporary one, or the whole image. -/
theorem Catalogue.Sound.put (h : catalogue.Sound root t) (hpkg : catalogue.Has pkg) {image : Asset}
    (himage : pkg.image = some image) {name : String} {content : Bytes}
    (hname : Package.IsTemp name.toList ∨
      (name.toList = image.name.toList ∧ content = image.content)) :
    catalogue.Sound root (t.put (pkg.path root name) (.file content)) := by
  intro pkg' hpkg' other node hget
  by_cases heq : pkg'.dir root ++ [other] = pkg.path root name
  · rw [heq, FileTree.get?_put_self] at hget
    cases hget
    have hdir := congrArg List.dropLast heq
    rw [Package.path, List.dropLast_concat, List.dropLast_concat] at hdir
    obtain rfl := hpkg'.eq_of_dir hpkg hdir
    have hother : other = name.toList := by simpa [Package.path] using heq
    rw [hother]
    exact ⟨image, content, himage, rfl, hname⟩
  · rw [FileTree.get?_put_of_ne _ _ heq] at hget
    exact h pkg' hpkg' other node hget

theorem Catalogue.Sound.remove (h : catalogue.Sound root t) {path : Path}
    (hremoved : t.removeFile path = some t') : catalogue.Sound root t' := by
  intro pkg' hpkg'
  refine (h pkg' hpkg').mono fun name node hget => ?_
  rw [FileTree.get?_removeFile hremoved] at hget
  split at hget
  · cases hget
  · exact hget

theorem sound_of_fresh (catalogue : Catalogue) {s : Station} (h : s.Fresh root) :
    catalogue.Sound root s.tree := by
  intro pkg _ name node hget
  rw [h.empty] at hget
  · cases hget
  · rw [Package.dir, List.append_assoc]
    exact List.prefix_append _ _
  · intro heq
    have hlength := congrArg List.length heq
    simp [Package.dir] at hlength

theorem get?_dir_put (pkg : Package) (root : Path) (t : FileTree Bytes) (name : String)
    (node : Node Bytes) :
    (t.put (pkg.path root name) node).get? (pkg.dir root) = t.get? (pkg.dir root) := by
  refine FileTree.get?_put_of_ne _ _ fun heq => ?_
  exact not_prefix_dir pkg pkg root name.toList ⟨[], by rw [List.append_nil]; exact heq.symm⟩

theorem Package.Known.ne_dir (h : pkg.Known root t) (name : String) :
    t.get? (pkg.path root name) ≠ some .dir := by
  intro hdir
  obtain ⟨image, content, -, hfile, -⟩ := h name.toList .dir hdir
  cases hfile

end Names

/-! ### An attempt -/

section Attempts

variable {catalogue : Catalogue} {root : Path} {pkg : Package}

def Opened (catalogue : Catalogue) (root : Path) (pkg : Package) (t : FileTree Bytes) : Prop :=
  catalogue.Sound root t ∧ t.get? (pkg.dir root) = some .dir

def HandsOver (catalogue : Catalogue) (root : Path) (pkg : Package) (path : Path)
    (t : FileTree Bytes) : Prop :=
  catalogue.Sound root t ∧ ∃ image, pkg.image = some image ∧ fileAt t path = some image.content

theorem Catalogue.Has.fileAt_image (h : catalogue.Has pkg) (hroot : Straight root) {image : Asset}
    (himage : pkg.image = some image) {t : FileTree Bytes}
    (hget : t.get? (pkg.path root image.name) = some (.file image.content)) :
    fileAt t (pkg.path root image.name) = some image.content := by
  rw [fileAt, located_of_straight (h.straight_path hroot (h.plain_image himage)), hget]

theorem Opened.put {t : FileTree Bytes} (h : Opened catalogue root pkg t)
    (hpkg : catalogue.Has pkg) {image : Asset} (himage : pkg.image = some image) {name : String}
    {content : Bytes} (hname : Package.IsTemp name.toList ∨
      (name.toList = image.name.toList ∧ content = image.content)) :
    Opened catalogue root pkg (t.put (pkg.path root name) (.file content)) :=
  ⟨h.1.put hpkg himage hname, (get?_dir_put pkg root t name _).trans h.2⟩

theorem meets_writeTemp (hpkg : catalogue.Has pkg) (hroot : Straight root) {image : Asset}
    (himage : pkg.image = some image) (temp : TempName) (content : Bytes) (fault : Fault) :
    Meets (Runs (Confined root) (Opened catalogue root pkg))
      (writeFile (pkg.path root temp.name) content fault)
      (fun _ => Runs (Confined root) fun t => Opened catalogue root pkg t ∧
        t.get? (pkg.path root temp.name) = some (.file content))
      (Left (Confined root) (catalogue.Sound root)) := by
  refine meets_writeFile (hpkg.straight_path hroot temp.isPlain) (confined_dir root pkg _)
    (fun t ht => ?_) (fun t ht => (ht.1 pkg hpkg).ne_dir temp.name) (fun _ t ht => ?_)
    fun n _ t ht => (ht.put hpkg himage (.inl temp.isTemp)).1
  · have hparent : (pkg.path root temp.name).dropLast = pkg.dir root := List.dropLast_concat
    rw [hparent]
    exact ht.2
  · exact ⟨ht.put hpkg himage (.inl temp.isTemp), FileTree.get?_put_self _ _ _⟩

theorem meets_downloadImage (hpkg : catalogue.Has pkg) (hroot : Straight root) {image : Asset}
    (himage : pkg.image = some image) (temp : TempName) (faults : Faults) :
    Meets (Runs (Confined root) (Opened catalogue root pkg))
      (downloadImage (pkg.path root temp.name) (pkg.path root image.name) image.content faults)
      (fun _ => Runs (Confined root) (HandsOver catalogue root pkg (pkg.path root image.name)))
      (Left (Confined root) (catalogue.Sound root)) := by
  unfold downloadImage
  refine meets_bind (meets_writeTemp hpkg hroot himage temp _ _) fun _ => ?_
  refine meets_rename (hpkg.straight_path hroot temp.isPlain)
    (hpkg.straight_path hroot (hpkg.plain_image himage)) (confined_dir root pkg _)
    (confined_dir root pkg _) (fun t ht => ht.1.1) ?_ (fun t ht => ht.1) _
  rintro t t' content ⟨hopened, hwritten⟩ hget hremoved
  rw [hwritten] at hget
  cases hget
  refine ⟨(hopened.1.remove hremoved).put hpkg himage (.inr ⟨rfl, rfl⟩), image, himage, ?_⟩
  exact hpkg.fileAt_image hroot himage (FileTree.get?_put_self _ _ _)

theorem meets_fetchImage (hpkg : catalogue.Has pkg) (hroot : Straight root) {image : Asset}
    (himage : pkg.image = some image) (temp : TempName) {received : Nat}
    (hreceived : image.content.length ≤ received) (faults : Faults) :
    Meets (Runs (Confined root) (Opened catalogue root pkg))
      (fetchImage (pkg.dir root) image temp received faults)
      (fun path => Runs (Confined root) (HandsOver catalogue root pkg path))
      (Left (Confined root) (catalogue.Sound root)) := by
  unfold fetchImage
  dsimp only
  rw [joinText_of_plain _ (hpkg.plain_image himage), joinText_of_plain _ temp.isPlain,
    List.take_of_length_le hreceived]
  refine meets_bind (meets_writeTemp hpkg hroot himage temp [] _) fun _ => ?_
  refine meets_imp (Runs (Confined root) (Opened catalogue root pkg)) ?_
    fun d hd => hd.imp fun t ht => ht.1
  -- an exception of the download becomes a value, after which the temporary file is removed
  refine meets_bind (Q := fun done d => match done with
    | some () => Runs (Confined root) (HandsOver catalogue root pkg (pkg.path root image.name)) d
    | none => Left (Confined root) (catalogue.Sound root) d)
    (meets_attempt (meets_downloadImage hpkg hroot himage temp faults) (fun _ d hd => hd)
      fun d hd => hd) fun done => ?_
  cases done with
  | some _ => exact meets_pure fun d hd => hd
  | none =>
    refine meets_bind (meets_unlink (hpkg.straight_path hroot temp.isPlain)
      (confined_dir root pkg _) (fun t t' ht hremoved => ht.remove hremoved) _) fun _ => ?_
    exact meets_raise fun d hd => hd

theorem components_pattern (hboard : Plain pkg.board.toList) (hflavor : pkg.flavor ∈ FLAVORS) :
    components (imageStart pkg.board pkg.flavor ++ "*" ++ IMAGE_END).toList =
      [(imageStart pkg.board pkg.flavor).toList ++ '*' :: IMAGE_END.toList] := by
  have htext : (imageStart pkg.board pkg.flavor ++ "*" ++ IMAGE_END).toList =
      (imageStart pkg.board pkg.flavor).toList ++ '*' :: IMAGE_END.toList := by
    simp only [String.toList_append, List.append_assoc]
    rfl
  rw [htext]
  apply components_of_plain
  refine plain_of_hyphen ?_ ?_
  · exact List.mem_append_right _ (List.mem_cons_of_mem _ (by decide))
  · simp only [imageStart, String.toList_append, List.mem_append, not_or]
    refine ⟨⟨⟨⟨hboard.1, by decide⟩, (plain_of_mem_flavors hflavor).1⟩, by decide⟩, by decide⟩

theorem meets_globImage (hpkg : catalogue.Has pkg) (hroot : Straight root) (fault : Fault) :
    Meets (Runs (Confined root) (Opened catalogue root pkg))
      (glob (pkg.dir root) (imageStart pkg.board pkg.flavor ++ "*" ++ IMAGE_END) fault)
      (fun found => Runs (Confined root) fun t => Opened catalogue root pkg t ∧
        ∀ image ∈ found, HandsOver catalogue root pkg image t)
      (Left (Confined root) (catalogue.Sound root)) := by
  have hhyphen : '-' ∈ (imageStart pkg.board pkg.flavor).toList ++ '*' :: IMAGE_END.toList :=
    List.mem_append_right _ (List.mem_cons_of_mem _ (by decide))
  have hmeets := meets_glob (A := Confined root) (T := Opened catalogue root pkg)
    (S := catalogue.Sound root) (hpkg.straight_dir hroot) (confined_dir root pkg)
    (components_pattern hpkg.2.board hpkg.2.flavor) ?_ ?_ (fun t ht => ht.1) fault
  · refine fun d hd => (hmeets d hd).mono ?_ fun d hleft => hleft
    rintro found d hd
    refine hd.imp fun t ht => ⟨ht.1, fun path hpath => ?_⟩
    obtain ⟨name, rfl, hthere, hmatch⟩ := ht.2 path hpath
    obtain ⟨image, himage, rfl, hget⟩ := (ht.1.1 pkg hpkg).of_fnmatch hpkg hthere hmatch
    exact ⟨ht.1.1, image, himage, hpkg.fileAt_image hroot himage hget⟩
  · intro heq
    rw [heq] at hhyphen
    exact absurd hhyphen (by decide)
  · intro heq
    rw [heq] at hhyphen
    exact absurd hhyphen (by decide)

/-- **One attempt.** It keeps the cache sound however it ends, and hands over a whole image. -/
theorem meets_ensureBoardFirmwareCached (hroot : Straight root) {release : Release}
    (hrelease : release ∈ catalogue.releases) {board flavor : String}
    (hboard : Plain board.toList) (temp : TempName) {received : Nat}
    (hreceived : ∀ image, imageOf release board flavor = some image →
      image.content.length ≤ received) (faults : Faults) :
    Meets (Runs (Confined root) (catalogue.Sound root))
      (ensureBoardFirmwareCached root board flavor (some release) temp received faults)
      (fun path => Runs (Confined root) (HandsOver catalogue root ⟨board, flavor, release⟩ path))
      (Left (Confined root) (catalogue.Sound root)) := by
  unfold ensureBoardFirmwareCached
  by_cases hflavor : flavor ∈ FLAVORS
  · have hpkg : catalogue.Has ⟨board, flavor, release⟩ := ⟨hrelease, hboard, hflavor⟩
    rw [if_pos hflavor, ofOption_some_bind, ofOption_some_bind]
    dsimp only
    rw [hpkg.cacheDirFor_eq]
    refine meets_bind (meets_mkdir (hpkg.straight_dir hroot) (by simp [Package.dir])
      (fun above h => confined_of_prefix h) (fun t t' ht halong => ht.along halong) _) fun _ => ?_
    refine meets_imp (Runs (Confined root) (Opened catalogue root ⟨board, flavor, release⟩)) ?_
      fun d hd => hd.imp ?_
    · refine meets_bind (meets_globImage hpkg hroot _) fun found => ?_
      cases found with
      | cons path rest =>
        exact meets_pure fun d hd => hd.imp fun t ht => ht.2 path List.mem_cons_self
      | nil =>
        refine meets_imp (Runs (Confined root) (Opened catalogue root ⟨board, flavor, release⟩)) ?_
          fun d hd => hd.imp fun t ht => ht.1
        cases himage : imageOf release board flavor with
        | none => exact meets_ofOption_none_bind fun d hd => hd.left fun t ht => ht.1
        | some image =>
          exact meets_fetchImage hpkg hroot himage temp (hreceived image himage) faults
    · rintro t' ⟨⟨t, hsound, halong⟩, hdir⟩
      exact ⟨hsound.along halong, hdir⟩
  · rw [if_neg hflavor]
    exact meets_ofOption_none_bind fun d hd => hd.left fun t ht => ht

end Attempts

/-! ### Histories of attempts -/

/-- A request to flash, with GitHub's answers at that time, the name of its temporary file, how many
    bytes of the image arrive, and how the actions end. -/
structure Attempt where
  board : String
  tag : String
  flavor : String
  github : GitHub
  temp : TempName
  received : Nat
  faults : Faults

def Attempt.answer (a : Attempt) : Option Release := resolveRelease a.github a.tag

def Attempt.expected (a : Attempt) : Option (List (Int × Bytes)) := do
  let release ← a.answer
  let image ← imageOf release a.board a.flavor
  some [(0, image.content)]

def step (root : Path) (s : Station) (a : Attempt) : Option Station :=
  some (attemptFlash
    (ensureBoardFirmwareCached root a.board a.flavor a.answer a.temp a.received a.faults)
    (fun mergedBin => [(0, mergedBin)]) a.expected s)

/-- GitHub answers with a release of the catalogue, the board is the name of a folder, and the
    download does not end early. -/
structure Uncut (catalogue : Catalogue) (_ : Station) (a : Attempt) : Prop where
  release : ∀ release, a.answer = some release → release ∈ catalogue.releases
  board : ∀ release, a.answer = some release → Plain a.board.toList
  received : ∀ release image, a.answer = some release →
    imageOf release a.board a.flavor = some image → image.content.length ≤ a.received

/-- **Complete images.** From an empty cache, after any history of attempts for boards that are
    names and with downloads that do not end early, every image that was handed to esptool is
    complete and nothing outside the folder was touched. -/
theorem meshcore_good (catalogue : Catalogue) {root : Path} (hroot : Straight root)
    {s₀ s : Station} (hfresh : s₀.Fresh root)
    (h : Reaches (step root) (Uncut catalogue) s₀ s) : s.Good root := by
  have hinvariant := h.invariant (I := fun s => catalogue.Sound root s.tree ∧ s.Good root) ?_ ?_
  · exact hinvariant.2
  · refine ⟨sound_of_fresh catalogue hfresh, ?_, ?_⟩
    · rw [hfresh.flashed]
      exact nofun
    · rw [hfresh.touched]
      exact nofun
  · rintro s a s' ⟨hsound, hgood⟩ huncut hstep
    cases hstep
    refine good_attemptFlash hsound hgood ?_
    cases hanswer : a.answer with
    | none =>
      unfold ensureBoardFirmwareCached
      by_cases hflavor : a.flavor ∈ FLAVORS
      · rw [if_pos hflavor, ofOption_some_bind]
        exact meets_ofOption_none_bind fun d hd => hd.left fun t ht => ht
      · rw [if_neg hflavor]
        exact meets_ofOption_none_bind fun d hd => hd.left fun t ht => ht
    | some release =>
      have hmeets := meets_ensureBoardFirmwareCached hroot (huncut.release release hanswer)
        (huncut.board release hanswer) a.temp
        (fun image himage => huncut.received release image hanswer himage) a.faults
      refine fun d hd => (hmeets d hd).mono ?_ fun d hleft => hleft
      rintro path d ⟨hrunning, ⟨hsound', image, himage, hfile⟩, htouched⟩
      have himage' : imageOf release a.board a.flavor = some image := himage
      refine ⟨⟨hrunning, hsound', htouched⟩, [(0, image.content)], ?_, ?_⟩
      · simp only [Attempt.expected, hanswer, Option.bind_eq_bind, Option.bind_some, himage']
      · simp only [List.map_cons, List.map_nil, hfile]

/-! ### A release of each -/

def cacheRoot : Path := ["firmware".toList]

def emptyStation : Station := ⟨.empty, [], []⟩

def tbeamMetadata (content : Bytes) : Option MeshtasticFirmware.BoardMetadata :=
  if content = [1] then
    some ⟨some "esp32", [⟨some "littlefs-2.5.0.bin", some "spiffs"⟩],
      [⟨some "spiffs", some "0x300000"⟩]⟩
  else none

def tbeamArchive : OrderedDict String Bytes :=
  ⟨[("firmware-tbeam-2.5.0.mt.json", [1]), ("firmware-tbeam-2.5.0.factory.bin", [10, 11, 12]),
    ("littlefs-2.5.0.bin", [20, 21])], by decide⟩

def tbeamRelease : MeshtasticFirmware.Release :=
  ⟨"v2.5.0", ⟨[("firmware-2.5.0.json", .manifest ⟨"2.5.0", [⟨"tbeam", some "esp32"⟩]⟩),
    ("firmware-esp32-2.5.0.zip", .archive tbeamArchive)], by decide⟩⟩

def tbeamAttempt (faults : MeshtasticFirmware.Faults) : MeshtasticFirmware.Attempt :=
  ⟨"tbeam", "", true, fun _ => some tbeamRelease, faults⟩

def heltecRelease : Release :=
  ⟨"companion-v1.7.0", [⟨"Heltec_v3_companion_radio_usb-v1.7.0-abc-merged.bin", [1, 2, 3]⟩]⟩

def heltecAttempt (board : String) (received : Nat) : Attempt :=
  ⟨board, "", "usb", ⟨some [heltecRelease], fun _ => none⟩, ⟨['a'], forall_mem_of_all (by decide)⟩, received, {}⟩

theorem fresh_emptyStation : emptyStation.Fresh cacheRoot := by
  refine ⟨fun path habove hne => ?_, rfl, rfl⟩
  have hpath : path ≠ [] := by
    rintro rfl
    exact absurd habove (by decide)
  simp [emptyStation, FileTree.empty, FileTree.get?, Ne.symm hpath]

theorem packageOf_tbeamRelease {board : String} {pkg : MeshtasticFirmware.Package}
    (h : MeshtasticFirmware.packageOf tbeamRelease board = some pkg) :
    pkg = ⟨"tbeam", "2.5.0", tbeamArchive⟩ := by
  have hmanifest : MeshtasticFirmware.manifestFromRelease tbeamRelease =
      some ⟨"2.5.0", [⟨"tbeam", some "esp32"⟩]⟩ := by decide +kernel
  have harchive : MeshtasticFirmware.archiveOf tbeamRelease "esp32" "2.5.0" =
      some tbeamArchive := rfl
  by_cases hboard : "tbeam" = board
  · subst hboard
    simp [MeshtasticFirmware.packageOf, hmanifest, MeshtasticFirmware.versionOf, harchive] at h
    exact h.symm
  · simp [MeshtasticFirmware.packageOf, hmanifest, hboard] at h

def tbeamCatalogue : MeshtasticFirmware.Catalogue tbeamMetadata where
  releases := [tbeamRelease]
  consistent := by
    intro release hrelease release' hrelease' board pkg pkg' hpkg hpkg' _
    rw [List.mem_singleton.mp hrelease] at hpkg
    rw [List.mem_singleton.mp hrelease'] at hpkg'
    rw [packageOf_tbeamRelease hpkg, packageOf_tbeamRelease hpkg']
  named := by
    intro release hrelease board pkg hpkg
    rw [List.mem_singleton.mp hrelease] at hpkg
    cases packageOf_tbeamRelease hpkg
    refine ⟨by decide, by decide, fun mt name hmt hname => ?_⟩
    have hmetadata : MeshtasticFirmware.Package.metadata tbeamMetadata
        ⟨"tbeam", "2.5.0", tbeamArchive⟩ = tbeamMetadata [1] := rfl
    rw [hmetadata] at hmt
    cases hmt
    cases hname
    decide

def heltecCatalogue : Catalogue where
  releases := [heltecRelease]
  consistent := by
    intro release hrelease release' hrelease' _
    rw [List.mem_singleton.mp hrelease, List.mem_singleton.mp hrelease']
  tags := by
    intro release hrelease
    rw [List.mem_singleton.mp hrelease]
    decide
  assets := by
    intro release hrelease asset hasset
    rw [List.mem_singleton.mp hrelease] at hasset
    rw [List.mem_singleton.mp hasset]
    exact forall_mem_of_all (by decide +kernel)

theorem uncut_tbeamAttempt (s : Station) : MeshtasticFirmware.Uncut tbeamCatalogue s
    (tbeamAttempt {}) := by
  intro release hanswer
  cases hanswer
  exact ⟨List.mem_singleton.mpr rfl, fun pkg _ => ⟨fun _ _ => rfl, fun _ _ _ => ⟨rfl, rfl⟩⟩⟩

theorem uncut_heltecAttempt (s : Station) : Uncut heltecCatalogue s
    (heltecAttempt "Heltec_v3" 3) := by
  have hanswer : (heltecAttempt "Heltec_v3" 3).answer = some heltecRelease := by rfl
  refine ⟨fun release h => ?_, fun _ _ => by decide, fun release image h himage => ?_⟩
  · rw [hanswer] at h
    cases h
    exact List.mem_singleton.mpr rfl
  · rw [hanswer] at h
    cases h
    rw [List.mem_singleton.mp (List.mem_of_find?_eq_some himage)]
    decide

def tbeamFlashed : Flashed :=
  ⟨[(0, some [10, 11, 12]), (3145728, some [20, 21])],
    some [(0, [10, 11, 12]), (3145728, [20, 21])]⟩

def heltecFlashed : Flashed := ⟨[(0, some [1, 2, 3])], some [(0, [1, 2, 3])]⟩

/-! ### Both routes -/

/-- **Only complete images are flashed.** From an empty cache, after any history of attempts that
    meet the conditions of their route, what was handed to esptool is complete and nothing outside
    the folder was touched. -/
theorem firmware_good {loads : Bytes → Option MeshtasticFirmware.BoardMetadata}
    (meshtastic : MeshtasticFirmware.Catalogue loads) (meshcore : Catalogue) {root : Path}
    (hroot : Straight root) {s₀ : Station} (hfresh : s₀.Fresh root) :
    (∀ s, Reaches (MeshtasticFirmware.step loads root) (MeshtasticFirmware.Uncut meshtastic) s₀ s →
      s.Good root) ∧
      ∀ s, Reaches (step root) (Uncut meshcore) s₀ s → s.Good root :=
  ⟨fun _ h => MeshtasticFirmware.meshtastic_good meshtastic hroot hfresh h,
    fun _ h => meshcore_good meshcore hroot hfresh h⟩

theorem firmware_good_attempts :
    (∃ s : Station, s.flashed = [tbeamFlashed] ∧ s.Good cacheRoot) ∧
      ∃ s : Station, s.flashed = [heltecFlashed] ∧ s.Good cacheRoot := by
  have hroot : Straight cacheRoot := by
    unfold Straight
    decide
  have hgood := firmware_good tbeamCatalogue heltecCatalogue hroot fresh_emptyStation
  refine ⟨⟨_, ?_, hgood.1 _ (.tail .refl (uncut_tbeamAttempt _) rfl)⟩,
    ⟨_, ?_, hgood.2 _ (.tail .refl (uncut_heltecAttempt _) rfl)⟩⟩
  · decide +kernel
  · decide +kernel

/-- A first attempt that is killed in the factory image, a download that ends early, and a board
    that is not the name of a folder. -/
theorem firmware_cut :
    (∃ s, Reaches (MeshtasticFirmware.step tbeamMetadata cacheRoot) Always emptyStation s ∧
      ∃ f ∈ s.flashed, ¬ f.Complete) ∧
    (∃ s, Reaches (step cacheRoot) Always emptyStation s ∧ ∃ f ∈ s.flashed, ¬ f.Complete) ∧
      ∃ s, Reaches (step cacheRoot) Always emptyStation s ∧
        ∃ path ∈ s.touched, ¬ Confined cacheRoot path := by
  have htbeam : (replay (MeshtasticFirmware.step tbeamMetadata cacheRoot) Always emptyStation
      [tbeamAttempt { writeFactory := .killed 1 }, tbeamAttempt {}]).map Station.flashed =
        some [⟨[(0, some [10])], some [(0, [10, 11, 12]), (3145728, [20, 21])]⟩] := by
    decide +kernel
  have hheltec : (replay (step cacheRoot) Always emptyStation
      [heltecAttempt "Heltec_v3" 1]).map Station.flashed =
        some [⟨[(0, some [1])], some [(0, [1, 2, 3])]⟩] := by
    decide +kernel
  have houtside : ((replay (step cacheRoot) Always emptyStation [heltecAttempt "../evil" 3]).map
      fun s => decide (["evil".toList] ∈ s.touched)) = some true := by
    decide +kernel
  refine ⟨?_, ?_, ?_⟩
  · obtain ⟨s, hs, hflashed⟩ := Option.map_eq_some_iff.mp htbeam
    refine ⟨s, reaches_of_replay hs, _, by rw [hflashed]; exact List.mem_singleton.mpr rfl, ?_⟩
    rintro ⟨expected, hexpected, himages⟩
    cases hexpected
    exact absurd himages (by decide)
  · obtain ⟨s, hs, hflashed⟩ := Option.map_eq_some_iff.mp hheltec
    refine ⟨s, reaches_of_replay hs, _, by rw [hflashed]; exact List.mem_singleton.mpr rfl, ?_⟩
    rintro ⟨expected, hexpected, himages⟩
    cases hexpected
    exact absurd himages (by decide)
  · obtain ⟨s, hs, htouched⟩ := Option.map_eq_some_iff.mp houtside
    refine ⟨s, reaches_of_replay hs, _, of_decide_eq_true htouched, ?_⟩
    unfold Confined
    decide

end Meshpoint.MeshcoreFirmware
