import Meshpoint.TarArchive

/-!
# Paths, links and where they lead

A file system with symbolic links, and the two ways a path is followed in it.  `walk` is what the
kernel does to open a path: every part but the last names a directory, and no more than a limit of
links is followed.  `realpath` is what the library does to write the path out without links: parts
that are not there are kept, and a link is resolved for itself before the rest of the path.

Where a walk arrives, `realpath` gives the same location (`realFrom_of_walkFrom`); and what it gives
leads to itself (`walk_of_fileAt`, `resolve_of_linkFree`).
-/

namespace PathResolution

open TarArchive

variable {B : Type*}

/-! ### File systems -/

inductive Entry (B : Type*)
  | dir
  | file (content : B)
  | link (target : List Char)
deriving DecidableEq

/-- What stands where, by the names from the root, which is a directory. -/
structure FileSystem (B : Type*) where
  nodes : List (Path × Entry B)
  root_dir : (nodes.find? fun node => node.1 = []).map Prod.snd = some .dir

namespace FileSystem

def get? (fs : FileSystem B) (path : Path) : Option (Entry B) :=
  (fs.nodes.find? fun node => node.1 = path).map Prod.snd

def isHere (name : List Char) : Bool := name = [] ∨ name = ['.']

def linkBase (here : Path) (target : List Char) : Path :=
  if target.head? = some '/' then [] else here

/-! ### Opening a path -/

/-- Follow the parts from a directory; `follow` goes on after a link. -/
def walkWith (fs : FileSystem B) (follow : Path → List (List Char) → Option Path) (here : Path) :
    List (List Char) → Option Path
  | [] => some here
  | name :: rest =>
    if isHere name then fs.walkWith follow here rest
    else if name = ['.', '.'] then fs.walkWith follow here.dropLast rest
    else
      match fs.get? (here ++ [name]) with
      | none => none
      | some .dir => fs.walkWith follow (here ++ [name]) rest
      | some (.file _) => if rest = [] then some (here ++ [name]) else none
      | some (.link target) => follow (linkBase here target) (segments target ++ rest)

/-- A lookup that follows up to `links` links. -/
def walkFrom (fs : FileSystem B) : Nat → Path → List (List Char) → Option Path
  | 0 => fs.walkWith fun _ _ => none
  | links + 1 => fs.walkWith (fs.walkFrom links)

def maxLinks : Nat := 40

/-- Where a path is opened; `none` when it is not there. -/
def walk (fs : FileSystem B) (path : Path) : Option Path := fs.walkFrom maxLinks [] path

/-- `Path.is_file`. -/
def isFile (fs : FileSystem B) (path : Path) : Bool :=
  match (fs.walk path).bind fs.get? with
  | some (.file _) => true
  | _ => false

/-- `Path.read_text`, up to the decoding; `none` when it raises. -/
def readFile (fs : FileSystem B) (path : Path) : Option B :=
  match (fs.walk path).bind fs.get? with
  | some (.file content) => some content
  | _ => none

/-! ### Writing a path out -/

/-- Resolve the parts from a location; `follow` resolves the target of a link. -/
def realWith (fs : FileSystem B) (follow : Path → List (List Char) → Option Path) (here : Path) :
    List (List Char) → Option Path
  | [] => some here
  | name :: rest =>
    if isHere name then fs.realWith follow here rest
    else if name = ['.', '.'] then fs.realWith follow here.dropLast rest
    else
      match fs.get? (here ++ [name]) with
      | some (.link target) =>
        (follow (linkBase here target) (segments target)).bind fun here => fs.realWith follow here rest
      | _ => fs.realWith follow (here ++ [name]) rest

/-- With up to `depth` links inside one another. -/
def realFrom (fs : FileSystem B) : Nat → Path → List (List Char) → Option Path
  | 0 => fs.realWith fun _ _ => none
  | depth + 1 => fs.realWith (fs.realFrom depth)

/-- More links inside one another than there are go round in a loop. -/
def depth (fs : FileSystem B) : Nat := max fs.nodes.length maxLinks

/-- `Path.resolve`; `none` when a loop of links makes it raise. -/
def resolve (fs : FileSystem B) (path : Path) : Option Path := fs.realFrom fs.depth [] path

/-! ### Resolving in parts -/

theorem realWith_append (fs : FileSystem B) (follow : Path → List (List Char) → Option Path)
    (here : Path) (names rest : List (List Char)) :
    fs.realWith follow here (names ++ rest) =
      (fs.realWith follow here names).bind fun here => fs.realWith follow here rest := by
  induction names generalizing here with
  | nil => rfl
  | cons name names ih =>
    simp only [List.cons_append, realWith]
    split
    · exact ih here
    · split
      · exact ih here.dropLast
      · split
        · rename_i target _
          rw [Option.bind_assoc]
          congr 1
          funext other
          exact ih other
        · exact ih (here ++ [name])

theorem realFrom_append (fs : FileSystem B) (depth : Nat) (here : Path)
    (names rest : List (List Char)) :
    fs.realFrom depth here (names ++ rest) =
      (fs.realFrom depth here names).bind fun here => fs.realFrom depth here rest := by
  cases depth with
  | zero => exact fs.realWith_append _ here names rest
  | succ depth => exact fs.realWith_append _ here names rest

theorem realWith_mono {fs : FileSystem B} {follow follow' : Path → List (List Char) → Option Path}
    (h : ∀ {here names path}, follow here names = some path → follow' here names = some path)
    {here : Path} {names : List (List Char)} {path : Path}
    (hreal : fs.realWith follow here names = some path) :
    fs.realWith follow' here names = some path := by
  induction names generalizing here with
  | nil => exact hreal
  | cons name names ih =>
    simp only [realWith] at hreal ⊢
    split at hreal
    · rename_i hhere
      rw [if_pos hhere]
      exact ih hreal
    · rename_i hhere
      rw [if_neg hhere]
      split at hreal
      · rename_i hup
        rw [if_pos hup]
        exact ih hreal
      · rename_i hup
        rw [if_neg hup]
        split at hreal
        · rename_i target hlink
          obtain ⟨other, hother, hrest⟩ := Option.bind_eq_some_iff.mp hreal
          exact Option.bind_eq_some_iff.mpr ⟨other, h hother, ih hrest⟩
        · exact ih hreal

theorem realFrom_succ {fs : FileSystem B} {depth : Nat} {here : Path} {names : List (List Char)}
    {path : Path} (h : fs.realFrom depth here names = some path) :
    fs.realFrom (depth + 1) here names = some path := by
  induction depth generalizing here names path with
  | zero => exact realWith_mono (fun hnone => by cases hnone) h
  | succ depth ih => exact realWith_mono ih h

theorem realFrom_mono {fs : FileSystem B} {depth depth' : Nat} (hle : depth ≤ depth') {here : Path}
    {names : List (List Char)} {path : Path} (h : fs.realFrom depth here names = some path) :
    fs.realFrom depth' here names = some path := by
  induction hle with
  | refl => exact h
  | step _ ih => exact realFrom_succ ih

/-! ### Walks and resolved paths -/

theorem realWith_of_walkWith {fs : FileSystem B}
    {follow follow' : Path → List (List Char) → Option Path}
    (hlink : ∀ {here names rest path}, follow here (names ++ rest) = some path →
      ((follow' here names).bind fun here => fs.realWith follow' here rest) = some path)
    {here : Path} {names : List (List Char)} {path : Path}
    (h : fs.walkWith follow here names = some path) :
    fs.realWith follow' here names = some path := by
  induction names generalizing here with
  | nil => exact h
  | cons name names ih =>
    simp only [walkWith, realWith] at h ⊢
    split at h
    · rename_i hhere
      rw [if_pos hhere]
      exact ih h
    · rename_i hhere
      rw [if_neg hhere]
      split at h
      · rename_i hup
        rw [if_pos hup]
        exact ih h
      · rename_i hup
        rw [if_neg hup]
        split at h
        · cases h
        · rename_i hdir
          rw [hdir]
          exact ih h
        · rename_i content hfile
          rw [hfile]
          split at h
          · rename_i hend
            rw [hend]
            exact h
          · cases h
        · rename_i target hentry
          rw [hentry]
          exact hlink h

/-- **Where a walk arrives** is where the path resolves to. -/
theorem realFrom_of_walkFrom {fs : FileSystem B} {links : Nat} {here : Path}
    {names : List (List Char)} {path : Path} (h : fs.walkFrom links here names = some path) :
    fs.realFrom links here names = some path := by
  induction links generalizing here names path with
  | zero =>
    apply realWith_of_walkWith _ h
    intro _ _ _ _ hnone
    cases hnone
  | succ links ih =>
    apply realWith_of_walkWith _ h
    -- the target and the rest in one walk: the target for itself, then the rest
    intro _ _ _ _ hall
    have hreal := ih hall
    rw [realFrom_append] at hreal
    obtain ⟨other, hother, hrest⟩ := Option.bind_eq_some_iff.mp hreal
    exact Option.bind_eq_some_iff.mpr ⟨other, hother, realFrom_succ hrest⟩

theorem resolve_of_walk {fs : FileSystem B} {path file : Path} (h : fs.walk path = some file) :
    fs.resolve path = some file :=
  realFrom_mono (Nat.le_max_right _ _) (realFrom_of_walkFrom h)

/-! ### Locations -/

def IsName (name : List Char) : Prop := isHere name = false ∧ name ≠ ['.', '.']

/-- No link stands on the way. -/
structure LinkFree (fs : FileSystem B) (path : Path) : Prop where
  isName : ∀ name ∈ path, IsName name
  no_link : ∀ above, above <+: path → ∀ target, fs.get? above ≠ some (.link target)

/-- Directories stand on the way, the location itself among them. -/
structure Standing (fs : FileSystem B) (path : Path) : Prop where
  isName : ∀ name ∈ path, IsName name
  dir : ∀ above, above <+: path → above ≠ [] → fs.get? above = some .dir

theorem get?_root (fs : FileSystem B) : fs.get? [] = some .dir := fs.root_dir

theorem no_link_root (fs : FileSystem B) (target : List Char) :
    fs.get? [] ≠ some (.link target) := by
  rw [get?_root]
  exact nofun

theorem isName_of {name : List Char} (h : ¬ isHere name = true) (hup : name ≠ ['.', '.']) :
    IsName name := ⟨Bool.eq_false_iff.mpr h, hup⟩

theorem isName_append {path : Path} (h : ∀ name ∈ path, IsName name) {last : List Char}
    (hlast : IsName last) : ∀ name ∈ path ++ [last], IsName name := by
  intro name hmem
  rcases List.mem_append.mp hmem with hold | hnew
  · exact h name hold
  · rw [List.mem_singleton.mp hnew]
    exact hlast

theorem LinkFree.root (fs : FileSystem B) : fs.LinkFree [] where
  isName := fun _ hmem => absurd hmem List.not_mem_nil
  no_link := fun _ habove => List.prefix_nil.mp habove ▸ fs.no_link_root

theorem LinkFree.dropLast {fs : FileSystem B} {path : Path} (h : fs.LinkFree path) :
    fs.LinkFree path.dropLast where
  isName := fun name hmem => h.isName name ((List.dropLast_subset path) hmem)
  no_link := fun above habove => h.no_link above (habove.trans (List.dropLast_prefix path))

theorem LinkFree.append {fs : FileSystem B} {path : Path} (h : fs.LinkFree path) {name : List Char}
    (hname : IsName name) (hentry : ∀ target, fs.get? (path ++ [name]) ≠ some (.link target)) :
    fs.LinkFree (path ++ [name]) where
  isName := isName_append h.isName hname
  no_link := by
    intro above habove
    rcases List.prefix_concat_iff.mp habove with rfl | hold
    · exact hentry
    · exact h.no_link above hold

theorem Standing.root (fs : FileSystem B) : fs.Standing [] where
  isName := fun _ hmem => absurd hmem List.not_mem_nil
  dir := fun _ habove hne => absurd (List.prefix_nil.mp habove) hne

theorem Standing.dropLast {fs : FileSystem B} {path : Path} (h : fs.Standing path) :
    fs.Standing path.dropLast where
  isName := fun name hmem => h.isName name ((List.dropLast_subset path) hmem)
  dir := fun above habove => h.dir above (habove.trans (List.dropLast_prefix path))

theorem Standing.append {fs : FileSystem B} {path : Path} (h : fs.Standing path) {name : List Char}
    (hname : IsName name) (hentry : fs.get? (path ++ [name]) = some .dir) :
    fs.Standing (path ++ [name]) where
  isName := isName_append h.isName hname
  dir := by
    intro above habove hne
    rcases List.prefix_concat_iff.mp habove with rfl | hold
    · exact hentry
    · exact h.dir above hold hne

theorem linkFree_of_realWith {fs : FileSystem B}
    {follow : Path → List (List Char) → Option Path}
    (hfollow : ∀ {here names path}, fs.LinkFree here → follow here names = some path → fs.LinkFree path)
    {here : Path} {names : List (List Char)} {path : Path} (hat : fs.LinkFree here)
    (h : fs.realWith follow here names = some path) : fs.LinkFree path := by
  induction names generalizing here with
  | nil =>
    obtain rfl := Option.some.inj h
    exact hat
  | cons name names ih =>
    simp only [realWith] at h
    split at h
    · exact ih hat h
    · rename_i hhere
      split at h
      · exact ih hat.dropLast h
      · rename_i hup
        split at h
        · rename_i target _
          obtain ⟨other, hother, hrest⟩ := Option.bind_eq_some_iff.mp h
          have hbase : fs.LinkFree (linkBase here target) := by
            unfold linkBase
            split
            · exact .root fs
            · exact hat
          exact ih (hfollow hbase hother) hrest
        · rename_i hentry
          exact ih (hat.append (isName_of hhere hup) hentry) h

theorem linkFree_of_realFrom {fs : FileSystem B} {depth : Nat} {here : Path}
    {names : List (List Char)} {path : Path} (hat : fs.LinkFree here)
    (h : fs.realFrom depth here names = some path) : fs.LinkFree path := by
  induction depth generalizing here names path with
  | zero =>
    apply linkFree_of_realWith _ hat h
    intro _ _ _ _ hnone
    cases hnone
  | succ depth ih => exact linkFree_of_realWith ih hat h

theorem linkFree_of_resolve {fs : FileSystem B} {path location : Path}
    (h : fs.resolve path = some location) : fs.LinkFree location :=
  linkFree_of_realFrom (.root fs) h

theorem resolve_append (fs : FileSystem B) (path rest : Path) :
    fs.resolve (path ++ rest) =
      (fs.resolve path).bind fun location => fs.realFrom fs.depth location rest :=
  fs.realFrom_append fs.depth [] path rest

/-- **A path without links** resolves to itself. -/
theorem realWith_of_linkFree {fs : FileSystem B}
    {follow : Path → List (List Char) → Option Path} {here names : Path}
    (h : fs.LinkFree (here ++ names)) : fs.realWith follow here names = some (here ++ names) := by
  induction names generalizing here with
  | nil => rw [List.append_nil]; rfl
  | cons name names ih =>
    have hcons : here ++ name :: names = here ++ [name] ++ names := by simp
    rw [hcons] at h ⊢
    obtain ⟨hhere, hup⟩ := h.isName name (by simp)
    simp only [realWith, hhere, hup, Bool.false_eq_true, if_false]
    split
    · rename_i target hlink
      exact absurd hlink (h.no_link _ (List.prefix_append _ _) target)
    · exact ih h

theorem resolve_of_linkFree {fs : FileSystem B} {path : Path} (h : fs.LinkFree path) :
    fs.resolve path = some path := by
  unfold resolve
  cases fs.depth with
  | zero => exact realWith_of_linkFree h
  | succ depth => exact realWith_of_linkFree h

/-! ### Files -/

/-- A file stands there, below directories. -/
structure FileAt (fs : FileSystem B) (path : Path) : Prop where
  isName : ∀ name ∈ path, IsName name
  dir : ∀ above, above <+: path → above ≠ [] → above ≠ path → fs.get? above = some .dir
  file : ∃ content, fs.get? path = some (.file content)

theorem arrives_walkWith {fs : FileSystem B} {follow : Path → List (List Char) → Option Path}
    (hfollow : ∀ {here names path}, fs.Standing here → follow here names = some path →
      fs.Standing path ∨ fs.FileAt path)
    {here : Path} {names : List (List Char)} {path : Path} (hhere : fs.Standing here)
    (h : fs.walkWith follow here names = some path) : fs.Standing path ∨ fs.FileAt path := by
  induction names generalizing here with
  | nil =>
    obtain rfl := Option.some.inj h
    exact .inl hhere
  | cons name names ih =>
    simp only [walkWith] at h
    split at h
    · exact ih hhere h
    · rename_i hnot
      split at h
      · exact ih hhere.dropLast h
      · rename_i hup
        have hname := isName_of hnot hup
        split at h
        · cases h
        · rename_i hdir
          exact ih (hhere.append hname hdir) h
        · rename_i content hfile
          split at h
          · obtain rfl := Option.some.inj h
            refine .inr ⟨isName_append hhere.isName hname, ?_, content, hfile⟩
            intro above habove hne hother
            rcases List.prefix_concat_iff.mp habove with heq | hold
            · exact absurd heq hother
            · exact hhere.dir above hold hne
          · cases h
        · rename_i target _
          have hbase : fs.Standing (linkBase here target) := by
            unfold linkBase
            split
            · exact .root fs
            · exact hhere
          exact hfollow hbase h

theorem arrives_walkFrom {fs : FileSystem B} {links : Nat} {here : Path}
    {names : List (List Char)} {path : Path} (hhere : fs.Standing here)
    (h : fs.walkFrom links here names = some path) : fs.Standing path ∨ fs.FileAt path := by
  induction links generalizing here names path with
  | zero =>
    apply arrives_walkWith _ hhere h
    intro _ _ _ _ hnone
    cases hnone
  | succ links ih => exact arrives_walkWith ih hhere h

/-- **A file is opened** where it stands. -/
theorem walkWith_of_fileAt {fs : FileSystem B} {follow : Path → List (List Char) → Option Path}
    {here names : Path} (h : fs.FileAt (here ++ names)) :
    fs.walkWith follow here names = some (here ++ names) := by
  induction names generalizing here with
  | nil => rw [List.append_nil]; rfl
  | cons name names ih =>
    have hcons : here ++ name :: names = here ++ [name] ++ names := by simp
    rw [hcons] at h ⊢
    obtain ⟨hnot, hup⟩ := h.isName name (by simp)
    simp only [walkWith, hnot, hup, Bool.false_eq_true, if_false]
    cases names with
    | nil =>
      rw [List.append_nil] at h ⊢
      obtain ⟨content, hcontent⟩ := h.file
      rw [hcontent]
      exact if_pos rfl
    | cons next names =>
      have hdir := h.dir (here ++ [name]) (List.prefix_append _ _) (by simp) (by simp)
      rw [hdir]
      exact ih h

theorem walk_of_fileAt {fs : FileSystem B} {path : Path} (h : fs.FileAt path) :
    fs.walk path = some path := walkWith_of_fileAt h

/-- **`is_file`** says that the path leads to a file. -/
theorem isFile_iff {fs : FileSystem B} {path : Path} :
    fs.isFile path = true ↔ ∃ file, fs.walk path = some file ∧ fs.FileAt file := by
  unfold isFile
  constructor
  · intro h
    split at h
    · rename_i content hcontent
      obtain ⟨file, hwalk, hfile⟩ := Option.bind_eq_some_iff.mp hcontent
      refine ⟨file, hwalk, ?_⟩
      rcases arrives_walkFrom (.root fs) hwalk with hdir | hat
      · -- a directory is no file
        by_cases hnil : file = []
        · rw [hnil, get?_root] at hfile
          cases hfile
        · rw [hdir.dir file (List.prefix_refl _) hnil] at hfile
          cases hfile
      · exact hat
    · cases h
  · rintro ⟨file, hwalk, hat⟩
    obtain ⟨content, hcontent⟩ := hat.file
    rw [hwalk, Option.bind_some, hcontent]

theorem fileAt_of_resolve {fs : FileSystem B} {path location : Path}
    (h : fs.resolve path = some location) (hfile : fs.isFile location = true) :
    fs.FileAt location := by
  obtain ⟨file, hwalk, hat⟩ := isFile_iff.mp hfile
  have hself := resolve_of_linkFree (linkFree_of_resolve h)
  rw [resolve_of_walk hwalk] at hself
  rw [← Option.some.inj hself]
  exact hat

end FileSystem

end PathResolution
