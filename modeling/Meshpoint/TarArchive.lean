import Mathlib.Data.List.Basic

/-!
# What plain `tar` makes of the members of an archive

An archive is a list of named members.  `extract` follows GNU `tar -x` into an empty directory:
members are taken in order, leading and repeated slashes and `.` components do not count, a member
with a `..` component is skipped, missing parents are made, a later member of one path replaces an
earlier one, and a member that a file or a filled directory stands in the way of is left out.

The contents of files are of any type.
-/

namespace TarArchive

/-! ### Names and paths -/

/-- The components of a path below the directory of the extraction. -/
abbrev Path := List (List Char)

def segments : List Char → List (List Char)
  | [] => [[]]
  | c :: rest =>
    if c = '/' then [] :: segments rest
    else
      match segments rest with
      | [] => [[c]]
      | segment :: more => (c :: segment) :: more

def components (name : List Char) : Path :=
  (segments name).filter fun segment => segment ≠ [] ∧ segment ≠ ['.']

/-- Parts are compared by their characters. -/
scoped instance lawfulParts : LawfulBEq (List Char) := inferInstance

def goesUp (name : List Char) : Bool := ['.', '.'] ∈ segments name

/-- Where a regular file of the name is written: nowhere when the name goes up, or ends in a
    slash or a `.` component. -/
def landing (name : List Char) : Option Path :=
  if goesUp name then none
  else if (segments name).getLast? = some [] ∨ (segments name).getLast? = some ['.'] then none
  else some (components name)

theorem segments_ne_nil (name : List Char) : segments name ≠ [] := by
  cases name with
  | nil => exact List.cons_ne_nil _ _
  | cons c rest =>
    simp only [segments]
    split
    · exact List.cons_ne_nil _ _
    · split
      · exact List.cons_ne_nil _ _
      · exact List.cons_ne_nil _ _

theorem segments_append_slash {head : List Char} (h : '/' ∉ head) (rest : List Char) :
    segments (head ++ '/' :: rest) = head :: segments rest := by
  induction head with
  | nil => simp only [List.nil_append, segments, if_true]
  | cons c head ih =>
    rw [List.mem_cons, not_or] at h
    have hc : c ≠ '/' := fun heq => h.1 heq.symm
    simp only [List.cons_append, segments, if_neg hc, ih h.2]

theorem segments_of_not_mem {name : List Char} (h : '/' ∉ name) : segments name = [name] := by
  induction name with
  | nil => rfl
  | cons c rest ih =>
    rw [List.mem_cons, not_or] at h
    have hc : c ≠ '/' := fun heq => h.1 heq.symm
    simp only [segments, if_neg hc, ih h.2]

theorem segments_ne_singleton_nil {name : List Char} (h : '/' ∈ name) : segments name ≠ [[]] := by
  intro hsegments
  cases name with
  | nil => cases h
  | cons c rest =>
    simp only [segments] at hsegments
    split at hsegments
    · exact segments_ne_nil rest (List.cons.inj hsegments).2
    · split at hsegments
      · cases (List.cons.inj hsegments).1
      · cases (List.cons.inj hsegments).1

theorem not_mem_of_mem_segments {name segment : List Char} (h : segment ∈ segments name) :
    '/' ∉ segment := by
  induction name generalizing segment with
  | nil =>
    obtain rfl := List.mem_singleton.mp h
    exact List.not_mem_nil
  | cons c rest ih =>
    simp only [segments] at h
    split at h
    · rcases List.mem_cons.mp h with rfl | hrest
      · exact List.not_mem_nil
      · exact ih hrest
    · rename_i hc
      split at h
      · obtain rfl := List.mem_singleton.mp h
        simpa using Ne.symm hc
      · rename_i first more hrest
        rcases List.mem_cons.mp h with rfl | hmore
        · have hfirst := ih (hrest ▸ List.mem_cons_self)
          rw [List.mem_cons, not_or]
          exact ⟨Ne.symm hc, hfirst⟩
        · exact ih (hrest ▸ List.mem_cons_of_mem _ hmore)

theorem getLast?_segments_of_slash {name : List Char} (h : name.getLast? = some '/') :
    (segments name).getLast? = some [] := by
  induction name with
  | nil => cases h
  | cons c rest ih =>
    rw [List.getLast?_cons] at h
    cases hlast : rest.getLast? with
    | none =>
      obtain rfl := List.getLast?_eq_none_iff.mp hlast
      obtain rfl : c = '/' := by simpa using h
      rfl
    | some last =>
      rw [hlast] at h
      have hrest := ih (hlast.trans h)
      simp only [segments]
      split
      · rw [List.getLast?_cons, hrest]
        rfl
      · split
        · rename_i hnil
          exact absurd hnil (segments_ne_nil rest)
        · rename_i first more hsegments
          rw [hsegments] at hrest
          cases more with
          | nil =>
            -- the slash at the end has a part of its own
            obtain rfl : first = [] := by simpa using hrest
            have hmem : '/' ∈ rest := List.mem_of_getLast? (hlast.trans h)
            exact absurd hsegments (segments_ne_singleton_nil hmem)
          | cons second more =>
            rw [List.getLast?_cons_cons] at hrest ⊢
            exact hrest

def Plain (segment : List Char) : Prop :=
  '/' ∉ segment ∧ segment ≠ [] ∧ segment ≠ ['.'] ∧ segment ≠ ['.', '.']

instance (segment : List Char) : Decidable (Plain segment) :=
  inferInstanceAs (Decidable (_ ∧ _ ∧ _ ∧ _))

theorem components_append_slash {head : List Char} (h : Plain head) (rest : List Char) :
    components (head ++ '/' :: rest) = head :: components rest := by
  rw [components, segments_append_slash h.1, List.filter_cons, if_pos (by simp [h.2.1, h.2.2.1])]
  rfl

theorem components_of_plain {name : List Char} (h : Plain name) : components name = [name] := by
  rw [components, segments_of_not_mem h.1]
  simp [h.2.1, h.2.2.1]

theorem goesUp_append_slash {head : List Char} (h : Plain head) (rest : List Char) :
    goesUp (head ++ '/' :: rest) = goesUp rest := by
  have hne : ['.', '.'] ≠ head := Ne.symm h.2.2.2
  simp only [goesUp, segments_append_slash h.1, List.mem_cons, hne, false_or]

theorem landing_append_slash {head : List Char} (h : Plain head) (rest : List Char) :
    landing (head ++ '/' :: rest) = (landing rest).map (head :: ·) := by
  have hlast : (segments (head ++ '/' :: rest)).getLast? = (segments rest).getLast? := by
    rw [segments_append_slash h.1, List.getLast?_cons]
    cases hrest : (segments rest).getLast? with
    | none => exact absurd (List.getLast?_eq_none_iff.mp hrest) (segments_ne_nil rest)
    | some last => rfl
  unfold landing
  rw [goesUp_append_slash h, hlast, components_append_slash h]
  split
  · rfl
  · split
    · rfl
    · rfl

theorem landing_of_plain {name : List Char} (h : Plain name) : landing name = some [name] := by
  have hup : goesUp name = false := by
    simp only [goesUp, segments_of_not_mem h.1, List.mem_singleton, decide_eq_false_iff_not]
    exact Ne.symm h.2.2.2
  unfold landing
  rw [hup, segments_of_not_mem h.1, components_of_plain h]
  simp [h.2.1, h.2.2.1]

theorem getLast?_ne_slash_of_landing {name : List Char} {path : Path}
    (h : landing name = some path) : name ≠ [] ∧ name.getLast? ≠ some '/' := by
  unfold landing at h
  split at h
  · cases h
  · split at h
    · cases h
    · rename_i hlast
      rw [not_or] at hlast
      constructor
      · rintro rfl
        exact hlast.1 rfl
      · intro hslash
        exact hlast.1 (getLast?_segments_of_slash hslash)

theorem landing_ne_nil {name : List Char} : landing name ≠ some [] := by
  intro h
  unfold landing at h
  split at h
  · cases h
  · split at h
    · cases h
    · rename_i hlast
      rw [not_or] at hlast
      have hnone : components name = [] := Option.some.inj h
      obtain ⟨last, hsome⟩ : ∃ last, (segments name).getLast? = some last :=
        Option.ne_none_iff_exists'.mp
          (mt List.getLast?_eq_none_iff.mp (segments_ne_nil name))
      rw [hsome] at hlast
      have hmem : last ∈ components name := by
        apply List.mem_filter.mpr
        refine ⟨List.mem_of_getLast? hsome, ?_⟩
        simp only [Option.some.injEq] at hlast
        simp [hlast.1, hlast.2]
      rw [hnone] at hmem
      cases hmem

/-! ### Trees -/

inductive Node (B : Type*)
  | dir
  | file (content : B)
deriving DecidableEq

/-- What stands where, below a directory. -/
structure FileTree (B : Type*) where
  nodes : List (Path × Node B)

variable {B : Type*}

namespace FileTree

def empty : FileTree B := ⟨[([], .dir)]⟩

def get? (t : FileTree B) (path : Path) : Option (Node B) :=
  (t.nodes.find? fun node => node.1 = path).map Prod.snd

def put (t : FileTree B) (path : Path) (node : Node B) : FileTree B :=
  ⟨(path, node) :: t.nodes.filter fun other => other.1 ≠ path⟩

def isFilled (t : FileTree B) (path : Path) : Bool :=
  t.nodes.any fun node => path <+: node.1 ∧ node.1 ≠ path

@[simp] theorem get?_put_self (t : FileTree B) (path : Path) (node : Node B) :
    (t.put path node).get? path = some node := by
  simp [get?, put]

theorem get?_put_of_ne (t : FileTree B) {path other : Path} (node : Node B) (h : other ≠ path) :
    (t.put path node).get? other = t.get? other := by
  have hne : path ≠ other := Ne.symm h
  simp only [get?, put, List.find?_cons, hne, decide_false, List.find?_filter]
  congr 2
  funext node
  by_cases heq : node.1 = other
  · simp [heq, h]
  · simp [heq]

/-- Make the directories along `rest`, below `base`; `none` when a file is in the way. -/
def makeDirs (t : FileTree B) (base : Path) : Path → Option (FileTree B)
  | [] => some t
  | segment :: rest =>
    match t.get? (base ++ [segment]) with
    | none => (t.put (base ++ [segment]) .dir).makeDirs (base ++ [segment]) rest
    | some .dir => t.makeDirs (base ++ [segment]) rest
    | some (.file _) => none

/-- A directory at the path, in the place of a file. -/
def extractDir (t : FileTree B) (path : Path) : FileTree B :=
  match t.makeDirs [] path.dropLast with
  | none => t
  | some t =>
    match t.get? path with
    | some .dir => t
    | _ => t.put path .dir

/-- A file at the path, in the place of another one or of an empty directory. -/
def extractFile (t : FileTree B) (path : Path) (content : B) : FileTree B :=
  match t.makeDirs [] path.dropLast with
  | none => t
  | some t =>
    match t.get? path with
    | some .dir => if t.isFilled path then t else t.put path (.file content)
    | _ => t.put path (.file content)

end FileTree

/-! ### Members -/

inductive Kind (B : Type*)
  | file (content : B)
  | dir
  /-- a link, a device or a pipe -/
  | other
deriving DecidableEq

structure Member (B : Type*) where
  name : String
  kind : Kind B
deriving DecidableEq

def Kind.isOther : Kind B → Bool
  | .other => true
  | _ => false

/-- One member.  Links and devices are left out: what they do to the members after them is no
    matter of names. -/
def extractMember (t : FileTree B) (m : Member B) : FileTree B :=
  if goesUp m.name.toList then t
  else
    match m.kind with
    | .other => t
    | .dir => t.extractDir (components m.name.toList)
    | .file content =>
      match landing m.name.toList with
      | some path => t.extractFile path content
      | none =>
        -- a file whose name ends in a slash is made a directory; one whose name ends in a `.`
        -- component cannot be opened, once its parents are made
        if (segments m.name.toList).getLast? = some [] then
          t.extractDir (components m.name.toList)
        else (t.makeDirs [] (components m.name.toList)).getD t

/-- `tar -x` into an empty directory. -/
def extract (members : List (Member B)) : FileTree B := members.foldl extractMember .empty

/-! ### Where the files come from -/

namespace FileTree

theorem get?_makeDirs_file {path : Path} {content : B} :
    ∀ {rest : Path} {t t' : FileTree B} {base : Path}, t.makeDirs base rest = some t' →
      (t'.get? path = some (.file content) ↔ t.get? path = some (.file content)) := by
  intro rest
  induction rest with
  | nil =>
    intro t t' base h
    cases h
    exact Iff.rfl
  | cons segment rest ih =>
    intro t t' base h
    simp only [makeDirs] at h
    split at h
    · rename_i hnone
      rw [ih h]
      by_cases heq : path = base ++ [segment]
      · subst heq
        rw [get?_put_self, hnone]
        simp
      · rw [get?_put_of_ne _ _ heq]
    · exact ih h
    · cases h

theorem get?_extractDir_file {t : FileTree B} {path other : Path} {content : B}
    (h : (t.extractDir path).get? other = some (.file content)) :
    t.get? other = some (.file content) := by
  unfold extractDir at h
  split at h
  · exact h
  · rename_i t' hdirs
    rw [← get?_makeDirs_file hdirs]
    split at h
    · exact h
    · by_cases heq : other = path
      · subst heq
        rw [get?_put_self] at h
        cases h
      · rwa [get?_put_of_ne _ _ heq] at h

theorem get?_extractFile_file {t : FileTree B} {path other : Path} {content written : B}
    (h : (t.extractFile path written).get? other = some (.file content)) :
    t.get? other = some (.file content) ∨ path = other ∧ written = content := by
  have hput : ∀ {t' : FileTree B}, t.makeDirs [] path.dropLast = some t' →
      (t'.put path (.file written)).get? other = some (.file content) →
      t.get? other = some (.file content) ∨ path = other ∧ written = content := by
    intro t' hdirs hget
    by_cases heq : other = path
    · subst heq
      rw [get?_put_self] at hget
      cases hget
      exact .inr ⟨rfl, rfl⟩
    · rw [get?_put_of_ne _ _ heq] at hget
      exact .inl ((get?_makeDirs_file hdirs).mp hget)
  unfold extractFile at h
  split at h
  · exact .inl h
  · rename_i t' hdirs
    split at h
    · split at h
      · exact .inl ((get?_makeDirs_file hdirs).mp h)
      · exact hput hdirs h
    · exact hput hdirs h

end FileTree

theorem get?_extractMember_file {t : FileTree B} {m : Member B} {path : Path} {content : B}
    (h : (extractMember t m).get? path = some (.file content)) :
    t.get? path = some (.file content) ∨
      m.kind = .file content ∧ landing m.name.toList = some path := by
  unfold extractMember at h
  split at h
  · exact .inl h
  · split at h
    · exact .inl h
    · exact .inl (FileTree.get?_extractDir_file h)
    · rename_i written hkind
      split at h
      · rename_i landed hlanding
        rcases FileTree.get?_extractFile_file h with hold | ⟨rfl, rfl⟩
        · exact .inl hold
        · exact .inr ⟨hkind, hlanding⟩
      · split at h
        · exact .inl (FileTree.get?_extractDir_file h)
        · left
          cases hdirs : t.makeDirs [] (components m.name.toList) with
          | none => rwa [hdirs] at h
          | some t' =>
            rw [hdirs] at h
            exact (FileTree.get?_makeDirs_file hdirs).mp h

theorem get?_foldl_file {path : Path} {content : B} :
    ∀ {members : List (Member B)} {t : FileTree B},
      (members.foldl extractMember t).get? path = some (.file content) →
      t.get? path = some (.file content) ∨ ∃ m ∈ members, m.kind = .file content ∧
        landing m.name.toList = some path := by
  intro members
  induction members with
  | nil =>
    intro t h
    exact .inl h
  | cons m members ih =>
    intro t h
    rcases ih h with hbefore | ⟨m', hm', horigin⟩
    · rcases get?_extractMember_file hbefore with hold | hnew
      · exact .inl hold
      · exact .inr ⟨m, List.mem_cons_self, hnew⟩
    · exact .inr ⟨m', List.mem_cons_of_mem _ hm', horigin⟩

/-- **Origin.**  Every extracted file is the content of a member that lands there. -/
theorem exists_member_of_extract {members : List (Member B)} {path : Path} {content : B}
    (h : (extract members).get? path = some (.file content)) :
    ∃ m ∈ members, m.kind = .file content ∧ landing m.name.toList = some path := by
  rcases get?_foldl_file h with hempty | horigin
  · simp only [FileTree.empty, FileTree.get?, List.find?_cons, List.find?_nil] at hempty
    split at hempty
    · cases hempty
    · cases hempty
  · exact horigin

end TarArchive
