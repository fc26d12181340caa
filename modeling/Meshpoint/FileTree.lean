import Mathlib.Data.Char
import Mathlib.Data.List.Induction
import Mathlib.Data.List.Lex
import Mathlib.Data.List.Pairwise
import Mathlib.Data.List.Sort
import Mathlib.Tactic.ByContra
import Meshpoint.TarArchive

/-!
# Directory trees and what copies them

Operations on the trees of `TarArchive`: a file written below parents that are made, a tree packed
into the members of an archive, and the copies and removals of the shell.  For each there is one
lemma that says what stands where afterwards; the main one is `get?_extract_members`, that an
archive of a well-formed tree is extracted to the tree.
-/

namespace TarArchive

variable {B : Type*}

/-! ### Well-formed trees -/

namespace FileTree

/-- Every path stands once, in a directory. -/
structure WellFormed (t : FileTree B) : Prop where
  nodup : (t.nodes.map Prod.fst).Nodup
  root : t.get? [] = some .dir
  parents : ∀ entry ∈ t.nodes, entry.1 ≠ [] → t.get? entry.1.dropLast = some .dir

theorem mem_of_get? {t : FileTree B} {path : Path} {node : Node B} (h : t.get? path = some node) :
    (path, node) ∈ t.nodes := by
  obtain ⟨entry, hfind, rfl⟩ := Option.map_eq_some_iff.mp h
  have hpath : entry.1 = path := by simpa using List.find?_some hfind
  rw [← hpath]
  exact List.mem_of_find?_eq_some hfind

theorem find?_of_mem {nodes : List (Path × Node B)} (hnodup : (nodes.map Prod.fst).Nodup)
    {entry : Path × Node B} (h : entry ∈ nodes) :
    nodes.find? (fun other => other.1 = entry.1) = some entry := by
  induction nodes with
  | nil => cases h
  | cons first nodes ih =>
    rw [List.map_cons, List.nodup_cons] at hnodup
    rw [List.find?_cons]
    rcases List.mem_cons.mp h with rfl | hrest
    · simp only [decide_true]
    · have hne : first.1 ≠ entry.1 := by
        intro heq
        exact hnodup.1 (heq ▸ List.mem_map_of_mem hrest)
      simp only [hne, decide_false, ih hnodup.2 hrest]

theorem get?_of_mem {t : FileTree B} (hnodup : (t.nodes.map Prod.fst).Nodup) {path : Path}
    {node : Node B} (h : (path, node) ∈ t.nodes) : t.get? path = some node := by
  unfold get?
  rw [find?_of_mem hnodup h]
  rfl

theorem get?_put (t : FileTree B) (path other : Path) (node : Node B) :
    (t.put path node).get? other = if other = path then some node else t.get? other := by
  by_cases h : other = path
  · rw [if_pos h, h, get?_put_self]
  · rw [if_neg h, get?_put_of_ne t node h]

theorem nodup_put {t : FileTree B} (h : (t.nodes.map Prod.fst).Nodup) (path : Path)
    (node : Node B) :
    ((t.put path node).nodes.map Prod.fst).Nodup := by
  have hkeep := List.Nodup.sublist
    ((List.filter_sublist (l := t.nodes) (p := fun other => other.1 ≠ path)).map Prod.fst) h
  refine List.nodup_cons.mpr ⟨?_, hkeep⟩
  intro hmem
  obtain ⟨entry, hentry, rfl⟩ := List.mem_map.mp hmem
  simpa using (List.mem_filter.mp hentry).2

theorem nodup_makeDirs {t t' : FileTree B} {base rest : Path} (h : t.makeDirs base rest = some t')
    (hnodup : (t.nodes.map Prod.fst).Nodup) : (t'.nodes.map Prod.fst).Nodup := by
  induction rest generalizing t base with
  | nil =>
    cases h
    exact hnodup
  | cons segment rest ih =>
    simp only [makeDirs] at h
    split at h
    · exact ih h (nodup_put hnodup _ _)
    · exact ih h hnodup
    · cases h

theorem WellFormed.dir_above {t : FileTree B} (h : t.WellFormed) {path below : Path} {node : Node B}
    (hget : t.get? (path ++ below) = some node) (hne : below ≠ []) : t.get? path = some .dir := by
  induction below using List.reverseRecOn generalizing node with
  | nil => exact absurd rfl hne
  | append_singleton below name ih =>
    have hparent := h.parents _ (mem_of_get? hget) (by simp)
    rw [← List.append_assoc, List.dropLast_concat] at hparent
    by_cases hbelow : below = []
    · rwa [hbelow, List.append_nil] at hparent
    · exact ih hparent hbelow

theorem WellFormed.put {t : FileTree B} (h : t.WellFormed) {path : Path} {node : Node B}
    (hnone : t.get? path = none) (hparent : t.get? path.dropLast = some .dir) :
    (t.put path node).WellFormed := by
  have hne : path ≠ [] := by
    rintro rfl
    rw [h.root] at hnone
    cases hnone
  refine ⟨nodup_put h.nodup path node, ?_, ?_⟩
  · rw [get?_put_of_ne t node hne.symm, h.root]
  · intro entry hentry hentryNe
    have hkeep : ∀ other, t.get? other = some .dir → (t.put path node).get? other = some .dir := by
      intro other hother
      rw [get?_put_of_ne t node, hother]
      rintro rfl
      rw [hnone] at hother
      cases hother
    rcases List.mem_cons.mp hentry with rfl | hold
    · exact hkeep _ hparent
    · exact hkeep _ (h.parents entry (List.mem_filter.mp hold).1 hentryNe)

theorem empty_wellFormed : (empty : FileTree B).WellFormed where
  nodup := List.nodup_singleton _
  root := rfl
  parents := by
    intro entry hentry hne
    obtain rfl := List.mem_singleton.mp hentry
    exact absurd rfl hne

/-! ### Parents -/

theorem makeDirs_get? {t : FileTree B} {base rest : Path}
    (hfree : ∀ path content, base <+: path → path <+: base ++ rest →
      t.get? path = some (.file content) → path = base) :
    ∃ t', t.makeDirs base rest = some t' ∧ ∀ path, t'.get? path =
      if base <+: path ∧ path ≠ base ∧ path <+: base ++ rest then some .dir else t.get? path := by
  induction rest generalizing t base with
  | nil =>
    refine ⟨t, rfl, ?_⟩
    intro path
    rw [List.append_nil, if_neg]
    rintro ⟨hle, hne, hge⟩
    exact hne (hge.eq_of_length_le hle.length_le)
  | cons segment rest ih =>
    have hassoc : base ++ segment :: rest = base ++ [segment] ++ rest := by simp
    have hbelow : ∀ path, base ++ [segment] <+: path → base <+: path ∧ path ≠ base := by
      intro path hpath
      refine ⟨(List.prefix_append base _).trans hpath, ?_⟩
      rintro rfl
      have hlength := hpath.length_le
      rw [List.length_append, List.length_singleton] at hlength
      omega
    -- the paths along the way are the first directory and those along the rest
    have hsplit : ∀ path, (base <+: path ∧ path ≠ base ∧ path <+: base ++ segment :: rest) ↔
        path = base ++ [segment] ∨
          base ++ [segment] <+: path ∧ path ≠ base ++ [segment] ∧
            path <+: base ++ [segment] ++ rest := by
      intro path
      constructor
      · rintro ⟨⟨below, rfl⟩, hne, hpath⟩
        rw [List.prefix_append_right_inj] at hpath
        cases below with
        | nil => simp at hne
        | cons first below =>
          obtain ⟨rfl, hbelow⟩ := List.cons_prefix_cons.mp hpath
          cases below with
          | nil => exact .inl rfl
          | cons second below =>
            right
            refine ⟨⟨second :: below, by simp⟩, by simp, ?_⟩
            rw [← hassoc, List.prefix_append_right_inj]
            exact hpath
      · rintro (rfl | ⟨hle, _, hpath⟩)
        · refine ⟨List.prefix_append _ _, by simp, ?_⟩
          rw [hassoc]
          exact List.prefix_append _ _
        · exact ⟨(hbelow path hle).1, (hbelow path hle).2, hassoc ▸ hpath⟩
    have hfirst : ∀ content, t.get? (base ++ [segment]) ≠ some (.file content) := by
      intro content hget
      have heq := hfree _ content (List.prefix_append _ _)
        (hassoc ▸ List.prefix_append _ _) hget
      simp at heq
    have hrest : ∀ t' : FileTree B,
        (∀ path, path ≠ base ++ [segment] → t'.get? path = t.get? path) →
        t'.get? (base ++ [segment]) = some .dir →
        ∃ t'', t'.makeDirs (base ++ [segment]) rest = some t'' ∧ ∀ path, t''.get? path =
          if base <+: path ∧ path ≠ base ∧ path <+: base ++ segment :: rest then some .dir
          else t.get? path := by
      intro t' hsame hdir
      have hfree' : ∀ path content, base ++ [segment] <+: path →
          path <+: base ++ [segment] ++ rest → t'.get? path = some (.file content) →
            path = base ++ [segment] := by
        intro path content hle hpath hfile
        by_contra hne
        rw [hsame path hne] at hfile
        exact (hbelow path hle).2 (hfree path content (hbelow path hle).1 (hassoc ▸ hpath) hfile)
      obtain ⟨t'', hmake, hget⟩ := ih hfree'
      refine ⟨t'', hmake, ?_⟩
      intro path
      rw [hget]
      simp only [hsplit]
      by_cases heq : path = base ++ [segment]
      · simp [heq, hdir]
      · simp only [heq, false_or, hsame path heq]
    simp only [makeDirs]
    split
    · exact hrest _ (fun path hne => get?_put_of_ne t .dir hne) (get?_put_self _ _ _)
    · rename_i hdir
      exact hrest t (fun _ _ => rfl) hdir
    · rename_i content hfile
      exact absurd hfile (hfirst content)

theorem WellFormed.makeDirs_eq {t : FileTree B} (h : t.WellFormed) {base rest : Path}
    (hdir : t.get? (base ++ rest) = some .dir) : t.makeDirs base rest = some t := by
  induction rest generalizing base with
  | nil => rfl
  | cons segment rest ih =>
    have hassoc : base ++ segment :: rest = base ++ [segment] ++ rest := by simp
    rw [hassoc] at hdir
    have hfirst : t.get? (base ++ [segment]) = some .dir := by
      by_cases hrest : rest = []
      · rwa [hrest, List.append_nil] at hdir
      · exact h.dir_above hdir hrest
    simp only [makeDirs, hfirst]
    exact ih hdir

end FileTree

/-! ### Files below new parents -/

namespace FileTree

/-- A file, with its parents made; `none` when a file stands in the way of one. -/
def writeFile (t : FileTree B) (path : Path) (content : B) : Option (FileTree B) :=
  (t.makeDirs [] path.dropLast).map fun t' => t'.put path (.file content)

def writeAll (t : FileTree B) (files : List (Path × B)) : Option (FileTree B) :=
  files.foldlM (fun t file => t.writeFile file.1 file.2) t

end FileTree

def Apart (files : List (Path × B)) : Prop :=
  files.Pairwise fun file other => ¬ file.1 <+: other.1 ∧ ¬ other.1 <+: file.1

theorem Apart.not_prefix {files : List (Path × B)} (h : Apart files) {file other : Path × B}
    (hfile : file ∈ files) (hother : other ∈ files) (hne : file ≠ other) :
    ¬ file.1 <+: other.1 := by
  have hsymm : Std.Symm fun file other : Path × B =>
      ¬ file.1 <+: other.1 ∧ ¬ other.1 <+: file.1 := ⟨fun _ _ h => ⟨h.2, h.1⟩⟩
  exact (List.Pairwise.forall h hfile hother hne).1

/-- What stands at a path when the files do and nothing else but their parents. -/
def standing (files : List (Path × B)) (path : Path) : Option (Node B) :=
  match files.find? fun file => file.1 = path with
  | some file => some (.file file.2)
  | none => if path = [] ∨ ∃ file ∈ files, path <+: file.1 then some .dir else none

theorem standing_eq_file {files : List (Path × B)} {path : Path} {content : B}
    (h : standing files path = some (.file content)) : (path, content) ∈ files := by
  unfold standing at h
  split at h
  · rename_i file hfind
    cases h
    have hpath : file.1 = path := by simpa using List.find?_some hfind
    rw [← hpath]
    exact List.mem_of_find?_eq_some hfind
  · split at h
    · cases h
    · cases h

theorem prefix_dropLast {path full : Path} (h : path <+: full) (hne : path ≠ full) :
    path <+: full.dropLast := by
  obtain ⟨below, rfl⟩ := h
  have hbelow : below ≠ [] := by
    rintro rfl
    exact hne (List.append_nil path).symm
  rw [List.dropLast_append_of_ne_nil hbelow]
  exact List.prefix_append _ _

theorem standing_of_mem {files : List (Path × B)} (h : Apart files) {file : Path × B}
    (hfile : file ∈ files) : standing files file.1 = some (.file file.2) := by
  unfold standing
  split
  · rename_i other hfind
    have hpath : other.1 = file.1 := by simpa using List.find?_some hfind
    have heq : other = file := by
      by_contra hne
      exact h.not_prefix (List.mem_of_find?_eq_some hfind) hfile hne (hpath ▸ List.prefix_rfl)
    rw [heq]
  · rename_i hnone
    exact absurd (List.find?_eq_none.mp hnone file hfile) (by simp)

theorem standing_append {files : List (Path × B)} {file : Path × B}
    (hapart : Apart (files ++ [file])) (path : Path) :
    standing (files ++ [file]) path =
      if path = file.1 then some (.file file.2)
      else if path ≠ [] ∧ path <+: file.1.dropLast then some .dir
      else standing files path := by
  have happart := List.pairwise_append.mp hapart
  have hnew : ∀ other ∈ files, ¬ other.1 <+: file.1 ∧ ¬ file.1 <+: other.1 :=
    fun other hother => happart.2.2 other hother file (List.mem_singleton.mpr rfl)
  unfold standing
  rw [List.find?_append]
  by_cases heq : path = file.1
  · have hnone : files.find? (fun other => other.1 = path) = none := by
      apply List.find?_eq_none.mpr
      intro other hother hpath
      have hother' : other.1 = file.1 := by simpa [heq] using hpath
      exact (hnew other hother).1 (hother' ▸ List.prefix_rfl)
    rw [hnone, if_pos heq]
    simp [heq]
  · have hlast : [file].find? (fun other => other.1 = path) = none := by
      simp [Ne.symm heq]
    rw [hlast, Option.or_none, if_neg heq]
    cases hfind : files.find? (fun other => other.1 = path) with
    | some other =>
      -- a file is no parent of the new one
      have hpath : other.1 = path := by simpa using List.find?_some hfind
      have hother := hnew other (List.mem_of_find?_eq_some hfind)
      have hparent : ¬ (path ≠ [] ∧ path <+: file.1.dropLast) := by
        rintro ⟨_, hbegins⟩
        exact hother.1 (hpath ▸ hbegins.trans (List.dropLast_prefix _))
      rw [if_neg hparent]
    | none =>
      simp only [List.mem_append, List.mem_singleton, or_and_right, exists_or, exists_eq_left]
      have hparent : path <+: file.1 ↔ path <+: file.1.dropLast :=
        ⟨fun h => prefix_dropLast h heq, fun h => h.trans (List.dropLast_prefix _)⟩
      simp only [hparent]
      by_cases hnil : path = []
      · simp only [hnil, true_or, if_true, ne_eq, not_true_eq_false, false_and, if_false]
      · by_cases hbegins : path <+: file.1.dropLast
        · simp only [hnil, hbegins, or_true, if_true, ne_eq, not_false_eq_true, and_self]
        · simp only [hnil, hbegins, or_false, false_or, and_false, if_false]

namespace FileTree

theorem writeFile_standing {t : FileTree B} {files : List (Path × B)} {file : Path × B}
    (hget : ∀ path, t.get? path = standing files path) (hapart : Apart (files ++ [file])) :
    ∃ t', t.writeFile file.1 file.2 = some t' ∧
      ∀ path, t'.get? path = standing (files ++ [file]) path := by
  have hnew := (List.pairwise_append.mp hapart).2.2
  have hfree : ∀ path content, [] <+: path → path <+: [] ++ file.1.dropLast →
      t.get? path = some (.file content) → path = [] := by
    intro path content _ hpath hfile
    have hmem := standing_eq_file ((hget path).symm.trans hfile)
    have hbegins := hpath.trans (List.dropLast_prefix _)
    exact absurd hbegins (hnew _ hmem file (List.mem_singleton.mpr rfl)).1
  obtain ⟨t', hmake, hget'⟩ := makeDirs_get? hfree
  refine ⟨t'.put file.1 (.file file.2), by rw [writeFile, hmake]; rfl, ?_⟩
  intro path
  rw [get?_put, hget', hget, standing_append hapart]
  simp only [List.nil_prefix, true_and, List.nil_append]

/-- **Files written.**  The files stand, and their parents. -/
theorem writeAll_standing {t : FileTree B} {done files : List (Path × B)}
    (hget : ∀ path, t.get? path = standing done path) (hapart : Apart (done ++ files)) :
    ∃ t', t.writeAll files = some t' ∧
      ∀ path, t'.get? path = standing (done ++ files) path := by
  induction files generalizing t done with
  | nil => exact ⟨t, rfl, by simpa using hget⟩
  | cons file files ih =>
    have happend : done ++ file :: files = done ++ [file] ++ files := by simp
    rw [happend] at hapart ⊢
    obtain ⟨t', hwrite, hget'⟩ :=
      writeFile_standing hget (List.pairwise_append.mp hapart).1
    obtain ⟨t'', hall, hget''⟩ := ih hget' hapart
    refine ⟨t'', ?_, hget''⟩
    rw [writeAll, List.foldlM_cons, hwrite]
    exact hall

theorem empty_standing (path : Path) :
    (empty : FileTree B).get? path = standing ([] : List (Path × B)) path := by
  unfold standing
  by_cases h : path = []
  · simp [empty, get?, h]
  · simp [empty, get?, h, Ne.symm h]

theorem nodup_writeAll {t t' : FileTree B} {files : List (Path × B)}
    (h : t.writeAll files = some t') (hnodup : (t.nodes.map Prod.fst).Nodup) : (t'.nodes.map Prod.fst).Nodup := by
  induction files generalizing t with
  | nil =>
    cases h
    exact hnodup
  | cons file files ih =>
    rw [writeAll, List.foldlM_cons] at h
    obtain ⟨t'', hwrite, hrest⟩ := Option.bind_eq_some_iff.mp h
    obtain ⟨made, hmake, rfl⟩ := Option.map_eq_some_iff.mp hwrite
    exact ih hrest (nodup_put (nodup_makeDirs hmake hnodup) _ _)

theorem wellFormed_of_standing {t : FileTree B} {files : List (Path × B)}
    (hnodup : (t.nodes.map Prod.fst).Nodup) (hget : ∀ path, t.get? path = standing files path)
    (hne : ∀ file ∈ files, file.1 ≠ []) (hapart : Apart files) : t.WellFormed where
  nodup := hnodup
  root := by
    rw [hget]
    unfold standing
    split
    · rename_i file hfind
      have hpath : file.1 = [] := by simpa using List.find?_some hfind
      exact absurd hpath (hne file (List.mem_of_find?_eq_some hfind))
    · simp
  parents := by
    intro entry hentry hentryNe
    have hsome := get?_of_mem hnodup hentry
    rw [hget] at hsome ⊢
    -- a parent of what stands is on the way to a file
    have hbelow : ∃ file ∈ files, entry.1.dropLast <+: file.1 ∧ entry.1.dropLast ≠ file.1 := by
      have hproper : ∀ file : Path × B, entry.1 <+: file.1 →
          entry.1.dropLast <+: file.1 ∧ entry.1.dropLast ≠ file.1 := by
        intro file hbegins
        refine ⟨(List.dropLast_prefix _).trans hbegins, ?_⟩
        intro heq
        have hlength := hbegins.length_le
        rw [← heq, List.length_dropLast] at hlength
        have hpos := List.length_pos_of_ne_nil hentryNe
        omega
      unfold standing at hsome
      split at hsome
      · rename_i file hfind
        have hpath : file.1 = entry.1 := by simpa using List.find?_some hfind
        exact ⟨file, List.mem_of_find?_eq_some hfind, hproper file (hpath ▸ List.prefix_rfl)⟩
      · split at hsome
        · rename_i hor
          obtain ⟨file, hfile, hbegins⟩ := hor.resolve_left hentryNe
          exact ⟨file, hfile, hproper file hbegins⟩
        · cases hsome
    obtain ⟨file, hfile, hbegins, hproper⟩ := hbelow
    unfold standing
    split
    · rename_i other hfind
      have hpath : other.1 = entry.1.dropLast := by simpa using List.find?_some hfind
      have hother := List.mem_of_find?_eq_some hfind
      have hdistinct : other ≠ file := fun heq => hproper (hpath ▸ heq ▸ rfl)
      exact absurd (hpath ▸ hbegins) (hapart.not_prefix hother hfile hdistinct)
    · rw [if_pos (.inr ⟨file, hfile, hbegins⟩)]

end FileTree

/-! ### Lists of nodes -/

def lookup (nodes : List (Path × Node B)) (path : Path) : Option (Node B) :=
  (nodes.find? fun entry => entry.1 = path).map Prod.snd

theorem lookup_cons (entry : Path × Node B) (nodes : List (Path × Node B)) (path : Path) :
    lookup (entry :: nodes) path = if path = entry.1 then some entry.2 else lookup nodes path := by
  unfold lookup
  rw [List.find?_cons]
  by_cases h : path = entry.1
  · simp only [h, decide_true, if_true, Option.map_some]
  · simp only [h, Ne.symm h, decide_false, if_false]

theorem lookup_eq_some_iff {nodes : List (Path × Node B)} (hnodup : (nodes.map Prod.fst).Nodup)
    {path : Path} {node : Node B} : lookup nodes path = some node ↔ (path, node) ∈ nodes :=
  ⟨fun h => FileTree.mem_of_get? (t := ⟨nodes⟩) h,
    fun h => FileTree.get?_of_mem (t := ⟨nodes⟩) hnodup h⟩

theorem lookup_eq_none_iff {nodes : List (Path × Node B)} {path : Path} :
    lookup nodes path = none ↔ path ∉ nodes.map Prod.fst := by
  unfold lookup
  rw [Option.map_eq_none_iff, List.find?_eq_none, List.mem_map]
  simp only [decide_eq_true_eq, not_exists, not_and]

theorem lookup_perm {nodes nodes' : List (Path × Node B)} (hnodup : (nodes.map Prod.fst).Nodup)
    (hperm : nodes'.Perm nodes) (path : Path) : lookup nodes' path = lookup nodes path := by
  have hnodup' : (nodes'.map Prod.fst).Nodup := (hperm.map Prod.fst).nodup_iff.mpr hnodup
  apply Option.ext
  intro node
  rw [lookup_eq_some_iff hnodup, lookup_eq_some_iff hnodup', hperm.mem_iff]

theorem lookup_filter (nodes : List (Path × Node B)) (p : Path → Bool) (path : Path) :
    lookup (nodes.filter fun entry => p entry.1) path =
      if p path then lookup nodes path else none := by
  induction nodes with
  | nil => simp [lookup]
  | cons entry nodes ih =>
    rw [lookup_cons]
    by_cases hkept : p entry.1 = true
    · rw [List.filter_cons, if_pos hkept, lookup_cons, ih]
      by_cases heq : path = entry.1
      · simp [heq, hkept]
      · simp [heq]
    · rw [List.filter_cons, if_neg hkept, ih]
      by_cases heq : path = entry.1
      · simp [heq, hkept]
      · simp [heq]

def graft (base : Path) (nodes : List (Path × Node B)) : List (Path × Node B) :=
  nodes.map fun entry => (base ++ entry.1, entry.2)

theorem lookup_graft (base : Path) (nodes : List (Path × Node B)) (below : Path) :
    lookup (graft base nodes) (base ++ below) = lookup nodes below := by
  induction nodes with
  | nil => rfl
  | cons entry nodes ih =>
    rw [graft, List.map_cons, ← graft, lookup_cons, lookup_cons, ih]
    simp only [List.append_cancel_left_eq]

theorem lookup_graft_of_not_prefix {base path : Path} (h : ¬ base <+: path)
    (nodes : List (Path × Node B)) : lookup (graft base nodes) path = none := by
  rw [lookup_eq_none_iff]
  intro hmem
  simp only [graft, List.map_map, List.mem_map, Function.comp_apply] at hmem
  obtain ⟨entry, _, rfl⟩ := hmem
  exact h (List.prefix_append _ _)

theorem nodup_graft {nodes : List (Path × Node B)} (h : (nodes.map Prod.fst).Nodup) (base : Path) :
    ((graft base nodes).map Prod.fst).Nodup := by
  have hmap : (graft base nodes).map Prod.fst = (nodes.map Prod.fst).map (base ++ ·) := by
    simp only [graft, List.map_map]
    rfl
  rw [hmap]
  exact h.map fun _ _ => List.append_cancel_left

/-! ### An archive of a tree -/

def joinPath : Path → List Char
  | [] => []
  | [name] => name
  | name :: next :: rest => name ++ '/' :: joinPath (next :: rest)

theorem joinPath_cons (name : List Char) {path : Path} (hne : path ≠ []) :
    joinPath (name :: path) = name ++ '/' :: joinPath path := by
  cases path with
  | nil => exact absurd rfl hne
  | cons next rest => rfl

theorem components_joinPath {path : Path} (h : ∀ name ∈ path, Plain name) (hne : path ≠ []) :
    components (joinPath path) = path := by
  induction path with
  | nil => exact absurd rfl hne
  | cons name rest ih =>
    have hname := h name List.mem_cons_self
    cases rest with
    | nil => exact components_of_plain hname
    | cons next rest =>
      rw [joinPath, components_append_slash hname,
        ih (fun other hother => h other (List.mem_cons_of_mem _ hother)) (List.cons_ne_nil _ _)]

theorem landing_joinPath {path : Path} (h : ∀ name ∈ path, Plain name) (hne : path ≠ []) :
    landing (joinPath path) = some path := by
  induction path with
  | nil => exact absurd rfl hne
  | cons name rest ih =>
    have hname := h name List.mem_cons_self
    cases rest with
    | nil => exact landing_of_plain hname
    | cons next rest =>
      rw [joinPath, landing_append_slash hname,
        ih (fun other hother => h other (List.mem_cons_of_mem _ hother)) (List.cons_ne_nil _ _)]
      rfl

theorem goesUp_joinPath {path : Path} (h : ∀ name ∈ path, Plain name) (hne : path ≠ []) :
    goesUp (joinPath path) = false := by
  have hlanding := landing_joinPath h hne
  unfold landing at hlanding
  split at hlanding
  · cases hlanding
  · rename_i hup
    exact Bool.eq_false_iff.mpr hup

def Node.kind : Node B → Kind B
  | .dir => .dir
  | .file content => .file content

def nodeMember (entry : Path × Node B) : Member B :=
  ⟨String.ofList (joinPath entry.1), entry.2.kind⟩

namespace FileTree

/-- `tar.add(tree, arcname=name)`: a directory before what it holds, and the names of each in
    order. -/
def members (t : FileTree B) (name : List Char) : List (Member B) :=
  (graft [name] (t.nodes.insertionSort fun entry other => entry.1 ≤ other.1)).map nodeMember

theorem mem_members {t : FileTree B} (hnodup : (t.nodes.map Prod.fst).Nodup) {name : List Char}
    {m : Member B} : m ∈ t.members name ↔
      ∃ path node, t.get? path = some node ∧ m = nodeMember (name :: path, node) := by
  simp only [members, graft, List.map_map, List.mem_map, List.mem_insertionSort,
    Function.comp_apply]
  constructor
  · rintro ⟨entry, hentry, rfl⟩
    exact ⟨entry.1, entry.2, get?_of_mem hnodup hentry, rfl⟩
  · rintro ⟨path, node, hget, rfl⟩
    exact ⟨(path, node), mem_of_get? hget, rfl⟩

theorem WellFormed.extractMember_eq {t : FileTree B} (h : t.WellFormed) {entry : Path × Node B}
    (hplain : ∀ name ∈ entry.1, Plain name) (hne : entry.1 ≠ [])
    (hparent : t.get? entry.1.dropLast = some .dir) (hnone : t.get? entry.1 = none) :
    extractMember t (nodeMember entry) = t.put entry.1 entry.2 := by
  have hdirs : t.makeDirs [] entry.1.dropLast = some t := h.makeDirs_eq hparent
  obtain ⟨path, node⟩ := entry
  unfold extractMember nodeMember
  simp only [String.toList_ofList, goesUp_joinPath hplain hne, Bool.false_eq_true, if_false]
  cases node with
  | dir => simp only [Node.kind, extractDir, components_joinPath hplain hne, hdirs, hnone]
  | file content => simp only [Node.kind, extractFile, landing_joinPath hplain hne, hdirs, hnone]

theorem WellFormed.foldl_extractMember {nodes : List (Path × Node B)} {t : FileTree B}
    (h : t.WellFormed) (hplain : ∀ entry ∈ nodes, ∀ name ∈ entry.1, Plain name)
    (hne : ∀ entry ∈ nodes, entry.1 ≠ []) (hnone : ∀ entry ∈ nodes, t.get? entry.1 = none)
    (hparents : ∀ entry ∈ nodes, t.get? entry.1.dropLast = some .dir ∨
      (entry.1.dropLast, Node.dir) ∈ nodes)
    (hsorted : nodes.Pairwise fun entry other => ¬ other.1 <+: entry.1) :
    ((nodes.map nodeMember).foldl extractMember t).WellFormed ∧
      ∀ path, ((nodes.map nodeMember).foldl extractMember t).get? path =
        (lookup nodes path).or (t.get? path) := by
  induction nodes generalizing t with
  | nil => exact ⟨h, fun _ => rfl⟩
  | cons entry nodes ih =>
    obtain ⟨hfirst, hsorted⟩ := List.pairwise_cons.mp hsorted
    have hparent : t.get? entry.1.dropLast = some .dir := by
      rcases hparents entry List.mem_cons_self with hold | hmem
      · exact hold
      · rcases List.mem_cons.mp hmem with heq | hlater
        · have hlength := congrArg (fun entry => entry.1.length) heq
          have hpos := List.length_pos_of_ne_nil (hne entry List.mem_cons_self)
          simp only [List.length_dropLast] at hlength
          omega
        · exact absurd (List.dropLast_prefix _) (hfirst _ hlater)
    have hentryNone := hnone entry List.mem_cons_self
    have hput : ∀ path, (t.put entry.1 entry.2).get? path =
        if path = entry.1 then some entry.2 else t.get? path :=
      fun path => get?_put t entry.1 path _
    have hlater : ∀ other ∈ nodes, other.1 ≠ entry.1 :=
      fun other hother heq => hfirst other hother (heq ▸ List.prefix_rfl)
    have hwellPut : (t.put entry.1 entry.2).WellFormed := h.put hentryNone hparent
    obtain ⟨hwell, hget⟩ := ih hwellPut
      (fun other hother => hplain other (List.mem_cons_of_mem _ hother))
      (fun other hother => hne other (List.mem_cons_of_mem _ hother))
      (by
        intro other hother
        rw [hput, if_neg (hlater other hother)]
        exact hnone other (List.mem_cons_of_mem _ hother))
      (by
        intro other hother
        rw [hput]
        rcases hparents other (List.mem_cons_of_mem _ hother) with hold | hmem
        · left
          rw [if_neg, hold]
          intro heq
          rw [heq, hentryNone] at hold
          cases hold
        · rcases List.mem_cons.mp hmem with heq | hrest
          · left
            rw [if_pos (congrArg Prod.fst heq), ← heq]
          · exact .inr hrest)
      hsorted
    rw [List.map_cons, List.foldl_cons, h.extractMember_eq (hplain entry List.mem_cons_self)
      (hne entry List.mem_cons_self) hparent hentryNone]
    refine ⟨hwell, ?_⟩
    intro path
    rw [hget, hput, lookup_cons]
    by_cases heq : path = entry.1
    · have habsent : lookup nodes entry.1 = none := by
        rw [lookup_eq_none_iff]
        intro hmem
        obtain ⟨other, hother, hpath⟩ := List.mem_map.mp hmem
        exact hlater other hother hpath
      rw [if_pos heq, heq, if_pos rfl, habsent]
      rfl
    · rw [if_neg heq, if_neg heq]

theorem le_of_begins {α : Type*} [LinearOrder α] {path full : List α} (h : path <+: full) :
    path ≤ full := by
  obtain ⟨below, rfl⟩ := h
  induction path with
  | nil =>
    cases below with
    | nil => exact le_refl _
    | cons first below => exact le_of_lt List.Lex.nil
  | cons name path ih => exact List.cons_le_cons name ih

/-- **Archive and extraction.**  The archive of a well-formed tree is extracted to the tree. -/
theorem WellFormed.get?_extract_members {t : FileTree B} (h : t.WellFormed) {name : List Char}
    (hname : Plain name) (hplain : ∀ entry ∈ t.nodes, ∀ part ∈ entry.1, Plain part) :
    (extract (t.members name)).WellFormed ∧
      ∀ path, (extract (t.members name)).get? path =
        (lookup (graft [name] t.nodes) path).or ((empty : FileTree B).get? path) := by
  have hperm := List.perm_insertionSort
    (fun entry other : Path × Node B => entry.1 ≤ other.1) t.nodes
  have hsorted := List.pairwise_insertionSort
    (fun entry other : Path × Node B => entry.1 ≤ other.1) t.nodes
  unfold members
  generalize t.nodes.insertionSort (fun entry other => entry.1 ≤ other.1) = sorted
    at hperm hsorted
  have hgraft : ∀ entry ∈ graft [name] sorted, ∃ old ∈ t.nodes, entry = (name :: old.1, old.2) := by
    intro entry hentry
    obtain ⟨old, hold, rfl⟩ := List.mem_map.mp hentry
    exact ⟨old, hperm.mem_iff.mp hold, rfl⟩
  obtain ⟨hwell, hget⟩ := @WellFormed.foldl_extractMember _ (graft [name] sorted)
    (empty : FileTree B) empty_wellFormed
    (by
      intro entry hentry part hpart
      obtain ⟨old, hold, rfl⟩ := hgraft entry hentry
      rcases List.mem_cons.mp hpart with rfl | hrest
      · exact hname
      · exact hplain old hold part hrest)
    (by
      intro entry hentry
      obtain ⟨old, _, rfl⟩ := hgraft entry hentry
      exact List.cons_ne_nil _ _)
    (by
      intro entry hentry
      obtain ⟨old, _, rfl⟩ := hgraft entry hentry
      rfl)
    (by
      intro entry hentry
      obtain ⟨old, hold, rfl⟩ := hgraft entry hentry
      by_cases hroot : old.1 = []
      · left
        rw [hroot]
        rfl
      · right
        have hparent := mem_of_get? (h.parents old hold hroot)
        apply List.mem_map.mpr
        refine ⟨(old.1.dropLast, .dir), hperm.mem_iff.mpr hparent, ?_⟩
        rw [List.dropLast_cons_of_ne_nil hroot]
        rfl)
    (by
      have hnodup := (hperm.map Prod.fst).nodup_iff.mpr h.nodup
      have hdistinct := List.pairwise_map.mp hnodup
      apply List.pairwise_map.mpr
      apply (hsorted.and hdistinct).imp
      rintro entry other ⟨hle, hne⟩ hbegins
      rw [List.prefix_append_right_inj] at hbegins
      exact hne (le_antisymm hle (le_of_begins hbegins)))
  refine ⟨hwell, ?_⟩
  intro path
  rw [← lookup_perm (nodup_graft h.nodup [name]) (hperm.map _) path]
  exact hget path

end FileTree

/-! ### Copies and removals -/

/-- A node can be copied to where the other one is. -/
def Node.fits (node : Node B) : Option (Node B) → Bool
  | none => true
  | some .dir => match node with | .dir => true | .file _ => false
  | some (.file _) => match node with | .dir => false | .file _ => true

theorem Node.fits_file_iff {content : B} {old : Option (Node B)} :
    (Node.file content).fits old = true ↔ old ≠ some .dir := by
  cases old with
  | none => simp [Node.fits]
  | some node =>
    cases node with
    | dir => simp [Node.fits]
    | file written => simp [Node.fits]

namespace FileTree

/-- Copy a node to a path; `none` when a directory would go over a file or a file over a
    directory. -/
def place (t : FileTree B) (path : Path) (node : Node B) : Option (FileTree B) :=
  if node.fits (t.get? path) then some (t.put path node) else none

def placeAll (t : FileTree B) (nodes : List (Path × Node B)) : Option (FileTree B) :=
  nodes.foldlM (fun t entry => t.place entry.1 entry.2) t

/-- What stands at a path and below it, as paths from there. -/
def subtree (t : FileTree B) (base : Path) : List (Path × Node B) :=
  t.nodes.filterMap fun entry =>
    if base <+: entry.1 then some (entry.1.drop base.length, entry.2) else none

def singleName : Path → Option (List Char)
  | [name] => some name
  | _ => none

def names (t : FileTree B) (base : Path) : List (List Char) :=
  ((t.subtree base).map Prod.fst).filterMap singleName

def isDir (t : FileTree B) (path : Path) : Bool :=
  match t.get? path with
  | some .dir => true
  | _ => false

/-- `cp -a` of a tree of nodes called `name` to a path, or into the directory there. -/
def copyOnto (t : FileTree B) (path : Path) (name : List Char) (nodes : List (Path × Node B)) :
    Option (FileTree B) :=
  t.placeAll (graft (if t.isDir path then path ++ [name] else path) nodes)

def keep (t : FileTree B) (kept : Path → Bool) : FileTree B :=
  ⟨t.nodes.filter fun entry => kept entry.1⟩

/-- The tree with other nodes at a path and below it. -/
def replace (t : FileTree B) (base : Path) (nodes : List (Path × Node B)) : FileTree B :=
  ⟨(t.keep fun path => !decide (base <+: path)).nodes ++ graft base nodes⟩

/-- `rm -f`; `none` when a directory is there. -/
def removeFile (t : FileTree B) (path : Path) : Option (FileTree B) :=
  match t.get? path with
  | none => some t
  | some .dir => none
  | some (.file _) => some (t.keep fun other => other ≠ path)

/-- `rm -f` of several paths. -/
def removeFiles (t : FileTree B) (paths : List Path) : Option (FileTree B) :=
  paths.foldlM (fun t path => t.removeFile path) t

theorem placeAll_cons (t : FileTree B) (entry : Path × Node B) (nodes : List (Path × Node B)) :
    t.placeAll (entry :: nodes) = (t.place entry.1 entry.2).bind fun t' => t'.placeAll nodes := by
  rw [placeAll, List.foldlM_cons]
  rfl

theorem placeAll_append (t : FileTree B) (nodes nodes' : List (Path × Node B)) :
    t.placeAll (nodes ++ nodes') = (t.placeAll nodes).bind fun t' => t'.placeAll nodes' := by
  rw [placeAll, List.foldlM_append]
  rfl

theorem placeAll_isSome_iff {nodes : List (Path × Node B)} (hnodup : (nodes.map Prod.fst).Nodup)
    (t : FileTree B) : (t.placeAll nodes).isSome ↔
      ∀ entry ∈ nodes, entry.2.fits (t.get? entry.1) = true := by
  induction nodes generalizing t with
  | nil => exact iff_of_true rfl (fun _ hentry => nomatch hentry)
  | cons entry nodes ih =>
    rw [List.map_cons, List.nodup_cons] at hnodup
    rw [placeAll_cons, place, List.forall_mem_cons]
    split
    · rename_i hfits
      rw [Option.bind_some, ih hnodup.2]
      have hsame : ∀ other ∈ nodes, (t.put entry.1 entry.2).get? other.1 = t.get? other.1 := by
        intro other hother
        apply get?_put_of_ne
        rintro heq
        exact hnodup.1 (heq ▸ List.mem_map_of_mem hother)
      constructor
      · intro hrest
        exact ⟨hfits, fun other hother => hsame other hother ▸ hrest other hother⟩
      · rintro ⟨_, hrest⟩ other hother
        rw [hsame other hother]
        exact hrest other hother
    · rename_i hfits
      exact iff_of_false Bool.false_ne_true (fun h => hfits h.1)

theorem get?_placeAll {nodes : List (Path × Node B)} (hnodup : (nodes.map Prod.fst).Nodup)
    {t t' : FileTree B} (h : t.placeAll nodes = some t') (path : Path) :
    t'.get? path = (lookup nodes path).or (t.get? path) := by
  induction nodes generalizing t with
  | nil =>
    cases h
    rfl
  | cons entry nodes ih =>
    rw [List.map_cons, List.nodup_cons] at hnodup
    rw [placeAll_cons, place] at h
    split at h
    · rw [Option.bind_some] at h
      rw [ih hnodup.2 h, get?_put, lookup_cons]
      by_cases heq : path = entry.1
      · have habsent : lookup nodes entry.1 = none := lookup_eq_none_iff.mpr hnodup.1
        rw [if_pos heq, heq, if_pos rfl, habsent]
        rfl
      · rw [if_neg heq, if_neg heq]
    · cases h

theorem nodup_placeAll {nodes : List (Path × Node B)} {t t' : FileTree B}
    (h : t.placeAll nodes = some t') (hnodup : (t.nodes.map Prod.fst).Nodup) :
    (t'.nodes.map Prod.fst).Nodup := by
  induction nodes generalizing t with
  | nil =>
    cases h
    exact hnodup
  | cons entry nodes ih =>
    rw [placeAll_cons, place] at h
    split at h
    · exact ih h (nodup_put hnodup _ _)
    · cases h

theorem dir_of_placeAll {nodes : List (Path × Node B)} {t t' : FileTree B}
    (h : t.placeAll nodes = some t') {path : Path} (hdir : t.get? path = some .dir) :
    t'.get? path = some .dir := by
  induction nodes generalizing t with
  | nil =>
    cases h
    exact hdir
  | cons entry nodes ih =>
    rw [placeAll_cons, place] at h
    split at h
    · rename_i hfits
      apply ih h
      rw [get?_put]
      split
      · rename_i heq
        rw [← heq, hdir] at hfits
        cases hnode : entry.2 with
        | dir => rfl
        | file content =>
          rw [hnode] at hfits
          cases hfits
      · exact hdir
    · cases h

theorem lookup_subtree (t : FileTree B) (base below : Path) :
    lookup (t.subtree base) below = t.get? (base ++ below) := by
  obtain ⟨nodes⟩ := t
  have hget : (⟨nodes⟩ : FileTree B).get? (base ++ below) = lookup nodes (base ++ below) := rfl
  rw [hget]
  unfold subtree
  induction nodes with
  | nil => rfl
  | cons entry nodes ih =>
    rw [List.filterMap_cons, lookup_cons]
    have hrest := ih rfl
    by_cases hbegins : base <+: entry.1
    · obtain ⟨rest, hentry⟩ := hbegins
      simp only [← hentry, List.prefix_append, if_true, List.drop_left', lookup_cons,
        List.append_cancel_left_eq]
      rw [hrest]
    · have hne : base ++ below ≠ entry.1 := fun heq => hbegins (heq ▸ List.prefix_append _ _)
      rw [if_neg hbegins, if_neg hne]
      exact hrest

theorem graft_subtree (t : FileTree B) (base : Path) :
    graft base (t.subtree base) = t.nodes.filter fun entry => base <+: entry.1 := by
  unfold graft subtree
  rw [List.map_filterMap]
  induction t.nodes with
  | nil => rfl
  | cons entry nodes ih =>
    by_cases hbegins : base <+: entry.1
    · have hdrop : base ++ entry.1.drop base.length = entry.1 :=
        List.prefix_iff_eq_append.mp hbegins
      rw [List.filterMap_cons_some (b := entry) (by simp [hbegins, hdrop]),
        List.filter_cons_of_pos (by simpa using hbegins), ih]
    · rw [List.filterMap_cons_none (by simp [hbegins]),
        List.filter_cons_of_neg (by simpa using hbegins), ih]

theorem nodup_subtree {t : FileTree B} (h : (t.nodes.map Prod.fst).Nodup) (base : Path) :
    ((t.subtree base).map Prod.fst).Nodup := by
  apply List.Nodup.of_map (base ++ ·)
  have hgraft : ((t.subtree base).map Prod.fst).map (base ++ ·) =
      (graft base (t.subtree base)).map Prod.fst := by
    simp only [graft, List.map_map]
    rfl
  rw [hgraft, graft_subtree]
  exact h.sublist (List.filter_sublist.map Prod.fst)

theorem mem_subtree {t : FileTree B} (hnodup : (t.nodes.map Prod.fst).Nodup) {base below : Path}
    {node : Node B} : (below, node) ∈ t.subtree base ↔ t.get? (base ++ below) = some node := by
  rw [← lookup_eq_some_iff (nodup_subtree hnodup base), lookup_subtree]

theorem singleName_eq_some {path : Path} {name : List Char} :
    singleName path = some name ↔ path = [name] := by
  unfold singleName
  split
  · simp
  · rename_i hsingle
    simpa using fun heq => hsingle name heq

theorem mem_names {t : FileTree B} {base : Path} {name : List Char} :
    name ∈ t.names base ↔ (t.get? (base ++ [name])).isSome := by
  rw [← lookup_subtree, names, List.mem_filterMap]
  simp only [singleName_eq_some, exists_eq_right]
  rw [Option.isSome_iff_ne_none, ne_eq, lookup_eq_none_iff, not_not]

theorem nodup_names {t : FileTree B} (h : (t.nodes.map Prod.fst).Nodup) (base : Path) :
    (t.names base).Nodup := by
  apply (nodup_subtree h base).filterMap
  intro path path' name hname hname'
  rw [singleName_eq_some.mp hname, singleName_eq_some.mp hname']

theorem isDir_iff {t : FileTree B} {path : Path} :
    t.isDir path = true ↔ t.get? path = some .dir := by
  unfold isDir
  split
  · rename_i hget
    simp [hget]
  · rename_i hdir
    simpa using hdir

theorem get?_keep (t : FileTree B) (kept : Path → Bool) (path : Path) :
    (t.keep kept).get? path = if kept path then t.get? path else none :=
  lookup_filter t.nodes kept path

theorem get?_removeFile {t t' : FileTree B} {path : Path} (h : t.removeFile path = some t')
    (other : Path) : t'.get? other = if other = path then none else t.get? other := by
  unfold removeFile at h
  split at h
  · rename_i hnone
    cases h
    split
    · rename_i heq
      rw [heq, hnone]
    · rfl
  · cases h
  · cases h
    rw [get?_keep]
    by_cases heq : other = path
    · simp [heq]
    · simp [heq]

theorem removeFile_isSome_iff {t : FileTree B} {path : Path} :
    (t.removeFile path).isSome ↔ t.get? path ≠ some .dir := by
  unfold removeFile
  split
  · rename_i hnone
    simp [hnone]
  · rename_i hdir
    simp [hdir]
  · rename_i content hfile
    simp [hfile]

theorem of_removeFiles_eq_some {t t' : FileTree B} {paths : List Path}
    (h : t.removeFiles paths = some t') :
    (∀ path ∈ paths, t.get? path ≠ some .dir) ∧
      ∀ other, t'.get? other = if other ∈ paths then none else t.get? other := by
  induction paths generalizing t with
  | nil =>
    cases h
    simp
  | cons path paths ih =>
    rw [removeFiles, List.foldlM_cons] at h
    obtain ⟨first, hfirst, hrest⟩ := Option.bind_eq_some_iff.mp h
    obtain ⟨hdirs, hget⟩ := ih hrest
    have hpath := removeFile_isSome_iff.mp (Option.isSome_iff_exists.mpr ⟨first, hfirst⟩)
    have hother := get?_removeFile hfirst
    constructor
    · intro other hmem
      rcases List.mem_cons.mp hmem with rfl | hlater
      · exact hpath
      · intro hdir
        by_cases heq : other = path
        · exact hpath (heq ▸ hdir)
        · apply hdirs other hlater
          rw [hother, if_neg heq, hdir]
    · intro other
      rw [hget, hother]
      by_cases hmem : other ∈ paths
      · simp [hmem]
      · by_cases heq : other = path
        · simp [heq]
        · simp [hmem, heq]

theorem removeFiles_isSome {t : FileTree B} {paths : List Path}
    (h : ∀ path ∈ paths, t.get? path ≠ some .dir) : ∃ t', t.removeFiles paths = some t' := by
  induction paths generalizing t with
  | nil => exact ⟨t, rfl⟩
  | cons path paths ih =>
    obtain ⟨first, hfirst⟩ := Option.isSome_iff_exists.mp
      (removeFile_isSome_iff.mpr (h path List.mem_cons_self))
    have hrest : ∀ other ∈ paths, first.get? other ≠ some .dir := by
      intro other hother
      rw [get?_removeFile hfirst]
      split
      · intro heq
        cases heq
      · exact h other (List.mem_cons_of_mem _ hother)
    obtain ⟨t', ht'⟩ := ih hrest
    refine ⟨t', ?_⟩
    rw [removeFiles, List.foldlM_cons, hfirst]
    exact ht'

end FileTree

/-! ### What a change leaves alone -/

namespace FileTree

theorem get?_replace (t : FileTree B) (base : Path) (nodes : List (Path × Node B)) (path : Path) :
    (t.replace base nodes).get? path =
      if base <+: path then lookup nodes (path.drop base.length) else t.get? path := by
  have hsplit : (t.replace base nodes).get? path =
      ((t.keep fun path => !decide (base <+: path)).get? path).or
        (lookup (graft base nodes) path) := by
    simp only [get?, replace, lookup, List.find?_append]
    cases List.find? (fun node => decide (node.1 = path))
      (t.keep fun path => !decide (base <+: path)).nodes with
    | none => rfl
    | some node => rfl
  rw [hsplit, get?_keep]
  by_cases hbelow : base <+: path
  · obtain ⟨below, rfl⟩ := hbelow
    simp [lookup_graft]
  · simp [hbelow, lookup_graft_of_not_prefix hbelow]

theorem get?_makeDirs {t t' : FileTree B} {base rest : Path} (h : t.makeDirs base rest = some t')
    {path : Path} (hpath : ¬ path <+: base ++ rest) : t'.get? path = t.get? path := by
  induction rest generalizing t base with
  | nil =>
    cases h
    rfl
  | cons segment rest ih =>
    have hassoc : base ++ segment :: rest = base ++ [segment] ++ rest := by simp
    rw [hassoc] at hpath
    simp only [makeDirs] at h
    split at h
    · rw [ih h hpath]
      apply get?_put_of_ne
      rintro rfl
      exact hpath (List.prefix_append _ _)
    · exact ih h hpath
    · cases h

def Unrelated (path other : Path) : Prop := ¬ path <+: other ∧ ¬ other <+: path

instance (path other : Path) : Decidable (Unrelated path other) :=
  inferInstanceAs (Decidable (_ ∧ _))

/-- The trees differ at most on the ways to the targets, and below them. -/
def ChangesOnly (targets : List Path) (t t' : FileTree B) : Prop :=
  ∀ path, (∀ target ∈ targets, Unrelated target path) → t'.get? path = t.get? path

namespace ChangesOnly

variable {targets : List Path} {t t' t'' : FileTree B}

theorem refl (targets : List Path) (t : FileTree B) : ChangesOnly targets t t := fun _ _ => rfl

theorem trans (h : ChangesOnly targets t t') (h' : ChangesOnly targets t' t'') :
    ChangesOnly targets t t'' := fun path hpath => (h' path hpath).trans (h path hpath)

theorem replace {target : Path} (h : target ∈ targets) (t : FileTree B)
    (nodes : List (Path × Node B)) : ChangesOnly targets t (t.replace target nodes) := by
  intro path hpath
  rw [get?_replace, if_neg (hpath target h).1]

theorem put {target : Path} (h : target ∈ targets) (t : FileTree B) (below : Path)
    (node : Node B) : ChangesOnly targets t (t.put (target ++ below) node) := by
  intro path hpath
  apply get?_put_of_ne
  rintro rfl
  exact (hpath target h).1 (List.prefix_append _ _)

theorem makeDirs {target dir : Path} (h : target ∈ targets) (hdir : dir <+: target)
    (hmade : t.makeDirs [] dir = some t') : ChangesOnly targets t t' := by
  intro path hpath
  apply get?_makeDirs hmade
  intro hle
  exact (hpath target h).2 (hle.trans hdir)

theorem get?_below (h : ChangesOnly targets t t') {folder : Path}
    (haway : ∀ target ∈ targets, Unrelated target folder) (below : Path) :
    t'.get? (folder ++ below) = t.get? (folder ++ below) := by
  apply h
  intro target htarget
  obtain ⟨habove, hunder⟩ := haway target htarget
  constructor
  · intro hle
    rcases List.prefix_or_prefix_of_prefix hle (List.prefix_append folder below) with h₁ | h₂
    · exact habove h₁
    · exact hunder h₂
  · intro hle
    exact hunder ((List.prefix_append folder below).trans hle)

end ChangesOnly

end FileTree

end TarArchive
