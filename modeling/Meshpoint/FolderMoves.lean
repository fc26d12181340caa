import Mathlib.Data.List.Infix
import Meshpoint.FileTree

/-!
# Moving folders about

What `rename`, a copy that stops part of the way and a removal that leaves something make of the
folders of a file system.  A file is a list of bytes, of any type.  The main lemma is
`same_copied_iff`, which copies are whole ones.
-/

namespace FolderMoves

open TarArchive

variable {α : Type*}

/-! ### What stands at a location -/

/-- A folder, with what is below it. -/
structure Folder (α : Type*) where
  tree : FileTree (List α)
  wellFormed : tree.WellFormed

/-- A file or a folder. -/
inductive Item (α : Type*)
  | file (content : List α)
  | folder (folder : Folder α)

/-- What stands at a path from a location, which is `none` where nothing is. -/
def look : Option (Item α) → Path → Option (Node (List α))
  | none, _ => none
  | some (.file content), path => if path = [] then some (.file content) else none
  | some (.folder folder), path => folder.tree.get? path

def Same (item item' : Option (Item α)) : Prop := ∀ path, look item path = look item' path

theorem Same.refl (item : Option (Item α)) : Same item item := fun _ => rfl

theorem look_top_eq_none_iff {item : Option (Item α)} : look item [] = none ↔ item = none := by
  cases item with
  | none => exact ⟨fun _ => rfl, fun _ => rfl⟩
  | some item =>
    cases item with
    | file content => simp [look]
    | folder folder => simp [look, folder.wellFormed.root]

/-! ### Copying -/

/-- How far a copy comes: for what it reaches, the number of bytes that are written. -/
abbrev Reach := Path → Option Nat

/-- The copy makes the directories above a path, and what is at the path. -/
def reaches (reach : Reach) (path : Path) : Bool := path.inits.all fun above => (reach above).isSome

/-- The number of bytes that are written at a path. -/
def bytesAt (reach : Reach) (path : Path) : Nat := (reach path).getD 0

def cut (n : Nat) : Node (List α) → Node (List α)
  | .dir => .dir
  | .file content => .file (content.take n)

def isWhole (n : Nat) : Node (List α) → Bool
  | .dir => true
  | .file content => content.length ≤ n

theorem cut_eq_self_iff {n : Nat} {node : Node (List α)} : cut n node = node ↔ isWhole n node := by
  cases node with
  | dir => simp [cut, isWhole]
  | file content => simp [cut, isWhole, List.take_eq_self_iff]

theorem reaches_of_le {reach : Reach} {above path : Path} (hle : above <+: path)
    (h : reaches reach path = true) : reaches reach above = true := by
  unfold reaches at h ⊢
  rw [List.all_eq_true] at h ⊢
  intro other hother
  apply h
  rw [List.mem_inits] at hother ⊢
  exact hother.trans hle

@[simp] theorem reaches_nil (reach : Reach) : reaches reach [] = (reach []).isSome := by
  simp [reaches]

/-- The entries that the copy reaches, as far as they are written. -/
def copyTree (reach : Reach) (t : FileTree (List α)) : FileTree (List α) :=
  ⟨(t.nodes.filter fun entry => reaches reach entry.1).map fun entry =>
    (entry.1, cut (bytesAt reach entry.1) entry.2)⟩

theorem lookup_map_nodes {B : Type*} (f : Path → Node B → Node B) (nodes : List (Path × Node B))
    (path : Path) :
    lookup (nodes.map fun entry => (entry.1, f entry.1 entry.2)) path =
      (lookup nodes path).map (f path) := by
  induction nodes with
  | nil => rfl
  | cons entry nodes ih =>
    rw [List.map_cons, lookup_cons, lookup_cons, ih]
    by_cases heq : path = entry.1
    · rw [if_pos heq, if_pos heq, heq, Option.map_some]
    · rw [if_neg heq, if_neg heq]

theorem get?_copyTree (reach : Reach) (t : FileTree (List α)) (path : Path) :
    (copyTree reach t).get? path =
      if reaches reach path then (t.get? path).map (cut (bytesAt reach path)) else none := by
  have hmap := lookup_map_nodes (fun path => cut (α := α) (bytesAt reach path))
    (t.nodes.filter fun entry => reaches reach entry.1) path
  have hfilter := lookup_filter t.nodes (reaches reach) path
  calc (copyTree reach t).get? path
      = (lookup (t.nodes.filter fun entry => reaches reach entry.1) path).map
          (cut (bytesAt reach path)) := hmap
    _ = if reaches reach path then (t.get? path).map (cut (bytesAt reach path)) else none := by
        rw [hfilter]
        split
        · rfl
        · rfl

theorem wellFormed_copyTree {reach : Reach} {t : FileTree (List α)} (h : t.WellFormed)
    (htop : (reach []).isSome = true) : (copyTree reach t).WellFormed where
  nodup := by
    have hfst : ((copyTree reach t).nodes.map Prod.fst) =
        ((t.nodes.filter fun entry => reaches reach entry.1).map Prod.fst) := by
      simp [copyTree, Function.comp_def]
    rw [hfst]
    exact h.nodup.sublist (List.filter_sublist.map Prod.fst)
  root := by
    rw [get?_copyTree, reaches_nil, if_pos htop, h.root]
    rfl
  parents := by
    intro entry hentry hne
    obtain ⟨source, hsource, rfl⟩ := List.mem_map.mp hentry
    obtain ⟨hmem, hreach⟩ := List.mem_filter.mp hsource
    rw [get?_copyTree, if_pos (reaches_of_le (List.dropLast_prefix _) hreach),
      h.parents source hmem hne]
    rfl

def Folder.copied (reach : Reach) (folder : Folder α) : Option (Item α) :=
  if htop : (reach []).isSome = true then
    some (.folder ⟨copyTree reach folder.tree, wellFormed_copyTree folder.wellFormed htop⟩)
  else none

theorem look_copied (reach : Reach) (folder : Folder α) (path : Path) :
    look (folder.copied reach) path =
      if reaches reach path then (folder.tree.get? path).map (cut (bytesAt reach path))
      else none := by
  unfold Folder.copied
  split
  · exact get?_copyTree reach folder.tree path
  · rename_i htop
    rw [if_neg]
    · rfl
    · intro hreach
      exact htop (reaches_nil reach ▸ reaches_of_le (List.nil_prefix) hreach)

/-- The copy reaches every entry, and writes all of it. -/
def isComplete (reach : Reach) (folder : Folder α) : Bool :=
  folder.tree.nodes.all fun entry =>
    reaches reach entry.1 && isWhole (bytesAt reach entry.1) entry.2

theorem same_copied_iff {reach : Reach} {folder : Folder α} :
    Same (folder.copied reach) (some (.folder folder)) ↔ isComplete reach folder = true := by
  unfold isComplete
  rw [List.all_eq_true]
  constructor
  · intro h entry hentry
    have hget := FileTree.get?_of_mem folder.wellFormed.nodup hentry
    have hpath := h entry.1
    rw [look_copied] at hpath
    change _ = folder.tree.get? entry.1 at hpath
    rw [hget] at hpath
    split at hpath
    · rename_i hreach
      rw [Option.map_some, Option.some_inj, cut_eq_self_iff] at hpath
      rw [hreach, hpath]
      rfl
    · cases hpath
  · intro h path
    rw [look_copied]
    change _ = folder.tree.get? path
    cases hget : folder.tree.get? path with
    | none => simp
    | some node =>
      have hentry := h (path, node) (FileTree.mem_of_get? hget)
      rw [Bool.and_eq_true, ← cut_eq_self_iff] at hentry
      rw [if_pos hentry.1, Option.map_some, hentry.2]

/-! ### Renaming -/

def Folder.isEmpty (folder : Folder α) : Bool := folder.tree.nodes.all fun entry => entry.1 = []

/-- `rename` takes an item to a location: to a free one, a file onto a file, and a folder onto an
    empty folder. -/
def fits : Item α → Option (Item α) → Bool
  | _, none => true
  | .file _, some (.file _) => true
  | .folder _, some (.folder target) => target.isEmpty
  | _, some _ => false

def isBare (reach : Reach) (folder : Folder α) : Bool :=
  folder.tree.nodes.all fun entry => entry.1 = [] || !reaches reach entry.1

/-- What a copy leaves gives way to an item if it is nothing, or an empty folder and the item is a
    folder. -/
theorem fits_copied_iff {reach : Reach} {folder : Folder α} {item : Item α} :
    fits item (folder.copied reach) = true ↔
      reach [] = none ∨ isBare reach folder = true ∧ ∃ old, item = .folder old := by
  unfold Folder.copied
  split
  · rename_i htop
    have hne : reach [] ≠ none := Option.isSome_iff_ne_none.mp htop
    cases item with
    | file content => simp [fits, hne]
    | folder old =>
      have hbare : (Folder.isEmpty ⟨copyTree reach folder.tree,
          wellFormed_copyTree folder.wellFormed htop⟩) = isBare reach folder := by
        simp only [Folder.isEmpty, copyTree, isBare, List.all_map, List.all_filter,
          Function.comp_def]
        congr
        funext entry
        cases reaches reach entry.1 <;> simp
      simp [fits, hbare, hne]
  · rename_i htop
    simp [fits, Option.not_isSome_iff_eq_none.mp htop]

/-! ### Removing -/

def isKept (stuck : Path → Bool) (t : FileTree (List α)) (path : Path) : Bool :=
  t.nodes.any fun entry => stuck entry.1 && path <+: entry.1

theorem isKept_of_le {stuck : Path → Bool} {t : FileTree (List α)} {above path : Path}
    (hle : above <+: path) (h : isKept stuck t path = true) : isKept stuck t above = true := by
  unfold isKept at h ⊢
  rw [List.any_eq_true] at h ⊢
  obtain ⟨entry, hentry, hstuck⟩ := h
  rw [Bool.and_eq_true, decide_eq_true_eq] at hstuck
  refine ⟨entry, hentry, ?_⟩
  rw [Bool.and_eq_true, decide_eq_true_eq]
  exact ⟨hstuck.1, hle.trans hstuck.2⟩

theorem wellFormed_keep {stuck : Path → Bool} {t : FileTree (List α)} (h : t.WellFormed)
    (htop : isKept stuck t [] = true) : (t.keep (isKept stuck t)).WellFormed where
  nodup := h.nodup.sublist (List.filter_sublist.map Prod.fst)
  root := by
    rw [FileTree.get?_keep, if_pos htop, h.root]
  parents := by
    intro entry hentry hne
    obtain ⟨hmem, hkept⟩ := List.mem_filter.mp hentry
    rw [FileTree.get?_keep, if_pos (isKept_of_le (List.dropLast_prefix _) hkept),
      h.parents entry hmem hne]

/-- What a removal of a folder leaves, of which some entries cannot be removed.  A file is no
    folder, and stays. -/
def cleared (stuck : Path → Bool) : Option (Item α) → Option (Item α)
  | some (.folder folder) =>
    if htop : isKept stuck folder.tree [] = true then
      some (.folder ⟨folder.tree.keep (isKept stuck folder.tree),
        wellFormed_keep folder.wellFormed htop⟩)
    else none
  | item => item

end FolderMoves
