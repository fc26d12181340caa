import Meshpoint.FolderMoves
import Meshpoint.LockedContent

/-!
# Updating a plugin in place

`place` and `install_from_source` (`src/plugins/installer.py`) at the destination and at the backup
beside it, where every operation on the file system may fail.  A move across file systems is a copy,
which may stop after any part of the tree.  There are no links among the folders.

The rollback renames the backup onto what such a copy has left, and is refused there.
`allOrNothing_iff` says when the destination still holds one whole version.
-/

namespace Meshpoint.PluginPlacement

open TarArchive ByteCodec FolderMoves LockedContent

/-! ### The operations -/

/-- Where the plugin stands, and where its update keeps the old version. -/
structure Locations where
  dest : Option (Item UInt8)
  backup : Option (Item UInt8)

/-- Which operations of `place` fail.  `stuck` and `stuckAfter` are what the two removals of the
    backup, which ignore errors, cannot remove. -/
structure Faults where
  /-- Making the parent directory, or looking at the destination, raises. -/
  parent : Bool := false
  stuck : Path → Bool := fun _ => false
  /-- The rename of the old version to the backup raises. -/
  setAside : Bool := false
  /-- How far the copy comes when the move raises. -/
  move : Option Reach := none
  /-- The rename of the backup to the destination raises. -/
  putBack : Bool := false
  stuckAfter : Path → Bool := fun _ => false

structure Outcome where
  locations : Locations
  raised : Bool

/-- The rollback of `place`, over what the move has left at the destination. -/
def rollBack (faults : Faults) (old : Item UInt8) (left : Option (Item UInt8)) : Outcome :=
  if !faults.putBack && fits old left then ⟨⟨some old, none⟩, true⟩
  else ⟨⟨left, some old⟩, true⟩

/-- `place`, where something stands at the destination. -/
def replaceOld (faults : Faults) (staged : Folder UInt8) (old : Item UInt8)
    (backup : Option (Item UInt8)) : Outcome :=
  let backup := cleared faults.stuck backup
  if !faults.setAside && fits old backup then
    match faults.move with
    | none => ⟨⟨some (.folder staged), cleared faults.stuckAfter (some old)⟩, false⟩
    | some reach => rollBack faults old (staged.copied reach)
  else ⟨⟨some old, backup⟩, true⟩

/-- `place`, where nothing stands at the destination. -/
def placeNew (faults : Faults) (staged : Folder UInt8) (backup : Option (Item UInt8)) : Outcome :=
  match faults.move with
  | none => ⟨⟨some (.folder staged), backup⟩, false⟩
  | some reach => ⟨⟨staged.copied reach, backup⟩, true⟩

/-- `place`. -/
def place (faults : Faults) (staged : Folder UInt8) (before : Locations) : Outcome :=
  if faults.parent then ⟨before, true⟩
  else
    match before.dest with
    | none => placeNew faults staged before.backup
    | some old => replaceOld faults staged old before.backup

/-- `install_from_source`, on what was staged; `none` where staging raises. -/
def installFromSource (fmt : Formats Bytes) (entry : CatalogEntry) (faults : Faults)
    (fetched : Option (Folder UInt8)) (before : Locations) : Outcome :=
  match fetched with
  | none => ⟨before, true⟩
  | some staged =>
    if validateStaged fmt entry staged.tree then place faults staged before else ⟨before, true⟩

/-! ### One whole version -/

/-- The destination holds the whole old version, or the whole new one. -/
def AllOrNothing (staged : Folder UInt8) (before after : Locations) : Prop :=
  Same after.dest before.dest ∨ Same after.dest (some (.folder staged))

/-- The move is tried: what stands at the destination could be set aside. -/
def reachesMove (faults : Faults) (before : Locations) : Bool :=
  !faults.parent &&
    match before.dest with
    | none => true
    | some old => !faults.setAside && fits old (cleared faults.stuck before.backup)

/-- The backup is renamed back: there is one, the rename does not fail, and what the copy has left
    is not in its way. -/
def isRolledBack (faults : Faults) (reach : Reach) (staged : Folder UInt8) :
    Option (Item UInt8) → Bool
  | none => false
  | some (.file _) => !faults.putBack && (reach []).isNone
  | some (.folder _) => !faults.putBack && ((reach []).isNone || isBare reach staged)

/-- When the move is tried and fails, it has copied everything, or the backup is renamed back, or
    what it has copied is all that the old version is. -/
def Recoverable (faults : Faults) (staged : Folder UInt8) (before : Locations) : Prop :=
  reachesMove faults before = true → ∀ reach, faults.move = some reach →
    isComplete reach staged = true ∨ isRolledBack faults reach staged before.dest = true ∨
      Same (staged.copied reach) before.dest

theorem isRolledBack_some {faults : Faults} {reach : Reach} {staged : Folder UInt8}
    {old : Item UInt8} :
    isRolledBack faults reach staged (some old) =
      (!faults.putBack && fits old (staged.copied reach)) := by
  rw [Bool.eq_iff_iff, Bool.and_eq_true, fits_copied_iff]
  cases old with
  | file content => simp [isRolledBack]
  | folder folder => simp [isRolledBack]

theorem rollBack_copied (faults : Faults) (reach : Reach) (staged : Folder UInt8)
    (old : Item UInt8) :
    rollBack faults old (staged.copied reach) =
      if isRolledBack faults reach staged (some old) then ⟨⟨some old, none⟩, true⟩
      else ⟨⟨staged.copied reach, some old⟩, true⟩ := by
  rw [isRolledBack_some]
  rfl

theorem place_dest (faults : Faults) (staged : Folder UInt8) (before : Locations) :
    (place faults staged before).locations.dest =
      if reachesMove faults before then
        match faults.move with
        | none => some (.folder staged)
        | some reach =>
          if isRolledBack faults reach staged before.dest then before.dest
          else staged.copied reach
      else before.dest := by
  unfold place reachesMove
  cases hparent : faults.parent with
  | true => rfl
  | false =>
    cases hdest : before.dest with
    | none =>
      simp only [placeNew, Bool.not_false, Bool.true_and, if_true, isRolledBack]
      cases faults.move with
      | none => rfl
      | some reach => rfl
    | some old =>
      simp only [replaceOld, Bool.not_false, Bool.true_and, rollBack_copied]
      by_cases haside : (!faults.setAside && fits old (cleared faults.stuck before.backup)) = true
      · simp only [haside, if_true]
        cases faults.move with
        | none => rfl
        | some reach =>
          simp only [Bool.false_eq_true, if_false]
          by_cases hback : isRolledBack faults reach staged (some old) = true
          · simp only [hback, if_true]
          · simp only [hback, Bool.false_eq_true, if_false]
      · simp only [haside, Bool.false_eq_true, if_false]

theorem settled_iff {faults : Faults} {reach : Reach} {staged : Folder UInt8}
    {dest : Option (Item UInt8)} :
    Same (if isRolledBack faults reach staged dest then dest else staged.copied reach) dest ∨
        Same (if isRolledBack faults reach staged dest then dest else staged.copied reach)
          (some (.folder staged)) ↔
      isComplete reach staged = true ∨ isRolledBack faults reach staged dest = true ∨
        Same (staged.copied reach) dest := by
  rw [← same_copied_iff]
  by_cases hback : isRolledBack faults reach staged dest = true
  · simp only [hback, if_true, Same.refl, true_or, or_true]
  · simp only [hback, Bool.false_eq_true, if_false, false_or]
    exact or_comm

/-- What `place` leaves at the destination is one whole version where it is recoverable. -/
theorem same_place_dest_iff (faults : Faults) (staged : Folder UInt8) (before : Locations) :
    Same (place faults staged before).locations.dest before.dest ∨
        Same (place faults staged before).locations.dest (some (.folder staged)) ↔
      Recoverable faults staged before := by
  unfold Recoverable
  rw [place_dest]
  by_cases hreach : reachesMove faults before = true
  · rw [if_pos hreach]
    cases hmove : faults.move with
    | none => simp [hreach, Same.refl]
    | some reach =>
      simp only [hreach, Option.some.injEq, forall_const, forall_eq']
      exact settled_iff
  · rw [if_neg hreach]
    simp [hreach, Same.refl]

/-- **An update keeps one whole version where it is recoverable, and nowhere else.** -/
theorem allOrNothing_iff (faults : Faults) (staged : Folder UInt8) (before : Locations) :
    AllOrNothing staged before (place faults staged before).locations ↔
      Recoverable faults staged before :=
  same_place_dest_iff faults staged before

def twoFiles (manifest script : Bytes) : Folder UInt8 where
  tree := ⟨[([], .dir), (["plugin.toml".toList], .file manifest),
    (["ui.js".toList], .file script)]⟩
  wellFormed := ⟨by simp, rfl, by simp [FileTree.get?]⟩

/-- Between two file systems, the copy stops after the manifest. -/
def stopsAfterManifest : Faults where
  move := some fun path => if path = [] then some 0
    else if path = ["plugin.toml".toList] then some 1 else none

/-- The new manifest stands there without its script, and the old version is not put back. -/
theorem not_allOrNothing_stopsAfterManifest :
    ¬ AllOrNothing (twoFiles [3] [4]) ⟨some (.folder (twoFiles [1] [2])), none⟩
      (place stopsAfterManifest (twoFiles [3] [4])
        ⟨some (.folder (twoFiles [1] [2])), none⟩).locations := by
  rintro (h | h)
  · exact absurd (h ["plugin.toml".toList]) (by decide)
  · exact absurd (h ["ui.js".toList]) (by decide)

/-! ### Installing -/

/-- The destination holds the whole old version, or the whole of what was staged. -/
def KeepsVersion (fetched : Option (Folder UInt8)) (before after : Locations) : Prop :=
  Same after.dest before.dest ∨
    ∃ staged, fetched = some staged ∧ Same after.dest (some (.folder staged))

theorem keepsVersion_iff (fmt : Formats Bytes) (entry : CatalogEntry) (faults : Faults)
    (fetched : Option (Folder UInt8)) (before : Locations) :
    KeepsVersion fetched before
        (installFromSource fmt entry faults fetched before).locations ↔
      ∀ staged, fetched = some staged → validateStaged fmt entry staged.tree = true →
        Recoverable faults staged before := by
  unfold KeepsVersion installFromSource
  cases fetched with
  | none => simp [Same.refl]
  | some staged =>
    simp only [Option.some.injEq, exists_eq_left', forall_eq']
    by_cases hvalid : validateStaged fmt entry staged.tree = true
    · simp only [hvalid, if_true, forall_const]
      exact same_place_dest_iff faults staged before
    · simp [hvalid, Same.refl]

/-! ### In the whole tree -/

def Shows (t : FileTree Bytes) (path : Path) (item : Option (Item UInt8)) : Prop :=
  ∀ below, t.get? (path ++ below) = look item below

def nodesOf : Option (Item UInt8) → List (Path × Node Bytes)
  | none => []
  | some (.file content) => [([], .file content)]
  | some (.folder folder) => folder.tree.nodes

theorem lookup_nodesOf (item : Option (Item UInt8)) (path : Path) :
    lookup (nodesOf item) path = look item path := by
  cases item with
  | none => rfl
  | some item =>
    cases item with
    | file content => exact lookup_cons _ _ _
    | folder folder => rfl

section

variable {t : FileTree Bytes} {path other : Path} {item : Option (Item UInt8)}

variable (item) in
theorem shows_replace : Shows (t.replace path (nodesOf item)) path item := by
  intro below
  rw [FileTree.get?_replace, if_pos (List.prefix_append _ _), List.drop_left, lookup_nodesOf]

theorem Shows.moved (h : Shows t path item) (t' : FileTree Bytes) :
    Shows (t'.replace other (t.subtree path)) other item := by
  intro below
  rw [FileTree.get?_replace, if_pos (List.prefix_append _ _), List.drop_left,
    FileTree.lookup_subtree, h]

theorem Shows.beside (h : Shows t path item) (haway : FileTree.Unrelated other path)
    (nodes : List (Path × Node Bytes)) : Shows (t.replace other nodes) path item := by
  intro below
  rw [FileTree.get?_replace, if_neg, h]
  intro hle
  rcases List.prefix_or_prefix_of_prefix hle (List.prefix_append path below) with h₁ | h₂
  · exact haway.1 h₁
  · exact haway.2 h₂

theorem Shows.makeDirs {dir : Path} {name : List Char} {t' : FileTree Bytes}
    (h : Shows t (dir ++ [name]) item) (hmade : t.makeDirs [] dir = some t') :
    Shows t' (dir ++ [name]) item := by
  intro below
  rw [FileTree.get?_makeDirs hmade, h]
  intro hle
  have hlength := hle.length_le
  simp at hlength

theorem Shows.isSome_get? (h : Shows t path item) : (t.get? path).isSome = item.isSome := by
  have htop := h []
  rw [List.append_nil] at htop
  rw [htop]
  cases item with
  | none => rfl
  | some item =>
    rw [Option.isSome_some, Option.isSome_iff_ne_none]
    intro hnone
    exact Option.some_ne_none _ (look_top_eq_none_iff.mp hnone)

end

/-- The ends of the calls, as the faults have them. -/
def callsOf (faults : Faults) (staged : Folder UInt8) (before : Locations) (permission : Bool) :
    PlaceCalls Bytes where
  cleared := nodesOf (cleared faults.stuck before.backup)
  renamed := reachesMove faults before
  moved := faults.move.map fun reach => nodesOf (staged.copied reach)
  restored := (faults.move.map fun reach => isRolledBack faults reach staged before.dest).getD true
  cleanup := nodesOf (cleared faults.stuckAfter before.dest)
  permission := permission

/-- **In the whole tree** an update leaves at the destination and at the backup what it leaves at
    the two locations. -/
theorem shows_place {t : FileTree Bytes} {dir : Path} {name : List Char} {faults : Faults}
    {before : Locations} (staged : Folder UInt8) (permission : Bool)
    (hmade : (t.makeDirs [] dir).isSome = !faults.parent)
    (hdest : Shows t (dir ++ [name]) before.dest)
    (hbackup : Shows t (backupOf (dir ++ [name])) before.backup) :
    Shows (LockedContent.place t (dir ++ [name]) staged.tree.nodes
        (callsOf faults staged before permission)).1 (dir ++ [name])
          (place faults staged before).locations.dest ∧
      Shows (LockedContent.place t (dir ++ [name]) staged.tree.nodes
        (callsOf faults staged before permission)).1 (backupOf (dir ++ [name]))
          (place faults staged before).locations.backup := by
  rw [backupOf_append] at hbackup ⊢
  have haway : FileTree.Unrelated (dir ++ [name ++ ".replacing".toList]) (dir ++ [name]) :=
    unrelated_siblings dir (by simp)
  have haway' : FileTree.Unrelated (dir ++ [name]) (dir ++ [name ++ ".replacing".toList]) :=
    haway.symm
  unfold LockedContent.place place
  rw [List.dropLast_concat]
  cases hparent : faults.parent with
  | true =>
    rw [hparent] at hmade
    have hnone : t.makeDirs [] dir = none := by simpa using hmade
    rw [hnone]
    exact ⟨hdest, hbackup⟩
  | false =>
    rw [hparent] at hmade
    obtain ⟨t', hmade⟩ := Option.isSome_iff_exists.mp hmade
    have hdest' := hdest.makeDirs hmade
    have hbackup' := hbackup.makeDirs hmade
    rw [hmade]
    dsimp only
    rw [hdest'.isSome_get?, backupOf_append]
    cases hold : before.dest with
    | none =>
      simp only [callsOf, placeNew, Option.isSome_none, Bool.false_eq_true, if_false]
      cases faults.move with
      | none => exact ⟨shows_replace (some (.folder staged)), hbackup'.beside haway' _⟩
      | some reach => exact ⟨shows_replace _, hbackup'.beside haway' _⟩
    | some old =>
      rw [hold] at hdest'
      have hreach : reachesMove faults before =
          (!faults.setAside && fits old (cleared faults.stuck before.backup)) := by
        simp [reachesMove, hparent, hold]
      simp only [callsOf, replaceOld, Option.isSome_some, if_true, hreach, hold, rollBack_copied]
      by_cases haside : (!faults.setAside && fits old (cleared faults.stuck before.backup)) = true
      · simp only [haside, Bool.not_true, Bool.false_eq_true, if_false, if_true]
        cases faults.move with
        | none =>
          exact ⟨(shows_replace (some (.folder staged))).beside haway _, shows_replace _⟩
        | some reach =>
          simp only [Option.map_some, Option.getD_some]
          by_cases hback : isRolledBack faults reach staged (some old) = true
          · simp only [hback, if_true]
            exact ⟨hdest'.moved _, (shows_replace none).beside haway' _⟩
          · simp only [hback, Bool.false_eq_true, if_false]
            exact ⟨shows_replace _, (hdest'.moved _).beside haway' _⟩
      · simp only [haside, Bool.not_false, Bool.false_eq_true, if_false, if_true]
        exact ⟨hdest'.beside haway _, shows_replace _⟩

end Meshpoint.PluginPlacement
