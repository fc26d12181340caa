import Mathlib.Algebra.Order.BigOperators.Group.List
import Mathlib.Algebra.Order.Group.Int
import Mathlib.Algebra.Ring.Int.Defs
import Mathlib.Order.Bounds.Defs

/-!
# Quantiles of a weighted list

Bins are levels with a count each. A walk along the bins adds the counts up and stops where the
sum has reached a target; `reached` says of a sum whether it has. On bins in the order of their
levels, whatever the order of the counts of one level, the walk stops at the least level up to
which the count reaches the target (`isLeast_firstReaching`).
-/

namespace WeightedQuantile

universe u

variable {α : Type u} [LinearOrder α] {reached : Int → Bool}

/-- The walk: the level of the first bin where the sum has reached the target. -/
def firstReaching {α : Type u} (reached : Int → Bool) : Int → List (α × Int) → Option α
  | _, [] => none
  | cumulative, (level, count) :: rest =>
    if reached (cumulative + count) then some level
    else firstReaching reached (cumulative + count) rest

def massUpTo (bins : List (α × Int)) (level : α) : Int :=
  ((bins.filter fun bin => decide (bin.1 ≤ level)).map Prod.snd).sum

/-- The levels up to which the count reaches the target. -/
def Reaching (reached : Int → Bool) (cumulative : Int) (bins : List (α × Int)) : Set α :=
  {level | level ∈ bins.map Prod.fst ∧ reached (cumulative + massUpTo bins level) = true}

theorem massUpTo_cons_of_le {level at' : α} (h : level ≤ at') (count : Int)
    (rest : List (α × Int)) :
    massUpTo ((level, count) :: rest) at' = count + massUpTo rest at' := by
  simp [massUpTo, h]

theorem massUpTo_nonneg {bins : List (α × Int)} (hcounts : ∀ bin ∈ bins, 0 ≤ bin.2) (level : α) :
    0 ≤ massUpTo bins level := by
  apply List.sum_nonneg
  intro count hcount
  obtain ⟨bin, hbin, rfl⟩ := List.mem_map.mp hcount
  exact hcounts bin (List.mem_filter.mp hbin).1

theorem massUpTo_eq_zero {bins : List (α × Int)} {level : α}
    (h : ∀ bin ∈ bins, level < bin.1) : massUpTo bins level = 0 := by
  have hnone : bins.filter (fun bin => decide (bin.1 ≤ level)) = [] := by
    rw [List.filter_eq_nil_iff]
    intro bin hbin hle
    exact absurd (of_decide_eq_true hle) (not_le.mpr (h bin hbin))
  rw [massUpTo, hnone]
  rfl

/-- Behind the first bin the targets that are left are reached at the same levels, unless the
    first bin reaches one. -/
theorem reaching_cons {level : α} {count cumulative : Int} {rest : List (α × Int)}
    (hle : ∀ bin ∈ rest, level ≤ bin.1) (hfirst : reached (cumulative + count) = false) :
    Reaching reached cumulative ((level, count) :: rest) =
      Reaching reached (cumulative + count) rest := by
  ext l
  have hmass : level ≤ l → cumulative + massUpTo ((level, count) :: rest) l =
      cumulative + count + massUpTo rest l := by
    intro hl
    rw [massUpTo_cons_of_le hl, Int.add_assoc]
  constructor
  · rintro ⟨hmem, hreached⟩
    rw [List.map_cons, List.mem_cons] at hmem
    by_cases hrest : l ∈ rest.map Prod.fst
    · obtain ⟨bin, hbin, rfl⟩ := List.mem_map.mp hrest
      rw [hmass (hle bin hbin)] at hreached
      exact ⟨hrest, hreached⟩
    · -- the level of the first bin alone: nothing else counts up to it
      obtain rfl : l = level := hmem.resolve_right hrest
      have hzero : massUpTo rest l = 0 := by
        refine massUpTo_eq_zero fun bin hbin => lt_of_le_of_ne (hle bin hbin) ?_
        rintro rfl
        exact hrest (List.mem_map_of_mem hbin)
      rw [hmass le_rfl, hzero, Int.add_zero, hfirst] at hreached
      cases hreached
  · rintro ⟨hmem, hreached⟩
    obtain ⟨bin, hbin, rfl⟩ := List.mem_map.mp hmem
    refine ⟨List.mem_cons_of_mem _ hmem, ?_⟩
    rw [hmass (hle bin hbin)]
    exact hreached

/-- **The walk finds the quantile.** -/
theorem isLeast_firstReaching (hmono : ∀ m n, m ≤ n → reached m = true → reached n = true)
    {bins : List (α × Int)} (hsorted : bins.Pairwise fun a b => a.1 ≤ b.1)
    (hcounts : ∀ bin ∈ bins, 0 ≤ bin.2) (hne : bins ≠ []) {cumulative : Int}
    (htotal : reached (cumulative + (bins.map Prod.snd).sum) = true) :
    ∃ level, firstReaching reached cumulative bins = some level ∧
      IsLeast (Reaching reached cumulative bins) level := by
  induction bins generalizing cumulative with
  | nil => exact absurd rfl hne
  | cons bin rest ih =>
    obtain ⟨level, count⟩ := bin
    rw [List.pairwise_cons] at hsorted
    obtain ⟨hle, hsorted⟩ := hsorted
    have hcount : ∀ bin ∈ rest, 0 ≤ bin.2 :=
      fun bin hbin => hcounts bin (List.mem_cons_of_mem _ hbin)
    cases hfirst : reached (cumulative + count) with
    | true =>
      refine ⟨level, by simp [firstReaching, hfirst], ⟨List.mem_cons_self, ?_⟩, ?_⟩
      · have hmass := massUpTo_nonneg hcount level
        rw [massUpTo_cons_of_le le_rfl]
        exact hmono _ _ (by omega) hfirst
      · rintro l ⟨hmem, -⟩
        rw [List.map_cons, List.mem_cons] at hmem
        rcases hmem with rfl | hmem
        · exact le_rfl
        · obtain ⟨bin, hbin, rfl⟩ := List.mem_map.mp hmem
          exact hle bin hbin
    | false =>
      rw [List.map_cons, List.sum_cons, ← Int.add_assoc] at htotal
      have hrest : rest ≠ [] := by
        rintro rfl
        rw [List.map_nil, List.sum_nil, Int.add_zero] at htotal
        rw [htotal] at hfirst
        cases hfirst
      obtain ⟨least, hwalk, hleast⟩ := ih hsorted hcount hrest htotal
      refine ⟨least, ?_, ?_⟩
      · simpa [firstReaching, hfirst] using hwalk
      · rw [reaching_cons hle hfirst]
        exact hleast

end WeightedQuantile
