import Mathlib.Data.Prod.Lex
import Mathlib.Tactic.Linarith
import Mathlib.Tactic.Positivity
import Meshpoint.ListFacts
import Meshpoint.Raising
import Meshpoint.WeightedQuantile

/-!
# Histograms of spectral scans

`SpectralScanResult` of `src/hal/sx1302_spectral_scan.py` and its percentiles. The arithmetic of
`percentile` is a parameter: `exact` is that of the rational numbers. On a histogram a percentile is
the weighted quantile of its bins (`percentile_isLeast`), whatever their order.
-/

namespace Meshpoint.SpectralScan

open Raising WeightedQuantile

/-! ### The percentile -/

structure SpectralScanResult (T : Type) where
  levelsDbm : List Int
  counts : List Int
  frequencyHz : Int
  nbScan : Int
  timestamp : T

/-- The arithmetic of a percentile: the target, what has reached it, and `float(level)`. -/
structure Arithmetic (F : Type) where
  /-- `total * (p / 100.0)`. -/
  target : (total : Int) → (p : ℚ) → Except PyException F
  /-- `cumulative >= target`. -/
  reached : F → Int → Bool
  /-- `float(level)`. -/
  ofLevel : Int → Except PyException F

section

variable {F T : Type} (arith : Arithmetic F) (result : SpectralScanResult T)

def totalSamples : Int := result.counts.sum

/-- `sorted(zip(self.levels_dbm, self.counts))`. -/
def sortedBins : List (Int × Int) :=
  (result.levelsDbm.zip result.counts).mergeSort fun a b => decide (toLex a ≤ toLex b)

/-- The level that `percentile` returns; `max` of nothing raises. -/
def chosenLevel (target : F) : Except PyException Int :=
  match firstReaching (arith.reached target) 0 (sortedBins result) with
  | some level => .ok level
  | none =>
    match result.levelsDbm.max? with
    | some level => .ok level
    | none => .error .valueError

/-- `percentile`. -/
def percentile (p : ℚ) : Except PyException (Option F) :=
  if totalSamples result ≤ 0 then .ok none
  else do
    let target ← arith.target (totalSamples result) p
    let level ← chosenLevel arith result target
    some <$> arith.ofLevel level

def medianDbm : Except PyException (Option F) := percentile arith result 50

def floorDbm : Except PyException (Option F) := percentile arith result 10

end

/-! ### Exact arithmetic -/

def exact : Arithmetic ℚ where
  target total p := .ok (total * (p / 100))
  reached target cumulative := decide (target ≤ cumulative)
  ofLevel level := .ok level

section

variable {T : Type} {result other : SpectralScanResult T} {p q : ℚ}

/-- A bin for each level, no negative count, and a sample at least. -/
structure Histogram (result : SpectralScanResult T) : Prop where
  length_eq : result.levelsDbm.length = result.counts.length
  nonneg : ∀ count ∈ result.counts, 0 ≤ count
  sampled : 0 < totalSamples result

/-- The levels whose cumulative sample count reaches `p` percent of the total. -/
def reachingLevels (result : SpectralScanResult T) (p : ℚ) : Set Int :=
  {level | level ∈ result.levelsDbm ∧ (totalSamples result : ℚ) * (p / 100) ≤
    massUpTo (result.levelsDbm.zip result.counts) level}

theorem sortedBins_perm (result : SpectralScanResult T) :
    (sortedBins result).Perm (result.levelsDbm.zip result.counts) :=
  List.mergeSort_perm _ _

theorem pairwise_sortedBins (result : SpectralScanResult T) :
    (sortedBins result).Pairwise fun a b => toLex a ≤ toLex b :=
  ListFacts.pairwise_mergeSort_key toLex _

theorem sortedBins_congr
    (hperm : (other.levelsDbm.zip other.counts).Perm (result.levelsDbm.zip result.counts)) :
    sortedBins other = sortedBins result := by
  apply List.Perm.eq_of_pairwise
  · intro a b _ _ hab hba
    exact toLex_inj.mp (le_antisymm hab hba)
  · exact pairwise_sortedBins other
  · exact pairwise_sortedBins result
  · exact ((sortedBins_perm other).trans hperm).trans (sortedBins_perm result).symm

theorem massUpTo_sortedBins (result : SpectralScanResult T) (level : Int) :
    massUpTo (sortedBins result) level = massUpTo (result.levelsDbm.zip result.counts) level :=
  (((sortedBins_perm result).filter _).map Prod.snd).sum_eq

theorem map_fst_zip (h : Histogram result) :
    (result.levelsDbm.zip result.counts).map Prod.fst = result.levelsDbm :=
  List.map_fst_zip (le_of_eq h.length_eq)

theorem map_snd_zip (h : Histogram result) :
    (result.levelsDbm.zip result.counts).map Prod.snd = result.counts :=
  List.map_snd_zip (le_of_eq h.length_eq.symm)

theorem reaching_eq (h : Histogram result) (p : ℚ) :
    Reaching (exact.reached (totalSamples result * (p / 100))) 0 (sortedBins result) =
      reachingLevels result p := by
  ext level
  have hmem : level ∈ (sortedBins result).map Prod.fst ↔ level ∈ result.levelsDbm := by
    rw [((sortedBins_perm result).map Prod.fst).mem_iff, map_fst_zip h]
  simp only [Reaching, reachingLevels, Set.mem_setOf_eq, hmem, massUpTo_sortedBins, exact,
    Int.zero_add, decide_eq_true_eq]

/-- **A percentile is the smallest level whose cumulative count reaches its share.** -/
theorem percentile_isLeast (h : Histogram result) (hp : p ≤ 100) :
    ∃ level : Int, percentile exact result p = .ok (some (level : ℚ)) ∧
      IsLeast (reachingLevels result p) level := by
  have hmono : ∀ m n, m ≤ n →
      exact.reached (totalSamples result * (p / 100)) m = true →
      exact.reached (totalSamples result * (p / 100)) n = true := by
    intro m n hmn hm
    have hcast : (m : ℚ) ≤ n := by exact_mod_cast hmn
    simp only [exact, decide_eq_true_eq] at hm ⊢
    exact hm.trans hcast
  have hsorted : (sortedBins result).Pairwise fun a b => a.1 ≤ b.1 :=
    (pairwise_sortedBins result).imp fun hab => Prod.Lex.monotone_fst _ _ hab
  have hcounts : ∀ bin ∈ sortedBins result, 0 ≤ bin.2 := by
    intro bin hbin
    have hmem := List.mem_map_of_mem (f := Prod.snd) ((sortedBins_perm result).mem_iff.mp hbin)
    rw [map_snd_zip h] at hmem
    exact h.nonneg _ hmem
  have hsum : ((sortedBins result).map Prod.snd).sum = totalSamples result := by
    rw [((sortedBins_perm result).map Prod.snd).sum_eq, map_snd_zip h]
    rfl
  have hne : sortedBins result ≠ [] := by
    intro hnil
    have hpos := h.sampled
    rw [← hsum, hnil] at hpos
    exact absurd hpos (by decide)
  have htotal : exact.reached (totalSamples result * (p / 100))
      (0 + ((sortedBins result).map Prod.snd).sum) = true := by
    have hpos : (0 : ℚ) < totalSamples result := by exact_mod_cast h.sampled
    rw [hsum, Int.zero_add]
    simp only [exact, decide_eq_true_eq]
    nlinarith
  obtain ⟨level, hwalk, hleast⟩ := isLeast_firstReaching hmono hsorted hcounts hne htotal
  refine ⟨level, ?_, ?_⟩
  · rw [percentile, if_neg (not_le.mpr h.sampled)]
    have hchosen : chosenLevel exact result (totalSamples result * (p / 100)) = .ok level := by
      rw [chosenLevel, hwalk]
    change (chosenLevel exact result (totalSamples result * (p / 100)) >>= _) = _
    rw [hchosen]
    rfl
  · rw [← reaching_eq h]
    exact hleast

theorem percentile_congr (h : Histogram result) (hlength : other.levelsDbm.length =
    other.counts.length)
    (hperm : (other.levelsDbm.zip other.counts).Perm (result.levelsDbm.zip result.counts))
    (hp : p ≤ 100) : percentile exact other p = percentile exact result p := by
  have hcounts : other.counts.Perm result.counts := by
    have hsnd := hperm.map Prod.snd
    rwa [map_snd_zip h, List.map_snd_zip (le_of_eq hlength.symm)] at hsnd
  have hother : Histogram other := by
    refine ⟨hlength, fun count hcount => h.nonneg _ (hcounts.mem_iff.mp hcount), ?_⟩
    rw [totalSamples, hcounts.sum_eq]
    exact h.sampled
  have htotal : totalSamples other = totalSamples result := hcounts.sum_eq
  obtain ⟨level, hlevel, hleast⟩ := percentile_isLeast h hp
  obtain ⟨level', hlevel', hleast'⟩ := percentile_isLeast hother hp
  have hsame : reachingLevels other p = reachingLevels result p := by
    rw [← reaching_eq hother, ← reaching_eq h, sortedBins_congr hperm, htotal]
  rw [hsame] at hleast'
  rw [hlevel, hlevel', hleast.unique hleast']

theorem percentile_mono (h : Histogram result) (hpq : p ≤ q) (hq : q ≤ 100) {a b : ℚ}
    (ha : percentile exact result p = .ok (some a))
    (hb : percentile exact result q = .ok (some b)) : a ≤ b := by
  obtain ⟨level, hlevel, hleast⟩ := percentile_isLeast h (hpq.trans hq)
  obtain ⟨level', hlevel', hleast'⟩ := percentile_isLeast h hq
  have hle : level ≤ level' := by
    apply hleast.2
    obtain ⟨hmem, hreached⟩ := hleast'.1
    have hpos : (0 : ℚ) < totalSamples result := by exact_mod_cast h.sampled
    refine ⟨hmem, le_trans ?_ hreached⟩
    gcongr
  rw [ha] at hlevel
  rw [hb] at hlevel'
  cases hlevel
  cases hlevel'
  exact_mod_cast hle

/-- **Percentiles of a histogram.** Each is the smallest level whose cumulative count reaches its
    share of the samples; a permutation of the bins leaves it; it grows with the share, so that the
    floor, the median and the 95th percentile are in this order. -/
theorem percentile_quantile (h : Histogram result) :
    (∀ p : ℚ, 0 ≤ p → p ≤ 100 → ∃ level : Int,
      percentile exact result p = .ok (some (level : ℚ)) ∧
        IsLeast (reachingLevels result p) level) ∧
    (∀ other : SpectralScanResult T, other.levelsDbm.length = other.counts.length →
      (other.levelsDbm.zip other.counts).Perm (result.levelsDbm.zip result.counts) →
      ∀ p : ℚ, 0 ≤ p → p ≤ 100 → percentile exact other p = percentile exact result p) ∧
    (∀ p q : ℚ, 0 ≤ p → p ≤ q → q ≤ 100 → ∀ a b : ℚ,
      percentile exact result p = .ok (some a) → percentile exact result q = .ok (some b) →
        a ≤ b) ∧
    ∃ floor median p95 : ℚ, floorDbm exact result = .ok (some floor) ∧
      medianDbm exact result = .ok (some median) ∧
      percentile exact result 95 = .ok (some p95) ∧ floor ≤ median ∧ median ≤ p95 := by
  refine ⟨fun p _ hp => percentile_isLeast h hp, ?_, ?_, ?_⟩
  · intro other hlength hperm p _ hp
    exact percentile_congr h hlength hperm hp
  · intro p q _ hpq hq a b ha hb
    exact percentile_mono h hpq hq ha hb
  · obtain ⟨floor, hfloor, -⟩ := percentile_isLeast (p := 10) h (by norm_num)
    obtain ⟨median, hmedian, -⟩ := percentile_isLeast (p := 50) h (by norm_num)
    obtain ⟨p95, hp95, -⟩ := percentile_isLeast (p := 95) h (by norm_num)
    exact ⟨floor, median, p95, hfloor, hmedian, hp95,
      percentile_mono h (by norm_num) (by norm_num) hfloor hmedian,
      percentile_mono h (by norm_num) (by norm_num) hmedian hp95⟩

end

/-- Levels from the highest down, one of them twice. -/
def descending : SpectralScanResult Unit := ⟨[-80, -90, -90, -100], [1, 5, 0, 4], 868000000, 10, ()⟩

theorem percentile_quantile_descending : ∃ floor median p95 : ℚ,
    floorDbm exact descending = .ok (some floor) ∧
    medianDbm exact descending = .ok (some median) ∧
    percentile exact descending 95 = .ok (some p95) ∧ floor ≤ median ∧ median ≤ p95 :=
  (percentile_quantile (show Histogram descending from
    ⟨by decide, by decide, by decide⟩)).2.2.2

end Meshpoint.SpectralScan
