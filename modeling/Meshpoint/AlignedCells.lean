import Mathlib.Algebra.Order.Group.Unbundled.Int
import Mathlib.Data.Int.Bitwise
import Mathlib.Tactic.Linarith
import Mathlib.Tactic.Ring

/-!
# Aligned cells of the integers

The cells `[2 h k, 2 h (k + 1))` of width `2 h` cover the integers; `cellMiddle h` sends a number
to the middle of its cell. The bit masks that clear or keep low bits are the arithmetic of such
cells, also for negative numbers in two's complement.
-/

namespace Meshpoint.AlignedCells

/-! ### The middle of a cell -/

/-- Two numbers in one cell of width `c`. -/
def SameCell (c v w : Int) : Prop := v / c = w / c

instance (c v w : Int) : Decidable (SameCell c v w) := inferInstanceAs (Decidable (_ = _))

/-- The middle of the cell of width `2 * h` that holds `v`. -/
def cellMiddle (h v : Int) : Int := 2 * h * (v / (2 * h)) + h

section

variable {h : Int}

theorem cellMiddle_bounds (hh : 0 < h) (v : Int) :
    cellMiddle h v - h ≤ v ∧ v < cellMiddle h v + h := by
  have hdiv := Int.mul_ediv_add_emod v (2 * h)
  have hlow := Int.emod_nonneg v (show 2 * h ≠ 0 by omega)
  have hup := Int.emod_lt_of_pos v (show 0 < 2 * h by omega)
  constructor <;> simp only [cellMiddle] <;> linarith

theorem abs_cellMiddle_sub_le (hh : 0 < h) (v : Int) : |cellMiddle h v - v| ≤ h := by
  obtain ⟨hlow, hup⟩ := cellMiddle_bounds hh v
  rw [abs_le]
  constructor <;> linarith

theorem sameCell_cellMiddle (hh : 0 < h) (v : Int) : SameCell (2 * h) v (cellMiddle h v) := by
  have hhalf : h / (2 * h) = 0 := Int.ediv_eq_zero_of_lt (by omega) (by omega)
  have hne : 2 * h ≠ 0 := by omega
  rw [SameCell, cellMiddle, Int.add_comm, Int.add_mul_ediv_left h _ hne, hhalf, Int.zero_add]

theorem cellMiddle_congr {v w : Int} (hc : SameCell (2 * h) v w) :
    cellMiddle h v = cellMiddle h w := by
  rw [cellMiddle, cellMiddle, hc]

theorem cellMiddle_cellMiddle (hh : 0 < h) (v : Int) :
    cellMiddle h (cellMiddle h v) = cellMiddle h v :=
  (cellMiddle_congr (sameCell_cellMiddle hh v)).symm

theorem cellMiddle_mono (hh : 0 < h) {v w : Int} (hvw : v ≤ w) :
    cellMiddle h v ≤ cellMiddle h w := by
  have hdiv : v / (2 * h) ≤ w / (2 * h) := Int.ediv_le_ediv (by omega) hvw
  have hmul := Int.mul_le_mul_of_nonneg_left hdiv (show 0 ≤ 2 * h by omega)
  simpa [cellMiddle] using hmul

theorem cellMiddle_add {N : Int} (hN : 2 * h ∣ N) (hh : 0 < h) (v : Int) :
    cellMiddle h (v + N) = cellMiddle h v + N := by
  obtain ⟨m, rfl⟩ := hN
  have hne : 2 * h ≠ 0 := by omega
  rw [cellMiddle, cellMiddle, Int.add_mul_ediv_left v m hne]
  ring

/-- Where a cell ends at `M`, a number and the middle of its cell lie on one side of `M`. -/
theorem cellMiddle_lt_iff {M : Int} (hM : 2 * h ∣ M) (hh : 0 < h) (v : Int) :
    cellMiddle h v < M ↔ v < M := by
  obtain ⟨m, rfl⟩ := hM
  have hquot : v < 2 * h * m ↔ v / (2 * h) < m := by
    rw [Int.ediv_lt_iff_lt_mul (by omega), Int.mul_comm m]
  rw [hquot, cellMiddle]
  constructor
  · intro hlt
    by_contra hge
    have hmul := Int.mul_le_mul_of_nonneg_left (not_lt.mp hge) (show 0 ≤ 2 * h by omega)
    omega
  · intro hlt
    have hmul := Int.mul_le_mul_of_nonneg_left (show v / (2 * h) + 1 ≤ m from hlt)
      (show 0 ≤ 2 * h by omega)
    rw [Int.mul_add] at hmul
    omega

end

/-! ### Masks -/

/-- A mask of the `w` low bits is the remainder by `2 ^ w`, also of a negative number. -/
theorem land_lowMask (v : Int) (w : Nat) : Int.land v (2 ^ w - 1) = v % 2 ^ w := by
  have hmask : (2 ^ w - 1 : Int) = Int.ofNat (2 ^ w - 1) := by
    have hpos := Nat.two_pow_pos w
    simp only [Int.ofNat_eq_natCast, Nat.cast_sub (Nat.one_le_of_lt hpos)]
    push_cast
    rfl
  rw [hmask]
  cases v with
  | ofNat n =>
    show ((n &&& (2 ^ w - 1) : Nat) : Int) = _
    rw [Nat.and_two_pow_sub_one_eq_mod]
    push_cast
    rfl
  | negSucc n =>
    show ((Nat.ldiff (2 ^ w - 1) n : Nat) : Int) = _
    have hlt : n % 2 ^ w < 2 ^ w := Nat.mod_lt _ (Nat.two_pow_pos w)
    have hbits : Nat.ldiff (2 ^ w - 1) n = 2 ^ w - (n % 2 ^ w + 1) := by
      apply Nat.eq_of_testBit_eq
      intro i
      rw [Nat.testBit_ldiff, Nat.testBit_two_pow_sub_one, Nat.testBit_two_pow_sub_succ hlt,
        Nat.testBit_mod_two_pow]
      by_cases hi : i < w <;> simp [hi]
    rw [hbits, Int.negSucc_emod n (by positivity), Nat.cast_sub hlt]
    push_cast
    ring

/-- A mask of the bits from `k` to `w` clears the `k` low bits of a number of `w` bits. -/
theorem land_highMask {u w k : Nat} (hu : u < 2 ^ w) :
    u &&& ((2 ^ w - 1) <<< k &&& (2 ^ w - 1)) = u / 2 ^ k * 2 ^ k := by
  apply Nat.eq_of_testBit_eq
  intro i
  rw [Nat.testBit_and, Nat.testBit_and, Nat.testBit_shiftLeft, Nat.testBit_two_pow_sub_one,
    Nat.testBit_two_pow_sub_one, Nat.testBit_mul_two_pow, Nat.testBit_div_two_pow]
  by_cases hiw : i < w
  · have hshift : i - k < w := by omega
    by_cases hki : k ≤ i
    · simp [hki, hiw, hshift]
    · simp [hki]
  · have hzero : u.testBit i = false :=
      Nat.testBit_lt_two_pow (lt_of_lt_of_le hu (Nat.pow_le_pow_right (by omega) (by omega)))
    by_cases hki : k ≤ i
    · simp [hki, hiw, hzero]
    · simp [hki]

end Meshpoint.AlignedCells
