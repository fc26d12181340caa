import Mathlib.Algebra.BigOperators.Group.Finset.Basic
import Mathlib.Algebra.BigOperators.Ring.Finset
import Mathlib.Algebra.Ring.Basic
import Mathlib.Tactic.Linarith
import Mathlib.Tactic.Ring

/-!
# The radix-2 transform

The discrete Fourier transform of a sequence over a commutative ring, the transforms of the
subsequences that take every `2 ^ q`-th element (`blockSum`), and how two of them make one of
twice the length (`blockSum_low`, `blockSum_high`). The subsequences are numbered by their first
elements with the bits reversed, so that the two halves of a block are neighbours.

`updatePair` changes two places of a list by their old values; a run of such updates at disjoint
places changes each of them as if it were the only one (`foldlM_updatePair`).
-/

universe u v

namespace RadixTwo

/-! ### Reversed bits -/

/-- The number with the `l` low bits of `n` in reverse order. -/
def bitReverse : Nat → Nat → Nat
  | 0, _ => 0
  | l + 1, n => n % 2 * 2 ^ l + bitReverse l (n / 2)

theorem bitReverse_lt (l n : Nat) : bitReverse l n < 2 ^ l := by
  induction l generalizing n with
  | zero => simp [bitReverse]
  | succ l ih =>
    have hrest := ih (n / 2)
    have hbit : n % 2 = 0 ∨ n % 2 = 1 := by omega
    rw [bitReverse, pow_succ]
    rcases hbit with h | h <;> simp only [h] <;> omega

@[simp] theorem bitReverse_double (l n : Nat) : bitReverse (l + 1) (2 * n) = bitReverse l n := by
  have hbit : 2 * n % 2 = 0 := by omega
  have hrest : 2 * n / 2 = n := by omega
  rw [bitReverse, hbit, hrest]
  simp

@[simp] theorem bitReverse_double_succ (l n : Nat) :
    bitReverse (l + 1) (2 * n + 1) = 2 ^ l + bitReverse l n := by
  have hbit : (2 * n + 1) % 2 = 1 := by omega
  have hrest : (2 * n + 1) / 2 = n := by omega
  rw [bitReverse, hbit, hrest]
  simp

/-! ### Transforms -/

section

variable {R : Type u} [CommRing R]

def dft (w : R) (x : List R) : List R :=
  (List.range x.length).map fun k => ∑ j ∈ Finset.range x.length, x.getD j 0 * w ^ (j * k)

/-- Value `j` of the transform of length `2 ^ s` of the elements of `x` with the index
    `bitReverse q c` modulo `2 ^ q`. -/
def blockSum (w : R) (x : Nat → R) (q s c j : Nat) : R :=
  ∑ t ∈ Finset.range (2 ^ s), w ^ (2 ^ q * (j * t)) * x (2 ^ q * t + bitReverse q c)

theorem sum_range_double (f : Nat → R) (n : Nat) :
    ∑ t ∈ Finset.range (2 * n), f t =
      ∑ u ∈ Finset.range n, f (2 * u) + ∑ u ∈ Finset.range n, f (2 * u + 1) := by
  induction n with
  | zero => simp
  | succ n ih =>
    rw [Nat.mul_succ, Finset.sum_range_succ, Finset.sum_range_succ, ih, Finset.sum_range_succ,
      Finset.sum_range_succ]
    ring

variable (w : R) (x : Nat → R)

theorem blockSum_zero (q c : Nat) : blockSum w x q 0 c 0 = x (bitReverse q c) := by
  simp [blockSum]

theorem blockSum_full (s j : Nat) :
    blockSum w x 0 s 0 j = ∑ t ∈ Finset.range (2 ^ s), x t * w ^ (t * j) := by
  unfold blockSum
  apply Finset.sum_congr rfl
  intro t _
  simp only [pow_zero, Nat.one_mul, bitReverse, Nat.add_zero]
  rw [mul_comm, Nat.mul_comm j t]

theorem blockSum_low (q s c j : Nat) :
    blockSum w x q (s + 1) c j =
      blockSum w x (q + 1) s (2 * c) j +
        w ^ (j * 2 ^ q) * blockSum w x (q + 1) s (2 * c + 1) j := by
  simp only [blockSum, bitReverse_double, bitReverse_double_succ]
  rw [pow_succ', sum_range_double, Finset.mul_sum]
  congr 1
  · apply Finset.sum_congr rfl
    intro u _
    have hexp : 2 ^ q * (j * (2 * u)) = 2 ^ (q + 1) * (j * u) := by ring
    have hindex : 2 ^ q * (2 * u) = 2 ^ (q + 1) * u := by ring
    rw [hexp, hindex]
  · apply Finset.sum_congr rfl
    intro u _
    have hexp : 2 ^ q * (j * (2 * u + 1)) = j * 2 ^ q + 2 ^ (q + 1) * (j * u) := by ring
    have hindex : 2 ^ q * (2 * u + 1) + bitReverse q c =
        2 ^ (q + 1) * u + (2 ^ q + bitReverse q c) := by ring
    rw [hexp, hindex, pow_add, mul_assoc]

variable {w} {x}

theorem blockSum_period {q s : Nat} (hw : w ^ 2 ^ (q + s) = 1) (c j : Nat) :
    blockSum w x q s c (2 ^ s + j) = blockSum w x q s c j := by
  unfold blockSum
  apply Finset.sum_congr rfl
  intro t _
  have hexp : 2 ^ q * ((2 ^ s + j) * t) = 2 ^ (q + s) * t + 2 ^ q * (j * t) := by ring
  rw [hexp, pow_add, pow_mul, hw, one_pow, one_mul]

theorem blockSum_high {q s : Nat} (hw : w ^ 2 ^ (q + s) = -1) (c j : Nat) :
    blockSum w x q (s + 1) c (2 ^ s + j) =
      blockSum w x (q + 1) s (2 * c) j -
        w ^ (j * 2 ^ q) * blockSum w x (q + 1) s (2 * c + 1) j := by
  have hone : w ^ 2 ^ (q + 1 + s) = 1 := by
    have hexp : 2 ^ (q + 1 + s) = 2 ^ (q + s) * 2 := by ring
    rw [hexp, pow_mul, hw]
    ring
  have htwiddle : w ^ ((2 ^ s + j) * 2 ^ q) = -w ^ (j * 2 ^ q) := by
    have hexp : (2 ^ s + j) * 2 ^ q = 2 ^ (q + s) + j * 2 ^ q := by ring
    rw [hexp, pow_add, hw]
    ring
  rw [blockSum_low, blockSum_period hone, blockSum_period hone, htwiddle]
  ring

end

/-! ### Updates of two places -/

section

variable {α : Type u} {ι : Type v}

/-- The places `i` and `j` of a list, replaced by a function of both. -/
def updatePair (i j : Nat) (f : α → α → α × α) (a : List α) : Option (List α) := do
  let y ← a[j]?
  let x ← a[i]?
  pure ((a.set i (f x y).1).set j (f x y).2)

theorem updatePair_eq {i j : Nat} {f : α → α → α × α} {a : List α} {x y : α}
    (hx : a[i]? = some x) (hy : a[j]? = some y) :
    updatePair i j f a = some ((a.set i (f x y).1).set j (f x y).2) := by
  simp [updatePair, hx, hy]

/-- The places that the update named `p` reads and writes. -/
structure Places (ι : Type v) where
  first : ι → Nat
  second : ι → Nat

/-- The updates named `p` and `q` share no place. -/
def Places.Apart (at' : Places ι) (p q : ι) : Prop :=
  at'.first p ≠ at'.first q ∧ at'.first p ≠ at'.second q ∧
    at'.second p ≠ at'.first q ∧ at'.second p ≠ at'.second q

/-- Updates at places apart from each other: each changes the places it names by their values
    before the run, and no other place changes. -/
theorem foldlM_updatePair (at' : Places ι) (f : ι → α → α → α × α) {ps : List ι} {a : List α}
    (hin : ∀ p ∈ ps, at'.first p < a.length ∧ at'.second p < a.length)
    (hne : ∀ p ∈ ps, at'.first p ≠ at'.second p) (hapart : ps.Pairwise at'.Apart) :
    ∃ b, ps.foldlM (fun a p => updatePair (at'.first p) (at'.second p) (f p) a) a = some b ∧
      b.length = a.length ∧
      (∀ p ∈ ps, ∀ x y, a[at'.first p]? = some x → a[at'.second p]? = some y →
        b[at'.first p]? = some (f p x y).1 ∧ b[at'.second p]? = some (f p x y).2) ∧
      ∀ i, (∀ p ∈ ps, i ≠ at'.first p ∧ i ≠ at'.second p) → b[i]? = a[i]? := by
  induction ps generalizing a with
  | nil => exact ⟨a, rfl, rfl, fun p hp => absurd hp List.not_mem_nil, fun i _ => rfl⟩
  | cons p ps ih =>
    rw [List.pairwise_cons] at hapart
    obtain ⟨hp, hps⟩ := hapart
    obtain ⟨hfirst, hsecond⟩ := hin p List.mem_cons_self
    have hdiff := hne p List.mem_cons_self
    obtain ⟨x, hx⟩ : ∃ x, a[at'.first p]? = some x := ⟨_, List.getElem?_eq_getElem hfirst⟩
    obtain ⟨y, hy⟩ : ∃ y, a[at'.second p]? = some y := ⟨_, List.getElem?_eq_getElem hsecond⟩
    -- the list after the first update, and what the later ones find in it
    let a' := (a.set (at'.first p) (f p x y).1).set (at'.second p) (f p x y).2
    have hlength : a'.length = a.length := by simp [a']
    have hother : ∀ i, i ≠ at'.first p → i ≠ at'.second p → a'[i]? = a[i]? := by
      intro i hi hj
      rw [List.getElem?_set_ne hj.symm, List.getElem?_set_ne hi.symm]
    obtain ⟨b, hrun, hb, hchanged, hkept⟩ := ih (a := a')
      (fun q hq => by rw [hlength]; exact hin q (List.mem_cons_of_mem p hq))
      (fun q hq => hne q (List.mem_cons_of_mem p hq)) hps
    refine ⟨b, ?_, hb.trans hlength, ?_, ?_⟩
    · rw [List.foldlM_cons, updatePair_eq hx hy]
      exact hrun
    · intro q hq x' y' hx' hy'
      rcases List.mem_cons.mp hq with rfl | hmem
      · cases hx.symm.trans hx'
        cases hy.symm.trans hy'
        have h1 := hkept (at'.first q) fun r hr => ⟨(hp r hr).1, (hp r hr).2.1⟩
        have h2 := hkept (at'.second q) fun r hr => ⟨(hp r hr).2.2.1, (hp r hr).2.2.2⟩
        rw [h1, h2]
        constructor
        · rw [List.getElem?_set_ne hdiff.symm, List.getElem?_set_self hfirst]
        · rw [List.getElem?_set_self (by simpa using hsecond)]
      · obtain ⟨h1, h2, h3, h4⟩ := hp q hmem
        exact hchanged q hmem x' y' ((hother _ h1.symm h3.symm).trans hx')
          ((hother _ h2.symm h4.symm).trans hy')
    · intro i hi
      obtain ⟨hi1, hi2⟩ := hi p List.mem_cons_self
      exact (hkept i fun q hq => hi q (List.mem_cons_of_mem p hq)).trans (hother i hi1 hi2)

end

end RadixTwo
