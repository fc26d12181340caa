import Mathlib.Data.Nat.Size
import Mathlib.Data.ZMod.Basic
import Mathlib.Tactic.IntervalCases
import Meshpoint.ListFacts
import Meshpoint.RadixTwo

/-!
# The spectrum of a capture

`_fft_tables` and `fft` of `src/api/telemetry/capture_ram_spectrum.py`, over the elements of a
ring in place of complex floats. `None` stands for an exception. The invariant of the transform is
`Stage`: after the stage of size `2 ^ s` every block of that size holds a transform of the samples
that share their low bits. `fft_eq_dft` is the whole transform.
-/

namespace Meshpoint.CaptureSpectrum

open RadixTwo

/-- What the module takes from `cmath` and `math`: `cmath.exp(-2j * math.pi * k / n)` and
    `0.5 - 0.5 * math.cos(2 * math.pi * k / (n - 1))`. -/
structure Arithmetic (R : Type) where
  twiddle : Nat → Nat → R
  hann : Nat → Nat → R

structure Tables (R : Type) where
  rev : List Nat
  twiddles : List R
  window : List R

variable {R : Type}

/-- `int(format(i, f"0{bits}b")[::-1], 2)`. -/
def reversedIndex (bits i : Nat) : Nat :=
  Nat.ofDigitChars 2 (List.leftpad bits '0' (Nat.toDigits 2 i)).reverse 0

/-- The tables of `_fft_tables` for a size it has not met before. -/
def computeTables (A : Arithmetic R) (n : Nat) : Option (Tables R) :=
  let bits := Nat.size n - 1
  if 1 <<< bits ≠ n then none
  -- the window of size 1 divides by zero
  else if n = 1 then none
  else some
    { rev := (List.range n).map (reversedIndex bits)
      twiddles := (List.range (n / 2)).map fun k => A.twiddle k n
      window := (List.range n).map fun k => A.hann k n }

/-- `_tables`, which `_fft_tables` alone writes. -/
structure TableCache (A : Arithmetic R) where
  entries : Nat → Option (Tables R)
  computed : ∀ n tables, entries n = some tables → computeTables A n = some tables

def TableCache.empty (A : Arithmetic R) : TableCache A where
  entries := fun _ => none
  computed := fun _ _ h => nomatch h

def TableCache.insert {A : Arithmetic R} (cache : TableCache A) (n : Nat) (tables : Tables R)
    (h : computeTables A n = some tables) : TableCache A where
  entries := Function.update cache.entries n (some tables)
  computed := by
    intro k found hfound
    by_cases hk : k = n
    · subst hk
      rw [Function.update_self] at hfound
      exact hfound ▸ h
    · rw [Function.update_of_ne hk] at hfound
      exact cache.computed k found hfound

/-- `_fft_tables`. -/
def fftTables {A : Arithmetic R} (cache : TableCache A) (n : Nat) :
    Option (Tables R × TableCache A) :=
  match cache.entries n with
  | some cached => some (cached, cache)
  | none =>
    match h : computeTables A n with
    | none => none
    | some tables => some (tables, cache.insert n tables h)

/-- `range(0, stop, step)` for a positive step. -/
def rangeStep (stop step : Nat) : List Nat :=
  (List.range ((stop + step - 1) / step)).map (· * step)

section

variable [CommRing R]

/-- The body of the loop over `k`. -/
def butterfly (twiddles : List R) (half step start : Nat) (a : List R) (k : Nat) :
    Option (List R) := do
  let t := (← twiddles[k * step]?) * (← a[start + k + half]?)
  let u ← a[start + k]?
  pure ((a.set (start + k) (u + t)).set (start + k + half) (u - t))

/-- The body of the loop over `size`. -/
def stage (twiddles : List R) (n size : Nat) (a : List R) : Option (List R) :=
  let half := size / 2
  let step := n / size
  (rangeStep n size).foldlM
    (fun a start => (List.range half).foldlM (butterfly twiddles half step start) a) a

/-- `while size <= n`; the size is a power of two from 2 on. -/
def stages (twiddles : List R) (n size : Nat) (a : List R) : Option (List R) :=
  if h : 0 < size ∧ size ≤ n then
    (stage twiddles n size a).bind (stages twiddles n (size * 2))
  else some a
termination_by n + 1 - size

def fft {A : Arithmetic R} (cache : TableCache A) (samples : List R) :
    Option (List R × TableCache A) := do
  let n := samples.length
  let (tables, cache) ← fftTables cache n
  let a ← tables.rev.mapM (samples[·]?)
  let a ← stages tables.twiddles n 2 a
  pure (a, cache)

end

/-! ### The tables -/

theorem leftpad_append_singleton {α : Type} (l : Nat) (z c : α) (ds : List α) :
    List.leftpad (l + 1) z (ds ++ [c]) = List.leftpad l z ds ++ [c] := by
  simp [List.leftpad]

theorem reverse_text_succ (l i : Nat) :
    (List.leftpad (l + 2) '0' (Nat.toDigits 2 i)).reverse =
      (i % 2).digitChar :: (List.leftpad (l + 1) '0' (Nat.toDigits 2 (i / 2))).reverse := by
  by_cases hi : i < 2
  · have hrest : i / 2 = 0 := by omega
    rw [hrest, Nat.toDigits_of_lt_base hi, Nat.mod_eq_of_lt hi, Nat.toDigits_zero]
    simp [List.leftpad, List.replicate_succ, ← List.replicate_succ']
  · rw [Nat.toDigits_of_base_le (by decide) (by omega), leftpad_append_singleton,
      List.reverse_append]
    rfl

theorem length_text {l i : Nat} (hi : i < 2 ^ (l + 1)) :
    (List.leftpad (l + 1) '0' (Nat.toDigits 2 i)).length = l + 1 := by
  have hle := (Nat.length_toDigits_le_iff (n := i) (show 1 < 2 by decide) (Nat.succ_pos l)).mpr hi
  simp only [List.leftpad, List.length_append, List.length_replicate]
  omega

theorem ofDigitChars_two_init (ds : List Char) (init : Nat) :
    Nat.ofDigitChars 2 ds init = init * 2 ^ ds.length + Nat.ofDigitChars 2 ds 0 := by
  induction ds generalizing init with
  | nil => simp
  | cons c ds ih =>
    rw [Nat.ofDigitChars_cons, Nat.ofDigitChars_cons, ih, ih (2 * 0 + _), List.length_cons]
    ring

theorem reversedIndex_eq {l i : Nat} (hi : i < 2 ^ (l + 1)) :
    reversedIndex (l + 1) i = bitReverse (l + 1) i := by
  induction l generalizing i with
  | zero =>
    have hlt : i < 2 := hi
    interval_cases i <;> decide
  | succ l ih =>
    have hrest : i / 2 < 2 ^ (l + 1) := by
      rw [Nat.div_lt_iff_lt_mul (by decide), ← pow_succ]
      exact hi
    have hbit : i % 2 < 10 := by omega
    have hread := ih hrest
    rw [reversedIndex] at hread
    rw [reversedIndex, reverse_text_succ, Nat.ofDigitChars_cons_digitChar_of_lt_ten hbit,
      ofDigitChars_two_init, List.length_reverse, length_text hrest, hread, Nat.mul_zero,
      Nat.zero_add]
    rfl

theorem computeTables_two_pow (A : Arithmetic R) (l : Nat) :
    computeTables A (2 ^ (l + 1)) = some
      { rev := (List.range (2 ^ (l + 1))).map (bitReverse (l + 1))
        twiddles := (List.range (2 ^ l)).map fun k => A.twiddle k (2 ^ (l + 1))
        window := (List.range (2 ^ (l + 1))).map fun k => A.hann k (2 ^ (l + 1)) } := by
  have hbits : Nat.size (2 ^ (l + 1)) - 1 = l + 1 := by rw [Nat.size_pow]; rfl
  have hhalf : 2 ^ (l + 1) / 2 = 2 ^ l := by rw [pow_succ]; omega
  have hone : 2 ^ (l + 1) ≠ 1 := by
    have hpos := Nat.two_pow_pos l
    rw [pow_succ]
    omega
  have hrev : (List.range (2 ^ (l + 1))).map (reversedIndex (l + 1)) =
      (List.range (2 ^ (l + 1))).map (bitReverse (l + 1)) :=
    List.map_congr_left fun i hi => reversedIndex_eq (List.mem_range.mp hi)
  simp only [computeTables, hbits, Nat.one_shiftLeft, hhalf, hrev]
  rw [if_neg (by simp), if_neg hone]

theorem fftTables_eq {A : Arithmetic R} (cache : TableCache A) {n : Nat} {tables : Tables R}
    (h : computeTables A n = some tables) : ∃ cache', fftTables cache n = some (tables, cache') := by
  unfold fftTables
  split
  · rename_i cached hcached
    cases (cache.computed n cached hcached).symm.trans h
    exact ⟨cache, rfl⟩
  · split
    · rename_i hnone
      cases hnone.symm.trans h
    · rename_i found hfound
      cases hfound.symm.trans h
      exact ⟨_, rfl⟩

/-! ### The stages -/

section

variable [CommRing R]

/-- After the stage of size `2 ^ s`: block `c` of that size is the transform of the samples whose
    `q` low bits are those of `c` in reverse. -/
structure Stage (w : R) (x : Nat → R) (q s : Nat) (a : List R) : Prop where
  length_eq : a.length = 2 ^ (q + s)
  block : ∀ c < 2 ^ q, ∀ j < 2 ^ s, a[c * 2 ^ s + j]? = some (blockSum w x q s c j)

theorem butterfly_eq {twiddles : List R} {half step start k : Nat} {tw : R}
    (htw : twiddles[k * step]? = some tw) (a : List R) :
    butterfly twiddles half step start a k =
      updatePair (start + k) (start + k + half) (fun u y => (u + tw * y, u - tw * y)) a := by
  simp [butterfly, updatePair, htw]

/-- The places of butterfly `k` of block `c`, the pair `(c, k)`. -/
def butterflyPlaces (s : Nat) : Places (Nat × Nat) where
  first := fun p => p.1 * 2 ^ (s + 1) + p.2
  second := fun p => p.1 * 2 ^ (s + 1) + p.2 + 2 ^ s

def butterflies (q s : Nat) : List (Nat × Nat) :=
  (List.range (2 ^ q)).flatMap fun c => (List.range (2 ^ s)).map fun k => (c, k)

@[simp] theorem mem_butterflies {q s : Nat} {p : Nat × Nat} :
    p ∈ butterflies q s ↔ p.1 < 2 ^ q ∧ p.2 < 2 ^ s := by
  rcases p with ⟨c, k⟩
  simp [butterflies]

theorem block_lt {c c' r size : Nat} (hc : c < c') (hr : r < size) (r' : Nat) :
    c * size + r < c' * size + r' := by
  have hmul := Nat.mul_le_mul_right size (show c + 1 ≤ c' from hc)
  rw [Nat.add_mul, Nat.one_mul] at hmul
  omega

theorem pairwise_butterflies (q s : Nat) :
    (butterflies q s).Pairwise (butterflyPlaces s).Apart := by
  have hsize : 2 ^ (s + 1) = 2 ^ s + 2 ^ s := by ring
  rw [butterflies, List.pairwise_flatMap]
  constructor
  · intro c _
    rw [List.pairwise_map]
    refine List.pairwise_lt_range.imp_of_mem ?_
    intro k k' hk hk' hlt
    have h := List.mem_range.mp hk
    have h' := List.mem_range.mp hk'
    simp only [Places.Apart, butterflyPlaces]
    omega
  · refine List.pairwise_lt_range.imp ?_
    intro c c' hlt p hp p' hp'
    obtain ⟨k, hk, rfl⟩ := List.mem_map.mp hp
    obtain ⟨k', hk', rfl⟩ := List.mem_map.mp hp'
    have h := List.mem_range.mp hk
    have hlow := block_lt hlt (show k < 2 ^ (s + 1) by omega)
    have hhigh := block_lt hlt (show k + 2 ^ s < 2 ^ (s + 1) by omega)
    have h1 := hlow k'
    have h2 := hlow (k' + 2 ^ s)
    have h3 := hhigh k'
    have h4 := hhigh (k' + 2 ^ s)
    simp only [Places.Apart, butterflyPlaces]
    omega

theorem rangeStep_two_pow (q s : Nat) :
    rangeStep (2 ^ (q + 1 + s)) (2 ^ (s + 1)) = (List.range (2 ^ q)).map (· * 2 ^ (s + 1)) := by
  have hpos := Nat.two_pow_pos (s + 1)
  have hblocks : (2 ^ (q + 1 + s) + 2 ^ (s + 1) - 1) / 2 ^ (s + 1) = 2 ^ q := by
    have hsplit : 2 ^ (q + 1 + s) + 2 ^ (s + 1) - 1 = (2 ^ (s + 1) - 1) + 2 ^ q * 2 ^ (s + 1) := by
      have hexp : 2 ^ (q + 1 + s) = 2 ^ q * 2 ^ (s + 1) := by ring
      omega
    rw [hsplit, Nat.add_mul_div_right _ _ hpos, Nat.div_eq_of_lt (by omega), Nat.zero_add]
  rw [rangeStep, hblocks]

theorem stage_eq {w : R} {q s : Nat} {twiddles : List R}
    (htw : ∀ k < 2 ^ (q + s), twiddles[k]? = some (w ^ k)) (a : List R) :
    stage twiddles (2 ^ (q + 1 + s)) (2 ^ (s + 1)) a =
      (butterflies q s).foldlM (fun a p =>
        updatePair ((butterflyPlaces s).first p) ((butterflyPlaces s).second p)
          (fun u y => (u + w ^ (p.2 * 2 ^ q) * y, u - w ^ (p.2 * 2 ^ q) * y)) a) a := by
  have hhalf : 2 ^ (s + 1) / 2 = 2 ^ s := by rw [pow_succ]; omega
  have hstep : 2 ^ (q + 1 + s) / 2 ^ (s + 1) = 2 ^ q := by
    rw [Nat.pow_div (by omega) (by decide)]
    congr 1
    omega
  simp only [stage, hhalf, hstep, rangeStep_two_pow]
  rw [butterflies, ListFacts.foldlM_flatMap, List.foldlM_map]
  apply ListFacts.foldlM_congr_mem
  intro b c _
  rw [List.foldlM_map]
  apply ListFacts.foldlM_congr_mem
  intro b k hk
  have hk' : k * 2 ^ q < 2 ^ (q + s) := by
    rw [pow_add, Nat.mul_comm]
    exact Nat.mul_lt_mul_of_pos_left (List.mem_range.mp hk) (Nat.two_pow_pos q)
  rw [butterfly_eq (htw _ hk')]
  rfl

theorem stage_step {w : R} {x : Nat → R} {q s : Nat} {twiddles a : List R}
    (hw : w ^ 2 ^ (q + s) = -1) (htw : ∀ k < 2 ^ (q + s), twiddles[k]? = some (w ^ k))
    (ha : Stage w x (q + 1) s a) :
    ∃ b, stage twiddles (2 ^ (q + 1 + s)) (2 ^ (s + 1)) a = some b ∧ Stage w x q (s + 1) b := by
  have hsize : 2 ^ (s + 1) = 2 ^ s + 2 ^ s := by ring
  have hblocks : 2 ^ (q + 1) = 2 ^ q + 2 ^ q := by ring
  have hlength : a.length = 2 ^ q * 2 ^ (s + 1) := by
    rw [ha.length_eq]
    ring
  have hin : ∀ p ∈ butterflies q s, (butterflyPlaces s).first p < a.length ∧
      (butterflyPlaces s).second p < a.length := by
    intro p hp
    obtain ⟨hc, hk⟩ := mem_butterflies.mp hp
    have hblock := block_lt hc (show p.2 + 2 ^ s < 2 ^ (s + 1) by omega) 0
    rw [hlength]
    simp only [butterflyPlaces]
    omega
  have hne : ∀ p ∈ butterflies q s,
      (butterflyPlaces s).first p ≠ (butterflyPlaces s).second p := by
    intro p _
    have hpos := Nat.two_pow_pos s
    simp only [butterflyPlaces]
    omega
  obtain ⟨b, hrun, hb, hchanged, -⟩ := foldlM_updatePair (butterflyPlaces s)
    (fun p u y => (u + w ^ (p.2 * 2 ^ q) * y, u - w ^ (p.2 * 2 ^ q) * y)) hin hne
    (pairwise_butterflies q s)
  refine ⟨b, (stage_eq htw a).trans hrun, ?_, ?_⟩
  · rw [hb, ha.length_eq]
    congr 1
    omega
  · intro c hc j hj
    -- the butterfly that writes this place, and the two places it has read
    have hvalues : ∀ k < 2 ^ s,
        b[c * 2 ^ (s + 1) + k]? = some (blockSum w x (q + 1) s (2 * c) k +
          w ^ (k * 2 ^ q) * blockSum w x (q + 1) s (2 * c + 1) k) ∧
        b[c * 2 ^ (s + 1) + k + 2 ^ s]? = some (blockSum w x (q + 1) s (2 * c) k -
          w ^ (k * 2 ^ q) * blockSum w x (q + 1) s (2 * c + 1) k) := by
      intro k hk
      have heven := ha.block (2 * c) (by omega) k hk
      have hodd := ha.block (2 * c + 1) (by omega) k hk
      rw [show 2 * c * 2 ^ s + k = c * 2 ^ (s + 1) + k by ring] at heven
      rw [show (2 * c + 1) * 2 ^ s + k = c * 2 ^ (s + 1) + k + 2 ^ s by ring] at hodd
      exact hchanged (c, k) (mem_butterflies.mpr ⟨hc, hk⟩) _ _ heven hodd
    by_cases hlow : j < 2 ^ s
    · rw [blockSum_low]
      exact (hvalues j hlow).1
    · obtain ⟨k, rfl⟩ := Nat.exists_eq_add_of_le (not_lt.mp hlow)
      have hk : k < 2 ^ s := by omega
      rw [blockSum_high hw, show c * 2 ^ (s + 1) + (2 ^ s + k) = c * 2 ^ (s + 1) + k + 2 ^ s by
        ring]
      exact (hvalues k hk).2

/-- From the samples in bit-reversed order, or from any stage, the loop ends with the last one. -/
theorem stages_run {w : R} {x : Nat → R} {twiddles : List R} {l : Nat} (hw : w ^ 2 ^ l = -1)
    (htw : ∀ k < 2 ^ l, twiddles[k]? = some (w ^ k)) {q s : Nat} {a : List R}
    (hqs : q + s = l + 1) (ha : Stage w x q s a) :
    ∃ b, stages twiddles (2 ^ (l + 1)) (2 ^ (s + 1)) a = some b ∧ Stage w x 0 (l + 1) b := by
  induction q generalizing s a with
  | zero =>
    have hs : s = l + 1 := by omega
    subst hs
    refine ⟨a, ?_, ha⟩
    have hover : ¬ (0 < 2 ^ (l + 1 + 1) ∧ 2 ^ (l + 1 + 1) ≤ 2 ^ (l + 1)) := by
      have hpos := Nat.two_pow_pos (l + 1)
      rw [pow_succ 2 (l + 1)]
      omega
    rw [stages, dif_neg hover]
  | succ q ih =>
    have hl : l = q + s := by omega
    subst hl
    obtain ⟨b, hstage, hb⟩ := stage_step hw htw ha
    obtain ⟨d, hrest, hd⟩ := ih (by omega) hb
    refine ⟨d, ?_, hd⟩
    have hwithin : 0 < 2 ^ (s + 1) ∧ 2 ^ (s + 1) ≤ 2 ^ (q + s + 1) :=
      ⟨Nat.two_pow_pos _, Nat.pow_le_pow_right (by decide) (by omega)⟩
    have hn : 2 ^ (q + 1 + s) = 2 ^ (q + s + 1) := by ring
    rw [hn] at hstage
    rw [stages, dif_pos hwithin, hstage, Option.bind_some, ← pow_succ]
    exact hrest

/-! ### The transform -/

theorem stage_reversed {w : R} {samples : List R} {l : Nat} (hlen : samples.length = 2 ^ l) :
    ∃ a, ((List.range (2 ^ l)).map (bitReverse l)).mapM (samples[·]?) = some a ∧
      Stage w (fun i => samples.getD i 0) l 0 a := by
  have hread : ∀ c, samples[bitReverse l c]? = some (samples.getD (bitReverse l c) 0) := by
    intro c
    have hlt : bitReverse l c < samples.length := by
      rw [hlen]
      exact bitReverse_lt l c
    rw [List.getD_eq_getElem?_getD, List.getElem?_eq_getElem hlt, Option.getD_some]
  refine ⟨(List.range (2 ^ l)).map fun c => samples.getD (bitReverse l c) 0, ?_, ?_, ?_⟩
  · rw [ListFacts.mapM_eq_some_iff, List.map_map, List.map_map]
    exact List.map_congr_left fun c _ => hread c
  · simp
  · intro c hc j hj
    have hj' : j = 0 := by
      rw [pow_zero] at hj
      omega
    subst hj'
    rw [blockSum_zero]
    simp [hc]

/-- The transform of a power of two samples, whatever tables are cached. -/
theorem fft_eq_dft {A : Arithmetic R} (cache : TableCache A) {m : Nat} (hm : 1 ≤ m) {w : R}
    (hw : w ^ (2 ^ m / 2) = -1) (htwiddle : ∀ k < 2 ^ m / 2, A.twiddle k (2 ^ m) = w ^ k)
    {samples : List R} (hlen : samples.length = 2 ^ m) :
    ∃ cache', fft cache samples = some (dft w samples, cache') := by
  obtain ⟨l, rfl⟩ := Nat.exists_eq_add_of_le' hm
  have hhalf : 2 ^ (l + 1) / 2 = 2 ^ l := by rw [pow_succ]; omega
  rw [hhalf] at hw htwiddle
  obtain ⟨cache', htables⟩ := fftTables_eq cache (computeTables_two_pow A l)
  obtain ⟨a, hreversed, ha⟩ := stage_reversed (w := w) hlen
  have htw : ∀ k < 2 ^ l,
      ((List.range (2 ^ l)).map fun k => A.twiddle k (2 ^ (l + 1)))[k]? = some (w ^ k) := by
    intro k hk
    simp [hk, htwiddle k hk]
  obtain ⟨b, hrun, hb⟩ := stages_run hw htw (Nat.add_zero _) ha
  have hdft : b = dft w samples := by
    apply List.ext_getElem?
    intro j
    have hblen : b.length = 2 ^ (l + 1) := by
      rw [hb.length_eq, Nat.zero_add]
    by_cases hj : j < 2 ^ (l + 1)
    · have hblock := hb.block 0 (by decide) j hj
      rw [Nat.zero_mul, Nat.zero_add, blockSum_full] at hblock
      rw [hblock, dft, hlen]
      simp [hj]
    · rw [List.getElem?_eq_none (by omega), List.getElem?_eq_none (by simp [dft]; omega)]
  refine ⟨cache', ?_⟩
  have hrun' : stages _ (2 ^ (l + 1)) 2 a = some b := hrun
  simp only [fft, hlen, htables, Option.bind_eq_bind, Option.bind_some, hreversed, hrun']
  rw [hdft]
  rfl

/-- Four samples modulo 5, where 2 is a primitive fourth root of unity. -/
theorem fft_eq_dft_mod_five :
    ∃ cache', fft (TableCache.empty
        { twiddle := fun k _ => (2 : ZMod 5) ^ k, hann := fun _ _ => (1 : ZMod 5) }) [1, 2, 3, 4] =
      some ([0, 4, 3, 2], cache') :=
  have hdft : dft (2 : ZMod 5) [1, 2, 3, 4] = [0, 4, 3, 2] := by decide
  hdft ▸ fft_eq_dft (m := 2) _ (by decide) (w := 2) (by decide) (fun _ _ => rfl) rfl

end

end Meshpoint.CaptureSpectrum
