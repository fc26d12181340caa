import Mathlib.Logic.Basic

/-!
# Computations that may raise

A computation that may raise is an `Except`.  `Returns` says that it does not, with a lemma
for each way two of them are put together.  `drain` is a loop over items whose exception
handler stands outside the loop: the first item that raises ends it, and `drain_eq_length_iff`
says when it takes them all.
-/

universe u v

namespace Raising

/-- Exceptions of the Python runtime. -/
inductive PyException where
  | typeError
  | valueError
  | attributeError
  | overflowError
  | structError
  | other
deriving DecidableEq, Repr

variable {ε : Type u} {α β : Type v}

def Returns (x : Except ε α) : Prop := ∃ a, x = .ok a

@[simp] theorem returns_ok (a : α) : Returns (.ok a : Except ε α) := ⟨a, rfl⟩

@[simp] theorem not_returns_error (e : ε) : ¬ Returns (.error e : Except ε α) := by
  rintro ⟨a, h⟩
  cases h

theorem bind_eq_ok_iff {x : Except ε α} {f : α → Except ε β} {b : β} :
    x >>= f = .ok b ↔ ∃ a, x = .ok a ∧ f a = .ok b := by
  cases x with
  | error e =>
    constructor
    · intro h
      cases h
    · rintro ⟨a, h, -⟩
      cases h
  | ok a =>
    constructor
    · intro h
      exact ⟨a, rfl, h⟩
    · rintro ⟨a', h, hb⟩
      cases h
      exact hb

theorem returns_bind_iff {x : Except ε α} {f : α → Except ε β} :
    Returns (x >>= f) ↔ ∃ a, x = .ok a ∧ Returns (f a) := by
  constructor
  · rintro ⟨b, h⟩
    obtain ⟨a, ha, hb⟩ := bind_eq_ok_iff.mp h
    exact ⟨a, ha, b, hb⟩
  · rintro ⟨a, ha, b, hb⟩
    exact ⟨b, bind_eq_ok_iff.mpr ⟨a, ha, hb⟩⟩

theorem returns_bind_iff_and {x : Except ε α} {f : α → Except ε β} {P : Prop}
    (hf : ∀ a, Returns (f a) ↔ P) : Returns (x >>= f) ↔ Returns x ∧ P := by
  rw [returns_bind_iff]
  constructor
  · rintro ⟨a, rfl, h⟩
    exact ⟨returns_ok a, (hf a).mp h⟩
  · rintro ⟨⟨a, rfl⟩, h⟩
    exact ⟨a, rfl, (hf a).mpr h⟩

theorem returns_map_iff {x : Except ε α} {f : α → β} : Returns (f <$> x) ↔ Returns x := by
  cases x with
  | error e =>
    constructor
    · rintro ⟨b, h⟩
      cases h
    · rintro ⟨a, h⟩
      cases h
  | ok a =>
    constructor
    · intro _
      exact ⟨a, rfl⟩
    · intro _
      exact ⟨f a, rfl⟩

theorem returns_ite_error {c : Prop} [Decidable c] {e : ε} {x : Except ε α} :
    Returns (if c then .error e else x) ↔ ¬ c ∧ Returns x := by
  split
  · rename_i h
    constructor
    · intro hreturns
      exact absurd hreturns (not_returns_error e)
    · rintro ⟨hnot, -⟩
      exact absurd h hnot
  · rename_i h
    constructor
    · intro hreturns
      exact ⟨h, hreturns⟩
    · rintro ⟨-, hreturns⟩
      exact hreturns

theorem returns_mapM_iff {ι : Type v} {f : ι → Except ε α} {l : List ι} :
    Returns (l.mapM f) ↔ ∀ i ∈ l, Returns (f i) := by
  induction l with
  | nil => exact iff_of_true ⟨[], rfl⟩ (fun i hi => nomatch hi)
  | cons i rest ih =>
    rw [List.mapM_cons, returns_bind_iff_and (P := ∀ j ∈ rest, Returns (f j)),
      List.forall_mem_cons]
    intro a
    rw [returns_bind_iff_and (P := True), and_iff_left trivial, ih]
    intro as
    exact iff_of_true (returns_ok (a :: as)) trivial

theorem mem_of_mapM_eq_ok {ι : Type v} {f : ι → Except ε α} {l : List ι} {as : List α}
    (h : l.mapM f = .ok as) {a : α} (ha : a ∈ as) : ∃ i ∈ l, f i = .ok a := by
  induction l generalizing as with
  | nil =>
    cases h
    cases ha
  | cons i rest ih =>
    rw [List.mapM_cons] at h
    obtain ⟨first, hfirst, h⟩ := bind_eq_ok_iff.mp h
    obtain ⟨later, hlater, h⟩ := bind_eq_ok_iff.mp h
    cases h
    rcases List.mem_cons.mp ha with rfl | hmem
    · exact ⟨i, List.mem_cons_self, hfirst⟩
    · obtain ⟨j, hj, hja⟩ := ih hlater hmem
      exact ⟨j, List.mem_cons_of_mem i hj, hja⟩

/-! ### Loops with the handler outside -/

section Loop

variable {σ ι : Type*}

/-- `try: for item in items: state = step(state, item)`: the last state and the number of
    items taken. -/
def drain (step : σ → ι → Except ε σ) (s : σ) : List ι → σ × Nat
  | [] => (s, 0)
  | i :: rest =>
    match step s i with
    | .error _ => (s, 0)
    | .ok s' => ((drain step s' rest).1, (drain step s' rest).2 + 1)

theorem drain_concat (step : σ → ι → Except ε σ) (s : σ) (items : List ι) (i : ι) :
    (drain step s (items ++ [i])).1 = (drain step s items).1 ∨
      step (drain step s items).1 i = .ok (drain step s (items ++ [i])).1 := by
  induction items generalizing s with
  | nil =>
    simp only [List.nil_append, drain]
    cases hi : step s i with
    | error e => exact .inl rfl
    | ok s' => exact .inr rfl
  | cons j rest ih =>
    simp only [List.cons_append, drain]
    cases hj : step s j with
    | error e => exact .inl rfl
    | ok s' => exact ih s'

/-- A loop that has taken all of its items goes on with those that follow. -/
theorem drain_append {step : σ → ι → Except ε σ} {s s' : σ} {items : List ι}
    (h : drain step s items = (s', items.length)) (more : List ι) :
    drain step s (items ++ more) =
      ((drain step s' more).1, items.length + (drain step s' more).2) := by
  induction items generalizing s with
  | nil =>
    cases h
    simp
  | cons i rest ih =>
    simp only [List.cons_append, drain] at h ⊢
    cases hi : step s i with
    | error e => simp [hi] at h
    | ok t =>
      simp only [hi, Prod.mk.injEq, List.length_cons, Nat.add_right_cancel_iff] at h ⊢
      rw [ih (Prod.ext h.1 h.2)]
      refine ⟨rfl, ?_⟩
      exact Nat.add_right_comm rest.length _ 1

/-- Every item meets `guard` in the state it is taken in. -/
def Meets (step : σ → ι → Except ε σ) (guard : σ → ι → Prop) (s : σ) : List ι → Prop
  | [] => True
  | i :: rest => guard s i ∧ ∀ s', step s i = .ok s' → Meets step guard s' rest

/-- **The loop rule.**  Where a step returns exactly under its guard, the loop takes all items
    exactly when each meets the guard. -/
theorem drain_eq_length_iff {step : σ → ι → Except ε σ} {guard : σ → ι → Prop}
    (hstep : ∀ s i, Returns (step s i) ↔ guard s i) (s : σ) (items : List ι) :
    (drain step s items).2 = items.length ↔ Meets step guard s items := by
  induction items generalizing s with
  | nil => exact iff_of_true rfl trivial
  | cons i rest ih =>
    rw [drain, Meets, ← hstep]
    cases hi : step s i with
    | error e =>
      constructor
      · intro h
        cases h
      · rintro ⟨hreturns, -⟩
        exact absurd hreturns (not_returns_error e)
    | ok s' =>
      constructor
      · intro h
        refine ⟨returns_ok s', ?_⟩
        intro t ht
        cases ht
        exact (ih s').mp (Nat.succ.inj h)
      · rintro ⟨-, hrest⟩
        exact congrArg Nat.succ ((ih s').mpr (hrest s' rfl))

end Loop

end Raising
