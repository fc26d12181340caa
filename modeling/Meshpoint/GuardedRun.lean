import Mathlib.Algebra.BigOperators.Group.List.Basic
import Mathlib.Algebra.Order.BigOperators.Group.List
import Mathlib.Algebra.Order.Group.Nat
import Mathlib.Algebra.Ring.Nat
import Mathlib.Data.List.Basic

/-!
# Runs of an executable transition system

A system is an executable step function `step : σ → ε → Option σ`: `none` means
that the event is not enabled.  `Reaches step guard s₀` are the states reached
from `s₀` through enabled events that all meet `guard` in the state they are
taken in; the unguarded runs are those of `Always`.  One induction rule
(`Reaches.invariant`) carries every safety result, and `reaches_of_replay` turns
a replayed event list into a reachable state.

The second half is the accounting of a pool of concurrent tasks: `weight f`
sums a measure over the pool, and `weight_set` says what moving one task to a
new phase does to the sum.
-/

namespace GuardedRun

variable {σ ε : Type*}

/-- States reached from `s₀` through enabled events that all meet `guard`. -/
inductive Reaches (step : σ → ε → Option σ) (guard : σ → ε → Prop) (s₀ : σ) : σ → Prop
  | refl : Reaches step guard s₀ s₀
  | tail {s s' : σ} {e : ε} :
      Reaches step guard s₀ s → guard s e → step s e = some s' → Reaches step guard s₀ s'

def Always (_ : σ) (_ : ε) : Prop := True

/-- **The invariant rule.**  What holds initially and is kept by every guarded
    step holds in every state reached. -/
theorem Reaches.invariant {step : σ → ε → Option σ} {guard : σ → ε → Prop} {s₀ : σ}
    {I : σ → Prop} (hinit : I s₀)
    (hstep : ∀ s e s', I s → guard s e → step s e = some s' → I s')
    {s : σ} (h : Reaches step guard s₀ s) : I s := by
  induction h with
  | refl => exact hinit
  | tail _ hg hs ih => exact hstep _ _ _ ih hg hs

instance (s : σ) (e : ε) : Decidable (Always s e) := inferInstanceAs (Decidable True)

/-- Replay a list of events; `none` when one of them is not enabled or does not
    meet the guard. -/
def replay (step : σ → ε → Option σ) (guard : σ → ε → Prop) [∀ s e, Decidable (guard s e)]
    (s : σ) : List ε → Option σ
  | [] => some s
  | e :: es => if guard s e then (step s e).bind fun s' => replay step guard s' es else none

theorem reaches_of_replay_from {step : σ → ε → Option σ} {guard : σ → ε → Prop}
    [∀ s e, Decidable (guard s e)] {s₀ s : σ} (hs : Reaches step guard s₀ s) :
    ∀ (es : List ε) {s' : σ}, replay step guard s es = some s' → Reaches step guard s₀ s' := by
  intro es
  induction es generalizing s with
  | nil =>
    intro s' h
    cases h
    exact hs
  | cons e es ih =>
    intro s' h
    simp only [replay] at h
    split at h
    · rename_i hg
      obtain ⟨s₁, h₁, h₂⟩ := Option.bind_eq_some_iff.mp h
      exact ih (hs.tail hg h₁) h₂
    · cases h

theorem reaches_of_replay {step : σ → ε → Option σ} {guard : σ → ε → Prop}
    [∀ s e, Decidable (guard s e)] {s₀ s : σ} {es : List ε}
    (h : replay step guard s₀ es = some s) : Reaches step guard s₀ s :=
  reaches_of_replay_from Reaches.refl es h

theorem replay_mono {step : σ → ε → Option σ} {guard guard' : σ → ε → Prop}
    [∀ s e, Decidable (guard s e)] [∀ s e, Decidable (guard' s e)]
    (hweaker : ∀ s e, guard s e → guard' s e) {es : List ε} {s s' : σ}
    (h : replay step guard s es = some s') : replay step guard' s es = some s' := by
  induction es generalizing s with
  | nil => exact h
  | cons e es ih =>
    simp only [replay] at h ⊢
    split at h
    · rename_i hg
      obtain ⟨s₁, h₁, h₂⟩ := Option.bind_eq_some_iff.mp h
      rw [if_pos (hweaker s e hg), h₁]
      exact ih h₂
    · cases h

/-- **The guard of a property.**  Where every step keeps an invariant and loses the property
    exactly when it does not meet the guard, a replay keeps the property exactly when it
    replays under the guard. -/
theorem replay_guard_iff {step : σ → ε → Option σ} {guard : σ → ε → Prop}
    [∀ s e, Decidable (guard s e)] {I P : σ → Prop}
    (hstep : ∀ {s e s'}, I s → step s e = some s' → I s' ∧ (P s' ↔ P s ∧ guard s e)) {es : List ε}
    {s s' : σ} (hI : I s) (h : replay step Always s es = some s') :
    I s' ∧ (P s' ↔ P s ∧ replay step guard s es = some s') := by
  induction es generalizing s with
  | nil =>
    cases h
    exact ⟨hI, (and_iff_left rfl).symm⟩
  | cons e es ih =>
    simp only [replay] at h ⊢
    have halways : Always s e := trivial
    rw [if_pos halways] at h
    obtain ⟨s₁, h₁, h₂⟩ := Option.bind_eq_some_iff.mp h
    obtain ⟨hI₁, hone⟩ := hstep hI h₁
    obtain ⟨hI', hrest⟩ := ih hI₁ h₂
    refine ⟨hI', ?_⟩
    rw [hrest, hone, h₁, Option.bind_some]
    constructor
    · rintro ⟨⟨hP, hg⟩, hrun⟩
      rw [if_pos hg]
      exact ⟨hP, hrun⟩
    · rintro ⟨hP, hrun⟩
      split at hrun
      · rename_i hg
        exact ⟨⟨hP, hg⟩, hrun⟩
      · cases hrun

/-- `P` holds at `s` and after every event of the run. -/
def Throughout (step : σ → ε → Option σ) (P : σ → Prop) (s : σ) : List ε → Prop
  | [] => P s
  | e :: es => P s ∧ ∀ s' ∈ step s e, Throughout step P s' es

theorem Throughout.last {step : σ → ε → Option σ} {P : σ → Prop} {s s' : σ} {es : List ε}
    (hall : Throughout step P s es) (hrun : replay step Always s es = some s') : P s' := by
  induction es generalizing s with
  | nil =>
    cases hrun
    exact hall
  | cons e es ih =>
    rw [replay, if_pos (by trivial)] at hrun
    obtain ⟨s₁, hstep, hrun⟩ := Option.bind_eq_some_iff.mp hrun
    exact ih (hall.2 s₁ hstep) hrun

/-- **The guard of a property, step by step.**  Where every step from a state with the property
    keeps an invariant, and leads to a state with the property exactly when it meets the guard,
    the property holds throughout a run exactly when the run replays under the guard. -/
theorem throughout_iff_replay {step : σ → ε → Option σ} {guard : σ → ε → Prop}
    [∀ s e, Decidable (guard s e)] {I P : σ → Prop}
    (hstep : ∀ {s e s'}, I s → P s → step s e = some s' → I s' ∧ (P s' ↔ guard s e)) {es : List ε}
    {s s' : σ} (hI : I s) (hP : P s) (h : replay step Always s es = some s') :
    Throughout step P s es ↔ replay step guard s es = some s' := by
  induction es generalizing s with
  | nil =>
    cases h
    simp only [Throughout, replay, hP]
  | cons e es ih =>
    simp only [replay] at h ⊢
    have halways : Always s e := trivial
    rw [if_pos halways] at h
    obtain ⟨s₁, h₁, h₂⟩ := Option.bind_eq_some_iff.mp h
    obtain ⟨hI₁, hone⟩ := hstep hI hP h₁
    have hhead : Throughout step P s (e :: es) ↔ Throughout step P s₁ es := by
      simp only [Throughout, hP, h₁, Option.mem_def, Option.some.injEq, true_and, forall_eq']
    rw [hhead, h₁, Option.bind_some]
    by_cases hg : guard s e
    · rw [if_pos hg]
      exact ih hI₁ (hone.mpr hg) h₂
    · rw [if_neg hg]
      constructor
      · intro hrest
        have hP₁ : P s₁ := by
          cases es with
          | nil => exact hrest
          | cons e' es' => exact hrest.1
        exact absurd (hone.mp hP₁) hg
      · intro hnone
        cases hnone

theorem exists_reaches_of_replay {step : σ → ε → Option σ} {guard : σ → ε → Prop}
    [∀ s e, Decidable (guard s e)] {s₀ : σ} {α : Type*} {measure : σ → α} {a : α} (es : List ε)
    (h : (replay step guard s₀ es).map measure = some a) :
    ∃ s, Reaches step guard s₀ s ∧ measure s = a := by
  obtain ⟨s, hs, ha⟩ := Option.map_eq_some_iff.mp h
  exact ⟨s, reaches_of_replay hs, ha⟩

/-! ### Pools of concurrent tasks -/

section Pool

variable {τ : Type*}

def weight (f : τ → Nat) (pool : List τ) : Nat := (pool.map f).sum

@[simp] theorem weight_append (f : τ → Nat) (p q : List τ) :
    weight f (p ++ q) = weight f p + weight f q := by
  simp [weight]

@[simp] theorem weight_nil (f : τ → Nat) : weight f [] = 0 := rfl

@[simp] theorem weight_cons (f : τ → Nat) (x : τ) (p : List τ) :
    weight f (x :: p) = f x + weight f p := by
  simp [weight]

/-- Moving the task at position `i` from `x` to `y` changes the sum by exactly
    the difference of the two measures. -/
theorem weight_set (f : τ → Nat) {pool : List τ} {i : Nat} {x : τ} (y : τ)
    (h : pool[i]? = some x) : weight f (pool.set i y) + f x = weight f pool + f y := by
  induction pool generalizing i with
  | nil => simp at h
  | cons z pool ih =>
    cases i with
    | zero =>
      simp only [List.getElem?_cons_zero, Option.some.injEq] at h
      subst h
      simp only [List.set_cons_zero, weight_cons]
      omega
    | succ i =>
      simp only [List.getElem?_cons_succ] at h
      have := ih h
      simp only [List.set_cons_succ, weight_cons]
      omega

theorem weight_mono {f g : τ → Nat} {pool : List τ} (h : ∀ x ∈ pool, f x ≤ g x) :
    weight f pool ≤ weight g pool := by
  induction pool with
  | nil => simp
  | cons x pool ih =>
    have hx := h x (by simp)
    have hrest := ih fun y hy => h y (by simp [hy])
    simp only [weight_cons]
    omega

theorem le_weight (f : τ → Nat) {pool : List τ} {x : τ} (h : x ∈ pool) : f x ≤ weight f pool :=
  List.le_sum_of_mem (List.mem_map_of_mem h)

theorem weight_add (f g : τ → Nat) (pool : List τ) :
    weight (fun x => f x + g x) pool = weight f pool + weight g pool := by
  induction pool with
  | nil => simp
  | cons x pool ih => simp only [weight_cons, ih]; omega

end Pool

end GuardedRun
