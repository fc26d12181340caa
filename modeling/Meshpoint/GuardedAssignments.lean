import Mathlib.Data.List.Pairwise
import Mathlib.Logic.Function.Basic

/-!
# Assignments between checks

A state is a value for each field.  A procedure is a list of rules: each looks at the state and
refuses, or assigns its field, or does nothing, and a refusal leaves what was assigned before it.

`assignAll_state_eq_iff` says when such a procedure leaves the state as it was: when every rule
before the first refusal asks for the value that is there.
-/

namespace GuardedAssignments

variable {ι : Type*} [DecidableEq ι] {V : ι → Type*} {ε : Type*}

/-- A check of one field, with what is then assigned to it. -/
structure Rule (V : ι → Type*) (ε : Type*) where
  field : ι
  ask : ((i : ι) → V i) → Except ε (Option (V field))

abbrev Write (V : ι → Type*) := Σ i, V i

/-- What a procedure leaves: the state, what it assigned, and the refusal. -/
structure Assigned (V : ι → Type*) (ε : Type*) where
  state : (i : ι) → V i
  writes : List (Write V)
  refused : Option ε

def assignAll : List (Rule V ε) → ((i : ι) → V i) → Assigned V ε
  | [], c => ⟨c, [], none⟩
  | r :: rest, c =>
    match r.ask c with
    | .error e => ⟨c, [], some e⟩
    | .ok none => assignAll rest c
    | .ok (some v) =>
      let after := assignAll rest (Function.update c r.field v)
      ⟨after.state, ⟨r.field, v⟩ :: after.writes, after.refused⟩

/-- Every rule before the first refusal asks for the value that is there. -/
def Already : List (Rule V ε) → ((i : ι) → V i) → Prop
  | [], _ => True
  | r :: rest, c =>
    match r.ask c with
    | .error _ => True
    | .ok none => Already rest c
    | .ok (some v) => c r.field = v ∧ Already rest c

def Accepts (rules : List (Rule V ε)) (c : (i : ι) → V i) : Prop :=
  ∀ r ∈ rules, ∃ v, r.ask c = .ok v

def asked (rules : List (Rule V ε)) (c : (i : ι) → V i) : List (Write V) :=
  rules.filterMap fun r =>
    match r.ask c with
    | .ok (some v) => some ⟨r.field, v⟩
    | _ => none

/-! ### Nothing changes -/

theorem assignAll_of_already {rules : List (Rule V ε)} {c : (i : ι) → V i}
    (h : Already rules c) :
    (assignAll rules c).state = c ∧
      ((assignAll rules c).refused = none ↔ Accepts rules c) ∧
        ((assignAll rules c).refused = none → (assignAll rules c).writes = asked rules c) := by
  induction rules with
  | nil => exact ⟨rfl, by simp [assignAll, Accepts], fun _ => rfl⟩
  | cons r rest ih =>
    simp only [Already] at h
    simp only [assignAll, Accepts, List.forall_mem_cons, asked, List.filterMap_cons]
    cases hask : r.ask c with
    | error e => simp
    | ok asks =>
      rw [hask] at h
      cases asks with
      | none =>
        obtain ⟨hstate, hrefused, hwrites⟩ := ih h
        exact ⟨hstate, by simpa [Accepts] using hrefused, hwrites⟩
      | some v =>
        obtain ⟨hvalue, hrest⟩ := h
        obtain ⟨hstate, hrefused, hwrites⟩ := ih hrest
        have hupdate : Function.update c r.field v = c := by
          rw [← hvalue, Function.update_eq_self]
        simp only [hupdate]
        refine ⟨hstate, by simpa [Accepts] using hrefused, ?_⟩
        intro hnone
        rw [hwrites hnone]
        rfl

/-! ### Something changes -/

/-- A rule that, once its field differs from `c₀`, does not bring it back. -/
def Rule.Stays (c₀ : (i : ι) → V i) (r : Rule V ε) : Prop :=
  ∀ c v, c r.field ≠ c₀ r.field → r.ask c = .ok (some v) → v ≠ c₀ r.field

/-- What the first rule changes, the second does not bring back. -/
def Lasting (c₀ : (i : ι) → V i) (r later : Rule V ε) : Prop :=
  later.field = r.field → (∃ v, r.ask c₀ = .ok (some v) ∧ v ≠ c₀ r.field) → later.Stays c₀

theorem assignAll_ne {rules : List (Rule V ε)} {c₀ c : (i : ι) → V i} {i : ι}
    (hstays : ∀ r ∈ rules, r.field = i → r.Stays c₀) (hne : c i ≠ c₀ i) :
    (assignAll rules c).state i ≠ c₀ i := by
  induction rules generalizing c with
  | nil => exact hne
  | cons r rest ih =>
    have hrest : ∀ later ∈ rest, later.field = i → later.Stays c₀ :=
      fun later hlater => hstays later (List.mem_cons_of_mem r hlater)
    simp only [assignAll]
    cases hask : r.ask c with
    | error e => exact hne
    | ok asks =>
      cases asks with
      | none => exact ih hrest hne
      | some v =>
        refine ih hrest ?_
        by_cases hfield : r.field = i
        · subst hfield
          rw [Function.update_self]
          exact hstays r List.mem_cons_self rfl c v hne hask
        · rwa [Function.update_of_ne (Ne.symm hfield)]

/-- **A procedure leaves the state as it was** exactly where every rule before the first refusal
    asks for the value that is there. -/
theorem assignAll_state_eq_iff {rules : List (Rule V ε)} {c : (i : ι) → V i}
    (hlasting : rules.Pairwise (Lasting c)) :
    (assignAll rules c).state = c ↔ Already rules c := by
  refine ⟨?_, fun h => (assignAll_of_already h).1⟩
  induction rules with
  | nil => exact fun _ => trivial
  | cons r rest ih =>
    rw [List.pairwise_cons] at hlasting
    simp only [assignAll, Already]
    cases hask : r.ask c with
    | error e => exact fun _ => trivial
    | ok asks =>
      cases asks with
      | none => exact ih hlasting.2
      | some v =>
        intro hstate
        have hvalue : c r.field = v := by
          by_contra hne
          refine assignAll_ne (i := r.field) ?_ ?_ (congrFun hstate r.field)
          · intro later hlater hfield
            exact hlasting.1 later hlater hfield ⟨v, hask, Ne.symm hne⟩
          · rw [Function.update_self]
            exact Ne.symm hne
        refine ⟨hvalue, ih hlasting.2 ?_⟩
        have hupdate : Function.update c r.field v = c := by
          rw [← hvalue, Function.update_eq_self]
        simpa only [hupdate] using hstate

end GuardedAssignments
