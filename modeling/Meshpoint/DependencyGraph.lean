import Mathlib.Logic.Relation
import Mathlib.Tactic.ByContra

/-!
# Taking a node and its dependents out of a graph

A set of nodes is closed when it holds whatever one of its nodes depends on.  Taking out a node
with everything that depends on it, directly or not, leaves a closed set.  A removal that follows
only some of the dependencies leaves one exactly when those take out every node that depends on one
they take out (`closed_without_iff_step`).
-/

namespace DependencyGraph

open Relation

variable {α : Type*} {dep follow : α → α → Prop} {E R : α → Prop} {p : α}

/-- What a node of `E` depends on is in `E`. -/
def Closed (dep : α → α → Prop) (E : α → Prop) : Prop := ∀ ⦃a b⦄, E a → dep a b → E b

/-- `E` without `p` and the nodes from which `follow` leads to `p`. -/
def Without (follow : α → α → Prop) (E : α → Prop) (p a : α) : Prop :=
  E a ∧ a ≠ p ∧ ¬ TransGen follow a p

theorem Closed.transGen (hclosed : Closed dep E) {a b : α} (ha : E a) (h : TransGen dep a b) :
    E b := by
  induction h with
  | single hab => exact hclosed ha hab
  | tail _ hbc ih => exact hclosed ih hbc

/-- What remains of `E`, closed, without `p` and without more than the dependents of `p`, is `E`
    without `p` and its dependents. -/
theorem remaining_iff (hsub : ∀ a, R a → E a) (hp : ¬ R p)
    (hremoved : ∀ a, E a → ¬ R a → a = p ∨ TransGen follow a p) (hclosed : Closed follow R)
    (a : α) : R a ↔ Without follow E p a := by
  constructor
  · intro ha
    refine ⟨hsub a ha, ?_, ?_⟩
    · rintro rfl
      exact hp ha
    · intro hpath
      exact hp (hclosed.transGen ha hpath)
  · rintro ⟨ha, hne, hpath⟩
    by_contra hgone
    rcases hremoved a ha hgone with heq | hleads
    · exact hne heq
    · exact hpath hleads

theorem transGen_follow_of_closed (hclosed : Closed dep (Without follow E p)) {a : α} (ha : E a)
    (hne : a ≠ p) (hpath : TransGen dep a p) : TransGen follow a p := by
  by_contra hnot
  exact (hclosed.transGen ⟨ha, hne, hnot⟩ hpath).2.1 rfl

/-- **Removal along some of the dependencies.**  It leaves a closed set exactly when they take out
    every node that depends on one they take out. -/
theorem closed_without_iff_step (hclosed : Closed dep E) :
    Closed dep (Without follow E p) ↔
      ∀ a b, E a → a ≠ p → dep a b → b = p ∨ TransGen follow b p → TransGen follow a p := by
  constructor
  · intro h a b ha hne hab hgone
    by_contra hnot
    obtain ⟨_, hb, hbpath⟩ := h ⟨ha, hne, hnot⟩ hab
    exact hgone.elim hb hbpath
  · rintro h a b ⟨ha, hne, hnot⟩ hab
    refine ⟨hclosed ha hab, ?_, ?_⟩
    · intro heq
      exact hnot (h a b ha hne hab (.inl heq))
    · intro hleads
      exact hnot (h a b ha hne hab (.inr hleads))

theorem without_iff_of_closed (hfollow : ∀ a b, follow a b → dep a b)
    (h : Closed dep (Without follow E p)) (a : α) : Without follow E p a ↔ Without dep E p a := by
  constructor
  · rintro ⟨ha, hne, hnot⟩
    refine ⟨ha, hne, ?_⟩
    intro hpath
    exact hnot (transGen_follow_of_closed h ha hne hpath)
  · rintro ⟨ha, hne, hnot⟩
    refine ⟨ha, hne, ?_⟩
    intro hleads
    exact hnot (TransGen.mono hfollow _ _ hleads)

end DependencyGraph
