import Meshpoint.OrderedDict
import Mathlib.Algebra.BigOperators.Group.List.Basic
import Mathlib.Data.List.Induction
import Mathlib.Data.List.Nodup
import Mathlib.Data.List.Perm.Basic
import Mathlib.Data.Prod.Basic
import Mathlib.Order.Lattice

/-!
# Merging into a dictionary by key

A list is read from the front, and each element enters the dictionary under its key: given
what the key holds already, it decides what the key holds then. What a key holds at the end
is the elements of that key entered in order (`get?_collect`), so the order of the list
matters within a key only.

The second part is one way of entering: a value that goes with a time, kept by the latest
element that has one. `Settled` says when the order of the elements is without effect
(`foldl_advance`).
-/

universe u v w

namespace KeyedMerge

/-! ### Entering by key -/

/-- What the key of an element holds once the element has entered. -/
structure Rule (α : Type u) (κ : Type v) (ν : Type w) where
  key : α → κ
  enter : Option ν → α → ν

namespace Rule

variable {α : Type u} {κ : Type v} {ν : Type w} [DecidableEq κ] (rule : Rule α κ ν)

def insert (d : OrderedDict κ ν) (x : α) : OrderedDict κ ν :=
  d.set (rule.key x) (rule.enter (d.get? (rule.key x)) x)

def collect (xs : List α) : OrderedDict κ ν := xs.foldl rule.insert .empty

def summary (xs : List α) : Option ν := xs.foldl (fun v x => some (rule.enter v x)) none

theorem get?_foldl_insert (xs : List α) (d : OrderedDict κ ν) (k : κ) :
    (xs.foldl rule.insert d).get? k =
      (xs.filter fun x => decide (rule.key x = k)).foldl (fun v x => some (rule.enter v x))
        (d.get? k) := by
  induction xs generalizing d with
  | nil => rfl
  | cons x rest ih =>
    rw [List.foldl_cons, ih, insert, OrderedDict.get?_set]
    by_cases hkey : rule.key x = k
    · subst hkey
      rw [if_pos rfl, List.filter_cons_of_pos (by simp), List.foldl_cons]
    · rw [if_neg hkey, List.filter_cons_of_neg (by simpa using hkey)]

theorem get?_collect (xs : List α) (k : κ) : (rule.collect xs).get? k =
    rule.summary (xs.filter fun x => decide (rule.key x = k)) := by
  rw [collect, get?_foldl_insert, OrderedDict.get?_empty, summary]

omit [DecidableEq κ] in
theorem summary_cons (x : α) (rest : List α) : rule.summary (x :: rest) =
    some (rest.foldl (fun v x => rule.enter (some v) x) (rule.enter none x)) := by
  have hfold : ∀ (xs : List α) (v : ν), xs.foldl (fun v x => some (rule.enter v x)) (some v) =
      some (xs.foldl (fun v x => rule.enter (some v) x) v) := by
    intro xs
    induction xs with
    | nil => intro _; rfl
    | cons y xs ih => intro v; exact ih _
  exact hfold rest _

omit [DecidableEq κ] in
theorem summary_eq_none_iff {xs : List α} : rule.summary xs = none ↔ xs = [] := by
  cases xs with
  | nil => simp [summary]
  | cons x rest => simp [summary_cons]

omit [DecidableEq κ] in
theorem summary_const {xs : List α} {c : ν}
    (h : ∀ x ∈ xs, ∀ v : Option ν, (∀ w ∈ v, w = c) → rule.enter v x = c) :
    rule.summary xs = if xs = [] then none else some c := by
  cases xs with
  | nil => rfl
  | cons x rest =>
    have hfold : ∀ ys : List α, (∀ y ∈ ys, y ∈ x :: rest) →
        ys.foldl (fun v x => rule.enter (some v) x) c = c := by
      intro ys
      induction ys with
      | nil => intro _; rfl
      | cons y ys ih =>
        intro hys
        rw [List.foldl_cons, h y (hys y List.mem_cons_self) (some c) fun w hw => by cases hw; rfl]
        exact ih fun z hz => hys z (List.mem_cons_of_mem _ hz)
    have hfirst : rule.enter none x = c := h x List.mem_cons_self none (by simp)
    rw [summary_cons, hfirst, hfold rest fun y hy => List.mem_cons_of_mem _ hy,
      if_neg (List.cons_ne_nil _ _)]

/-- Where the elements of a key all enter as the value of any of them, their order is without
    effect. -/
theorem get?_collect_perm {xs ys : List α} (hperm : xs.Perm ys) {k : κ} {value : α → ν}
    (h : ∀ x ∈ xs, ∀ y ∈ xs, rule.key x = k → rule.key y = k →
      ∀ v : Option ν, (∀ w ∈ v, w = value y) → rule.enter v x = value y) :
    (rule.collect xs).get? k = (rule.collect ys).get? k := by
  have hfilter : (xs.filter fun x => decide (rule.key x = k)).Perm
      (ys.filter fun x => decide (rule.key x = k)) := hperm.filter _
  rw [get?_collect, get?_collect]
  cases hxs : xs.filter fun x => decide (rule.key x = k) with
  | nil =>
    rw [hxs] at hfilter
    rw [List.nil_perm.mp hfilter]
  | cons y rest =>
    have hmem : ∀ x ∈ xs.filter (fun x => decide (rule.key x = k)),
        x ∈ xs ∧ rule.key x = k := by
      intro x hx
      rw [List.mem_filter, decide_eq_true_eq] at hx
      exact hx
    have hy := hmem y (hxs ▸ List.mem_cons_self)
    have hconst : ∀ x ∈ xs.filter (fun x => decide (rule.key x = k)), ∀ v : Option ν,
        (∀ w ∈ v, w = value y) → rule.enter v x = value y := by
      intro x hx
      exact h x (hmem x hx).1 y hy.1 (hmem x hx).2 hy.2
    have hne : (xs.filter fun x => decide (rule.key x = k)) ≠ [] := by
      rw [hxs]
      exact List.cons_ne_nil _ _
    have hne' : (ys.filter fun x => decide (rule.key x = k)) ≠ [] := by
      intro hnil
      rw [hnil] at hfilter
      exact hne (List.perm_nil.mp hfilter)
    rw [← hxs, rule.summary_const hconst,
      rule.summary_const fun x hx => hconst x (hfilter.mem_iff.mpr hx), if_neg hne, if_neg hne']

theorem mem_keys_collect {xs : List α} {k : κ} :
    k ∈ (rule.collect xs).keys ↔ ∃ x ∈ xs, rule.key x = k := by
  have hnone : k ∉ (rule.collect xs).keys ↔ ∀ x ∈ xs, rule.key x ≠ k := by
    rw [← OrderedDict.get?_eq_none_iff, get?_collect, summary_eq_none_iff,
      List.filter_eq_nil_iff]
    simp
  rw [← not_iff_not, hnone]
  simp

theorem forall_values_collect {xs : List α} {p : κ → ν → Prop}
    (h : ∀ x ∈ xs, ∀ v : Option ν, (∀ w ∈ v, p (rule.key x) w) →
      p (rule.key x) (rule.enter v x)) {k : κ} {v : ν}
    (hget : (rule.collect xs).get? k = some v) : p k v := by
  have hfold : ∀ (ys : List α) (v : Option ν), (∀ y ∈ ys, y ∈ xs ∧ rule.key y = k) →
      (∀ w ∈ v, p k w) → ∀ w ∈ ys.foldl (fun v x => some (rule.enter v x)) v, p k w := by
    intro ys
    induction ys with
    | nil => intro v _ hv; exact hv
    | cons y rest ih =>
      intro v hys hv
      apply ih _ fun z hz => hys z (List.mem_cons_of_mem _ hz)
      obtain ⟨hy, rfl⟩ := hys y List.mem_cons_self
      intro w hw
      cases hw
      exact h y hy v hv
  rw [get?_collect] at hget
  refine hfold _ none ?_ (fun w hw => nomatch hw) v hget
  intro y hy
  rw [List.mem_filter, decide_eq_true_eq] at hy
  exact hy

theorem perm_map_values {β : Type*} {d e : OrderedDict κ ν} {f : ν → β}
    (h : ∀ k, (d.get? k).map f = (e.get? k).map f) :
    (d.values.map f).Perm (e.values.map f) := by
  have hnodup : ∀ c : OrderedDict κ ν, (c.items.map fun p => (p.1, f p.2)).Nodup := by
    intro c
    have hkeys := c.nodupKeys
    rw [show c.items.map Prod.fst = (c.items.map fun p => (p.1, f p.2)).map Prod.fst by
      rw [List.map_map]; rfl] at hkeys
    exact hkeys.of_map
  have hmem : ∀ (c : OrderedDict κ ν) (k : κ) (b : β),
      (k, b) ∈ (c.items.map fun p => (p.1, f p.2)) ↔ (c.get? k).map f = some b := by
    intro c k b
    rw [List.mem_map, Option.map_eq_some_iff]
    constructor
    · rintro ⟨⟨k', v⟩, hmem, hpair⟩
      cases hpair
      exact ⟨v, c.get?_eq_some_iff.mpr hmem, rfl⟩
    · rintro ⟨v, hget, rfl⟩
      exact ⟨(k, v), c.get?_eq_some_iff.mp hget, rfl⟩
  have hperm : (d.items.map fun p => (p.1, f p.2)).Perm (e.items.map fun p => (p.1, f p.2)) := by
    rw [List.perm_ext_iff_of_nodup (hnodup d) (hnodup e)]
    rintro ⟨k, b⟩
    rw [hmem, hmem, h]
  have hsnd := hperm.map Prod.snd
  rw [List.map_map, List.map_map] at hsnd
  rw [OrderedDict.values, OrderedDict.values, List.map_map, List.map_map]
  exact hsnd

/-- Where each element adds its weight to what it enters, the entries weigh what the elements
    do. -/
theorem sum_collect {M : Type*} [AddCommMonoid M] {weight : α → M} {measure : ν → M}
    (hnew : ∀ x, measure (rule.enter none x) = weight x)
    (hold : ∀ v x, measure (rule.enter (some v) x) = measure v + weight x) (xs : List α) :
    ((rule.collect xs).values.map measure).sum = (xs.map weight).sum := by
  have hset : ∀ (items : List (κ × ν)) (k : κ) (x : α),
      ((OrderedDict.setItems k (rule.enter (OrderedDict.lookupItems k items) x) items).map
        fun entry => measure entry.2).sum =
      (items.map fun entry => measure entry.2).sum + weight x := by
    intro items k x
    induction items with
    | nil => simp [OrderedDict.setItems, OrderedDict.lookupItems, hnew]
    | cons entry rest ih =>
      by_cases hkey : entry.1 = k
      · simp only [OrderedDict.setItems, OrderedDict.lookupItems, hkey, if_true, List.map_cons,
          List.sum_cons, hold]
        rw [add_right_comm]
      · simp only [OrderedDict.setItems, OrderedDict.lookupItems, hkey, if_false, List.map_cons,
          List.sum_cons]
        rw [ih, add_assoc]
  have hfold : ∀ (xs : List α) (d : OrderedDict κ ν),
      ((xs.foldl rule.insert d).items.map fun entry => measure entry.2).sum =
        (d.items.map fun entry => measure entry.2).sum + (xs.map weight).sum := by
    intro xs
    induction xs with
    | nil => intro d; simp
    | cons x rest ih =>
      intro d
      rw [List.foldl_cons, ih, List.map_cons, List.sum_cons, ← add_assoc]
      congr 1
      exact hset d.items (rule.key x) x
  have h := hfold xs .empty
  rw [OrderedDict.items_empty, List.map_nil, List.sum_nil, zero_add] at h
  rw [← h, OrderedDict.values, List.map_map]
  rfl

end Rule

/-! ### The value of the latest element -/

section Latest

variable {α : Type u} {τ : Type v} {ν : Type w} [LinearOrder τ] (time : α → τ)
  (value : α → Option ν)

/-- A later element sets the time, and the value if it has one. -/
def advance (cur : τ × Option ν) (x : α) : τ × Option ν :=
  if cur.1 < time x then (time x, (value x).or cur.2) else cur

/-- The latest elements have one value, and none only where no element has any. -/
def Settled (xs : List α) : Prop :=
  ∀ x ∈ xs, (∀ y ∈ xs, time y ≤ time x) → ∀ y ∈ xs,
    (time y = time x → value y = value x) ∧ (value x = none → value y = none)

variable {time value}

/-- Reading on, the time is the latest so far; its value is that of an element of this time
    unless this has none, and then still some element's. -/
theorem foldl_advance_spec (xs : List α) (x : α) : ∃ top ∈ x :: xs,
    (∀ y ∈ x :: xs, time y ≤ time top) ∧
    (xs.foldl (advance time value) (time x, value x)).1 = time top ∧
    ((xs.foldl (advance time value) (time x, value x)).2 = value top ∨
      value top = none ∧ ∃ y ∈ x :: xs,
        (xs.foldl (advance time value) (time x, value x)).2 = value y) := by
  induction xs using List.reverseRecOn with
  | nil => exact ⟨x, List.mem_cons_self, by simp, rfl, Or.inl rfl⟩
  | append_singleton xs z ih =>
    obtain ⟨top, hmem, htop, htime, hvalue⟩ := ih
    rw [List.foldl_append, List.foldl_cons, List.foldl_nil]
    generalize xs.foldl (advance time value) (time x, value x) = cur at *
    have hsub : ∀ y ∈ x :: xs, y ∈ x :: (xs ++ [z]) := by
      intro y hy
      rw [← List.cons_append]
      exact List.mem_append_left _ hy
    have hz : z ∈ x :: (xs ++ [z]) := by simp
    by_cases hlt : cur.1 < time z
    · refine ⟨z, hz, ?_, by simp [advance, hlt], ?_⟩
      · intro y hy
        rw [← List.cons_append, List.mem_append, List.mem_singleton] at hy
        rcases hy with hy | rfl
        · exact (htop y hy).trans (htime ▸ hlt.le)
        · exact le_rfl
      · cases hvz : value z with
        | some v => exact Or.inl (by simp [advance, hlt, hvz])
        | none =>
          refine Or.inr ⟨rfl, ?_⟩
          rcases hvalue with hvalue | ⟨-, y, hy, hvalue⟩
          · exact ⟨top, hsub top hmem, by simp [advance, hlt, hvz, hvalue]⟩
          · exact ⟨y, hsub y hy, by simp [advance, hlt, hvz, hvalue]⟩
    · have hkeep : advance time value cur z = cur := by simp [advance, hlt]
      rw [hkeep]
      refine ⟨top, hsub top hmem, ?_, htime, ?_⟩
      · intro y hy
        rw [← List.cons_append, List.mem_append, List.mem_singleton] at hy
        rcases hy with hy | rfl
        · exact htop y hy
        · exact htime ▸ not_lt.mp hlt
      · rcases hvalue with hvalue | ⟨hnone, y, hy, hvalue⟩
        · exact Or.inl hvalue
        · exact Or.inr ⟨hnone, y, hsub y hy, hvalue⟩

theorem foldl_advance {xs : List α} {x top : α} (h : Settled time value (x :: xs))
    (hmem : top ∈ x :: xs) (htop : ∀ y ∈ x :: xs, time y ≤ time top) :
    xs.foldl (advance time value) (time x, value x) = (time top, value top) := by
  obtain ⟨last, hlast, hle, htime, hvalue⟩ := @foldl_advance_spec _ _ _ _ time value xs x
  have hsame : time last = time top := le_antisymm (htop last hlast) (hle top hmem)
  have hlastValue := (h top hmem htop last hlast).1 hsame
  apply Prod.ext
  · exact htime.trans hsame
  · rcases hvalue with hvalue | ⟨hnone, y, hy, hvalue⟩
    · exact hvalue.trans hlastValue
    · have hnone' : value top = none := hlastValue ▸ hnone
      exact hvalue.trans (((h top hmem htop y hy).2 hnone').trans hnone'.symm)

end Latest

end KeyedMerge
