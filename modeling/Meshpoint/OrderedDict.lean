import Mathlib.Data.List.Nodup
import Mathlib.Data.List.Basic

/-!
# Insertion-ordered dictionaries

A dictionary that remembers the order in which its keys were first inserted:
assigning to a present key replaces the value in place, assigning to a new key
appends.  The uniqueness of the keys is a field, so a dictionary with two
entries for one key cannot be built.

`get?_update` is the reading of a bulk update (the last assignment wins) and
`update_eq_self_iff` says exactly when a bulk update changes nothing; both are
stated on the entry list, so that positions (`items[i]?`) stay available.
-/

universe u v

/-- An insertion-ordered dictionary. -/
structure OrderedDict (κ : Type u) (ν : Type v) where
  items : List (κ × ν)
  nodupKeys : (items.map Prod.fst).Nodup

namespace OrderedDict

variable {κ : Type u} {ν : Type v}

theorem ext_items {d e : OrderedDict κ ν} (h : d.items = e.items) : d = e := by
  cases d; cases e; cases h; rfl

instance [DecidableEq κ] [DecidableEq ν] : DecidableEq (OrderedDict κ ν) := fun d e =>
  decidable_of_iff (d.items = e.items) ⟨ext_items, fun h => h ▸ rfl⟩

def empty : OrderedDict κ ν := ⟨[], List.nodup_nil⟩

instance : Inhabited (OrderedDict κ ν) := ⟨empty⟩

def keys (d : OrderedDict κ ν) : List κ := d.items.map Prod.fst

def values (d : OrderedDict κ ν) : List ν := d.items.map Prod.snd

@[simp] theorem items_empty : (empty : OrderedDict κ ν).items = [] := rfl

@[simp] theorem length_values (d : OrderedDict κ ν) : d.values.length = d.items.length := by
  simp [values]

section Lookup

variable [DecidableEq κ]

/-- First entry for `k` in an entry list. -/
def lookupItems (k : κ) : List (κ × ν) → Option ν
  | [] => none
  | (k', v) :: rest => if k' = k then some v else lookupItems k rest

def get? (d : OrderedDict κ ν) (k : κ) : Option ν := lookupItems k d.items

/-- Assignment on an entry list: in place when the key is present. -/
def setItems (k : κ) (v : ν) : List (κ × ν) → List (κ × ν)
  | [] => [(k, v)]
  | (k', v') :: rest => if k' = k then (k, v) :: rest else (k', v') :: setItems k v rest

theorem keys_setItems (k : κ) (v : ν) (l : List (κ × ν)) :
    (setItems k v l).map Prod.fst =
      if k ∈ l.map Prod.fst then l.map Prod.fst else l.map Prod.fst ++ [k] := by
  induction l with
  | nil => simp [setItems]
  | cons p rest ih =>
    obtain ⟨k', v'⟩ := p
    by_cases h : k' = k
    · simp [setItems, h]
    · have hk : ¬ k = k' := fun e => h e.symm
      by_cases hm : k ∈ rest.map Prod.fst
      · rw [if_pos hm] at ih
        rw [if_pos (by simp only [List.map_cons, List.mem_cons]; exact Or.inr hm)]
        simp only [setItems, if_neg h, List.map_cons, ih]
      · rw [if_neg hm] at ih
        rw [if_neg (by simp only [List.map_cons, List.mem_cons]; exact fun hc => hc.elim hk hm)]
        simp only [setItems, if_neg h, List.map_cons, ih, List.cons_append]

/-- `d[k] = v`. -/
def set (d : OrderedDict κ ν) (k : κ) (v : ν) : OrderedDict κ ν :=
  ⟨setItems k v d.items, by
    rw [keys_setItems]
    split
    · exact d.nodupKeys
    · rename_i h
      rw [List.nodup_append]
      refine ⟨d.nodupKeys, by simp, ?_⟩
      intro a ha b hb hab
      rw [List.mem_singleton.mp hb] at hab
      exact h (hab ▸ ha)⟩

/-- `d[k] = v` for each entry in turn. -/
def update (d : OrderedDict κ ν) (l : List (κ × ν)) : OrderedDict κ ν :=
  l.foldl (fun acc p => acc.set p.1 p.2) d

def ofList (l : List (κ × ν)) : OrderedDict κ ν := empty.update l

/-- Drop the oldest entries while they meet `p`. -/
def dropWhile (p : κ × ν → Bool) (d : OrderedDict κ ν) : OrderedDict κ ν :=
  ⟨d.items.dropWhile p, d.nodupKeys.sublist ((List.dropWhile_sublist p).map Prod.fst)⟩

/-- Drop the `n` oldest entries. -/
def drop (n : Nat) (d : OrderedDict κ ν) : OrderedDict κ ν :=
  ⟨d.items.drop n, d.nodupKeys.sublist ((List.drop_sublist n _).map Prod.fst)⟩

@[simp] theorem update_nil (d : OrderedDict κ ν) : d.update [] = d := rfl

@[simp] theorem update_cons (d : OrderedDict κ ν) (p : κ × ν) (l : List (κ × ν)) :
    d.update (p :: l) = (d.set p.1 p.2).update l := rfl

theorem update_append (d : OrderedDict κ ν) (l m : List (κ × ν)) :
    d.update (l ++ m) = (d.update l).update m := by
  simp [update, List.foldl_append]

@[simp] theorem get?_empty (k : κ) : (empty : OrderedDict κ ν).get? k = none := rfl

theorem lookupItems_setItems (k k' : κ) (v : ν) (l : List (κ × ν)) :
    lookupItems k' (setItems k v l) = if k = k' then some v else lookupItems k' l := by
  induction l with
  | nil => simp [setItems, lookupItems]
  | cons p rest ih =>
    obtain ⟨k₀, v₀⟩ := p
    by_cases h : k₀ = k
    · subst h
      by_cases hk : k₀ = k' <;> simp [setItems, lookupItems, hk]
    · by_cases hk : k₀ = k'
      · subst hk
        have hne : ¬ k = k₀ := fun e => h e.symm
        simp [setItems, lookupItems, h, hne]
      · simp only [setItems, if_neg h, lookupItems, if_neg hk, ih]

theorem lookupItems_filter (p : κ → Bool) (k : κ) (l : List (κ × ν)) :
    lookupItems k (l.filter fun entry => p entry.1) = if p k then lookupItems k l else none := by
  induction l with
  | nil => simp [lookupItems]
  | cons entry rest ih =>
    cases hp : p entry.1 with
    | true =>
      rw [List.filter_cons_of_pos (p := fun entry : κ × ν => p entry.1) hp]
      by_cases hkey : entry.1 = k
      · rw [← hkey, hp]
        simp only [lookupItems, if_true]
      · simp only [lookupItems, hkey, if_false, ih]
    | false =>
      rw [List.filter_cons_of_neg (by simp [hp]), ih]
      by_cases hkey : entry.1 = k
      · rw [← hkey, hp]
        rfl
      · simp only [lookupItems, hkey, if_false]

theorem get?_set (d : OrderedDict κ ν) (k k' : κ) (v : ν) :
    (d.set k v).get? k' = if k = k' then some v else d.get? k' :=
  lookupItems_setItems k k' v d.items

theorem lookupItems_eq_some_iff {l : List (κ × ν)} (hl : (l.map Prod.fst).Nodup) {k : κ} {v : ν} :
    lookupItems k l = some v ↔ (k, v) ∈ l := by
  induction l with
  | nil => simp [lookupItems]
  | cons p rest ih =>
    obtain ⟨k', v'⟩ := p
    rw [List.map_cons, List.nodup_cons] at hl
    by_cases h : k' = k
    · subst h
      simp only [lookupItems, if_pos, Option.some.injEq, List.mem_cons, Prod.mk.injEq, true_and]
      constructor
      · intro hv; exact Or.inl hv.symm
      · rintro (hv | hv)
        · exact hv.symm
        · exact absurd (List.mem_map.mpr ⟨(k', v), hv, rfl⟩) hl.1
    · have hne : ¬ k = k' := fun e => h e.symm
      simp [lookupItems, h, hne, ih hl.2]

theorem get?_eq_some_iff (d : OrderedDict κ ν) {k : κ} {v : ν} :
    d.get? k = some v ↔ (k, v) ∈ d.items :=
  lookupItems_eq_some_iff d.nodupKeys

theorem lookupItems_eq_none_iff {l : List (κ × ν)} {k : κ} :
    lookupItems k l = none ↔ k ∉ l.map Prod.fst := by
  induction l with
  | nil => simp [lookupItems]
  | cons p rest ih =>
    obtain ⟨k', v'⟩ := p
    by_cases h : k' = k
    · simp [lookupItems, h]
    · have hne : ¬ k = k' := fun e => h e.symm
      simp only [lookupItems, if_neg h, ih, List.map_cons, List.mem_cons, not_or]
      exact ⟨fun hr => ⟨hne, hr⟩, fun hr => hr.2⟩

theorem get?_eq_none_iff (d : OrderedDict κ ν) {k : κ} : d.get? k = none ↔ k ∉ d.keys :=
  lookupItems_eq_none_iff

theorem get?_of_getElem? (d : OrderedDict κ ν) {i : Nat} {k : κ} {v : ν}
    (h : d.items[i]? = some (k, v)) : d.get? k = some v :=
  d.get?_eq_some_iff.mpr (List.mem_of_getElem? h)

theorem get?_update (d : OrderedDict κ ν) (l : List (κ × ν)) (k : κ) :
    (d.update l).get? k =
      ((l.reverse.find? fun p => decide (p.1 = k)).map Prod.snd).or (d.get? k) := by
  induction l generalizing d with
  | nil => simp
  | cons p rest ih =>
    rw [update_cons, ih, List.reverse_cons, List.find?_append, get?_set]
    cases hr : rest.reverse.find? fun p => decide (p.1 = k) with
    | some q => simp
    | none =>
      by_cases h : p.1 = k <;> simp [h]

theorem setItems_of_not_mem {k : κ} {v : ν} {l : List (κ × ν)} (h : k ∉ l.map Prod.fst) :
    setItems k v l = l ++ [(k, v)] := by
  induction l with
  | nil => rfl
  | cons p rest ih =>
    obtain ⟨k', v'⟩ := p
    rw [List.map_cons, List.mem_cons, not_or] at h
    have hne : ¬ k' = k := fun e => h.1 e.symm
    simp [setItems, hne, ih h.2]

theorem items_set_of_not_mem (d : OrderedDict κ ν) {k : κ} (v : ν) (h : k ∉ d.keys) :
    (d.set k v).items = d.items ++ [(k, v)] :=
  setItems_of_not_mem h

theorem setItems_eq_self_iff {k : κ} {v : ν} {l : List (κ × ν)} :
    setItems k v l = l ↔ lookupItems k l = some v := by
  induction l with
  | nil => simp [setItems, lookupItems]
  | cons p rest ih =>
    obtain ⟨k', v'⟩ := p
    by_cases h : k' = k
    · subst h
      simp [setItems, lookupItems, eq_comm]
    · simp [setItems, lookupItems, h, ih]

theorem set_eq_self_iff (d : OrderedDict κ ν) (k : κ) (v : ν) :
    d.set k v = d ↔ d.get? k = some v := by
  constructor
  · intro h
    exact setItems_eq_self_iff.mp (congrArg OrderedDict.items h)
  · intro h
    exact ext_items (setItems_eq_self_iff.mpr h)

theorem items_update_of_nodup (d : OrderedDict κ ν) {l : List (κ × ν)}
    (h : (d.keys ++ l.map Prod.fst).Nodup) : (d.update l).items = d.items ++ l := by
  induction l generalizing d with
  | nil => simp
  | cons p rest ih =>
    rw [List.map_cons, List.nodup_append] at h
    obtain ⟨hd, hp, hdisjoint⟩ := h
    have hnew : p.1 ∉ d.keys := fun hmem => hdisjoint p.1 hmem p.1 (List.mem_cons_self ..) rfl
    have hitems := d.items_set_of_not_mem p.2 hnew
    have hkeys : (d.set p.1 p.2).keys = d.keys ++ [p.1] := by
      simp [keys, hitems]
    rw [update_cons, ih (d.set p.1 p.2), hitems, List.append_assoc]
    · rfl
    · rw [hkeys, List.append_assoc, List.singleton_append, List.nodup_append]
      exact ⟨hd, hp, hdisjoint⟩

theorem keys_prefix_update (d : OrderedDict κ ν) (l : List (κ × ν)) :
    d.keys <+: (d.update l).keys := by
  induction l generalizing d with
  | nil => exact List.prefix_refl _
  | cons p rest ih =>
    refine List.IsPrefix.trans ?_ (ih (d.set p.1 p.2))
    have hkeys := keys_setItems p.1 p.2 d.items
    change d.keys <+: (setItems p.1 p.2 d.items).map Prod.fst
    rw [hkeys]
    split
    · exact List.prefix_refl _
    · exact List.prefix_append _ _

theorem get?_update_of_mem (d : OrderedDict κ ν) {l : List (κ × ν)} (h : (l.map Prod.fst).Nodup)
    {p : κ × ν} (hp : p ∈ l) : (d.update l).get? p.1 = some p.2 := by
  rw [get?_update]
  cases hfind : l.reverse.find? fun q => decide (q.1 = p.1) with
  | none =>
    have hnone := List.find?_eq_none.mp hfind p (List.mem_reverse.mpr hp)
    simp at hnone
  | some q =>
    have hkey : q.1 = p.1 := by simpa using List.find?_some hfind
    have hmem : q ∈ l := List.mem_reverse.mp (List.mem_of_find?_eq_some hfind)
    have hq : (q.1, q.2) ∈ l := hmem
    rw [hkey] at hq
    have hsame := (lookupItems_eq_some_iff h).mpr hq
    rw [(lookupItems_eq_some_iff h).mpr (show (p.1, p.2) ∈ l from hp)] at hsame
    simpa using hsame.symm

theorem get?_update_items (d e : OrderedDict κ ν) (k : κ) :
    (d.update e.items).get? k = (e.get? k).or (d.get? k) := by
  cases hget : e.get? k with
  | some v =>
    have hmem : (k, v) ∈ e.items := e.get?_eq_some_iff.mp hget
    rw [d.get?_update_of_mem e.nodupKeys hmem, Option.some_or]
  | none =>
    have hnot := e.get?_eq_none_iff.mp hget
    have hfind : e.items.reverse.find? (fun p => decide (p.1 = k)) = none := by
      rw [List.find?_eq_none]
      intro p hp hkey
      rw [decide_eq_true_eq] at hkey
      exact hnot (hkey ▸ List.mem_map_of_mem (List.mem_reverse.mp hp))
    rw [get?_update, hfind, Option.map_none, Option.none_or]

/-- A bulk update with distinct keys changes nothing exactly when all its entries are
    already there. -/
theorem update_eq_self_iff (d : OrderedDict κ ν) {l : List (κ × ν)}
    (h : (l.map Prod.fst).Nodup) : d.update l = d ↔ ∀ p ∈ l, d.get? p.1 = some p.2 := by
  constructor
  · intro heq p hp
    rw [← heq]
    exact d.get?_update_of_mem h hp
  · intro hall
    induction l with
    | nil => rfl
    | cons p rest ih =>
      rw [List.map_cons, List.nodup_cons] at h
      have hset : d.set p.1 p.2 = d := (d.set_eq_self_iff ..).mpr (hall p (List.mem_cons_self ..))
      rw [update_cons, hset]
      exact ih h.2 fun q hq => hall q (List.mem_cons_of_mem _ hq)

end Lookup

end OrderedDict
