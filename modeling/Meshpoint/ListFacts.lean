import Mathlib.Data.List.Nodup
import Mathlib.Data.List.Perm.Basic
import Mathlib.Data.List.Sort

/-!
# Lists

`List.mapM` of a function that may fail has a result when the function has one on every item, and
then the results are those of the items (`mapM_eq_some_iff`).

A list that is sorted by a key has the keys in order (`pairwise_mergeSort_key`).

Rows that get the next number of a counter have distinct numbers within it (`number_le_append`,
`nodup_append_number`), also after they were rewritten under their numbers (`map_number_map`).
-/

namespace ListFacts

universe u v

variable {α : Type u} {β : Type v}

/-! ### Functions that may fail -/

section

variable {f : α → Option β} {l : List α} {ys : List β}

theorem mapM_eq_some_iff : l.mapM f = some ys ↔ l.map f = ys.map some := by
  induction l generalizing ys with
  | nil =>
    rw [List.mapM_nil, List.map_nil]
    constructor
    · intro h
      cases h
      rfl
    · intro h
      rw [List.map_eq_nil_iff.mp h.symm]
      rfl
  | cons x l ih =>
    rw [List.mapM_cons, List.map_cons]
    constructor
    · intro h
      obtain ⟨y, hy, hrest⟩ := Option.bind_eq_some_iff.mp h
      obtain ⟨rest, hmap, hys⟩ := Option.bind_eq_some_iff.mp hrest
      cases hys
      rw [hy, ih.mp hmap, List.map_cons]
    · intro h
      obtain ⟨y, rest, rfl, hy, hmap⟩ := List.map_eq_cons_iff.mp h.symm
      rw [← hy, ih.mpr hmap.symm]
      rfl

theorem mem_of_mapM (h : l.mapM f = some ys) {y : β} : y ∈ ys ↔ ∃ x ∈ l, f x = some y := by
  rw [← List.mem_map, mapM_eq_some_iff.mp h, List.mem_map_of_injective (Option.some_injective β)]

theorem exists_of_mapM (h : l.mapM f = some ys) {x : α} (hx : x ∈ l) : ∃ y, f x = some y := by
  have hmem : f x ∈ ys.map some := mapM_eq_some_iff.mp h ▸ List.mem_map_of_mem hx
  obtain ⟨y, -, hy⟩ := List.mem_map.mp hmem
  exact ⟨y, hy.symm⟩

theorem map_of_mapM {γ : Type*} {g : α → γ} {g' : β → γ} (hkeep : ∀ x y, f x = some y → g' y = g x)
    (h : l.mapM f = some ys) : ys.map g' = l.map g := by
  have hmap := mapM_eq_some_iff.mp h
  induction l generalizing ys with
  | nil =>
    rw [List.map_nil, eq_comm, List.map_eq_nil_iff] at hmap
    rw [hmap]
    rfl
  | cons x l ih =>
    obtain ⟨y, rest, rfl, hy, hrest⟩ := List.map_eq_cons_iff.mp hmap.symm
    rw [List.map_cons, List.map_cons, hkeep x y hy.symm,
      ih (mapM_eq_some_iff.mpr hrest.symm) hrest.symm]

theorem isSome_mapM : (l.mapM f).isSome ↔ ∀ x ∈ l, (f x).isSome := by
  constructor
  · intro h x hx
    obtain ⟨ys, hys⟩ := Option.isSome_iff_exists.mp h
    exact Option.isSome_iff_exists.mpr (exists_of_mapM hys hx)
  · intro h
    rw [Option.isSome_iff_exists]
    refine ⟨l.attach.map fun x => (f x.1).get (h x.1 x.2), ?_⟩
    rw [mapM_eq_some_iff]
    calc l.map f
        = (l.attach.map Subtype.val).map f := by rw [List.attach_map_subtype_val]
      _ = (l.attach.map fun x => (f x.1).get (h x.1 x.2)).map some := by
        rw [List.map_map, List.map_map]
        exact List.map_congr_left fun x _ => (Option.some_get _).symm

theorem mapM_perm {l' : List α} (hperm : l.Perm l') (h : l.mapM f = some ys) :
    ∃ ys', l'.mapM f = some ys' ∧ ys.Perm ys' := by
  have hall : ∀ x ∈ l', (f x).isSome := fun x hx =>
    Option.isSome_iff_exists.mpr (exists_of_mapM h (hperm.mem_iff.mpr hx))
  obtain ⟨ys', hys'⟩ := Option.isSome_iff_exists.mp (isSome_mapM.mpr hall)
  refine ⟨ys', hys', ?_⟩
  have hresults := hperm.map f
  rw [mapM_eq_some_iff.mp h, mapM_eq_some_iff.mp hys'] at hresults
  exact (List.map_perm_map_iff (Option.some_injective β)).mp hresults

end

/-! ### Loops that may fail -/

section

variable {m : Type u → Type v} [Monad m] {σ : Type u} {ι κ : Type*}

theorem foldlM_congr_mem {f g : σ → ι → m σ} {l : List ι} (h : ∀ s, ∀ i ∈ l, f s i = g s i)
    (s : σ) : l.foldlM f s = l.foldlM g s := by
  induction l generalizing s with
  | nil => rfl
  | cons i l ih =>
    rw [List.foldlM_cons, List.foldlM_cons, h s i List.mem_cons_self]
    congr 1
    funext s'
    exact ih (fun s j hj => h s j (List.mem_cons_of_mem i hj)) s'

theorem foldlM_flatMap [LawfulMonad m] (f : σ → κ → m σ) (g : ι → List κ) (l : List ι) (s : σ) :
    (l.flatMap g).foldlM f s = l.foldlM (fun s i => (g i).foldlM f s) s := by
  induction l generalizing s with
  | nil => rfl
  | cons i l ih =>
    rw [List.flatMap_cons, List.foldlM_append, List.foldlM_cons]
    congr 1
    funext s'
    exact ih s'

end

/-! ### Sorting by a key -/

theorem pairwise_mergeSort_key {κ : Type*} [LinearOrder κ] (key : α → κ) (l : List α) :
    (l.mergeSort fun a b => decide (key a ≤ key b)).Pairwise fun a b => key a ≤ key b := by
  have htotal : Std.Total fun a b : α => key a ≤ key b := ⟨fun a b => le_total (key a) (key b)⟩
  have htrans : IsTrans α fun a b => key a ≤ key b := ⟨fun _ _ _ => le_trans⟩
  exact List.pairwise_mergeSort' _ l

/-! ### Numbered rows -/

/-- What holds at every place of a list, at every place of a longer one. -/
theorem forall_splits_append_singleton {l : List α} {x : α} {P : List α → α → Prop} :
    (∀ before y after, l ++ [x] = before ++ y :: after → P before y) ↔
      (∀ before y after, l = before ++ y :: after → P before y) ∧ P l x := by
  constructor
  · intro h
    refine ⟨fun before y after heq => ?_, h l x [] rfl⟩
    exact h before y (after ++ [x]) (by simp [heq])
  · rintro ⟨hbefore, hlast⟩ before y after heq
    rcases List.eq_nil_or_concat after with rfl | ⟨after, final, rfl⟩
    · obtain ⟨rfl, hsame⟩ := List.append_inj' heq rfl
      obtain rfl : x = y := by simpa using hsame
      exact hlast
    · rw [List.concat_eq_append, ← List.cons_append, ← List.append_assoc] at heq
      exact hbefore before y after (List.append_inj_left' heq rfl)

section

variable {number : α → Nat} {rows : List α} {last : Nat} {row : α}

theorem number_le_append (hbounded : ∀ row ∈ rows, number row ≤ last)
    (hrow : number row = last + 1) : ∀ other ∈ rows ++ [row], number other ≤ last + 1 := by
  intro other hother
  rcases List.mem_append.mp hother with hold | hnew
  · exact Nat.le_succ_of_le (hbounded other hold)
  · rw [List.mem_singleton.mp hnew]
    exact hrow.le

theorem nodup_append_number (hbounded : ∀ row ∈ rows, number row ≤ last)
    (hnodup : (rows.map number).Nodup) (hrow : number row = last + 1) :
    ((rows ++ [row]).map number).Nodup := by
  rw [List.map_append, List.nodup_append]
  refine ⟨hnodup, List.nodup_singleton _, ?_⟩
  intro a ha b hb hab
  obtain ⟨other, hother, rfl⟩ := List.mem_map.mp ha
  have hbound := hbounded other hother
  have hnew : b = number row := List.mem_singleton.mp hb
  omega

theorem map_number_map {rewrite : α → α} (hkeep : ∀ row, number (rewrite row) = number row)
    (rows : List α) : (rows.map rewrite).map number = rows.map number := by
  rw [List.map_map]
  exact List.map_congr_left fun row _ => hkeep row

theorem number_le_map {rewrite : α → α} (hkeep : ∀ row, number (rewrite row) = number row)
    (hbounded : ∀ row ∈ rows, number row ≤ last) :
    ∀ row ∈ rows.map rewrite, number row ≤ last := by
  intro row hrow
  obtain ⟨old, hold, rfl⟩ := List.mem_map.mp hrow
  rw [hkeep]
  exact hbounded old hold

end

end ListFacts
