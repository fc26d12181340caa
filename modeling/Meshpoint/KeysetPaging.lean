import Meshpoint.ListFacts
import Mathlib.Data.List.Count

/-!
# Paging by a key that is not unique

Items are read newest first, a page at a time, and the next page starts below the key of the
oldest item of the last one.  Items of one key may stand in any order.

Every walk ends (`walk_isSome`), and it returns every item once and in order exactly when no
boundary between two full pages falls inside a group of items of one key (`complete_iff`).
What is first in an order is known up to the items of its key (`Descending.le_head`,
`Descending.head_favoring`).
-/

namespace KeysetPaging

universe u v

variable {α : Type u} {κ : Type v} [LinearOrder κ]

/-- `ORDER BY key DESC`: some order of the items in which the keys descend. -/
structure Descending (key : α → κ) where
  sort : List α → List α
  perm : ∀ l, (sort l).Perm l
  sorted : ∀ l, (sort l).Pairwise fun a b => key b ≤ key a

def Descending.stable (key : α → κ) : Descending key where
  sort l := l.mergeSort fun a b => decide (key b ≤ key a)
  perm l := List.mergeSort_perm l _
  sorted l := ListFacts.pairwise_mergeSort_key (fun a => OrderDual.toDual (key a)) l

/-- A greater key, or the same key and `p` unless both or none meet it. -/
def favors (key : α → κ) (p : α → Bool) (a b : α) : Bool :=
  decide (key b < key a ∨ key a = key b ∧ (p a = true ∨ p b = false))

theorem favors_trans {key : α → κ} {p : α → Bool} (a b c : α) (hab : favors key p a b = true)
    (hbc : favors key p b c = true) : favors key p a c = true := by
  unfold favors at *
  rw [decide_eq_true_iff] at hab hbc ⊢
  rcases hab with hab | ⟨hab, hpab⟩
  · rcases hbc with hbc | ⟨hbc, -⟩
    · exact Or.inl (hbc.trans hab)
    · exact Or.inl (hbc ▸ hab)
  · rcases hbc with hbc | ⟨hbc, hpbc⟩
    · exact Or.inl (hab ▸ hbc)
    · refine Or.inr ⟨hab.trans hbc, ?_⟩
      rcases hpab with hpa | hpb
      · exact Or.inl hpa
      · rw [hpb] at hpbc
        exact Or.inr (hpbc.resolve_left Bool.false_ne_true)

theorem favors_total {key : α → κ} {p : α → Bool} (a b : α) :
    (favors key p a b || favors key p b a) = true := by
  unfold favors
  rw [Bool.or_eq_true, decide_eq_true_iff, decide_eq_true_iff]
  rcases lt_trichotomy (key a) (key b) with h | h | h
  · exact Or.inr (Or.inl h)
  · cases hpa : p a with
    | true => exact Or.inl (Or.inr ⟨h, Or.inl rfl⟩)
    | false => exact Or.inr (Or.inr ⟨h.symm, Or.inr rfl⟩)
  · exact Or.inl (Or.inl h)

/-- Of the items of one key, those that meet `p` come first. -/
def Descending.favoring (key : α → κ) (p : α → Bool) : Descending key where
  sort l := l.mergeSort (favors key p)
  perm l := List.mergeSort_perm l _
  sorted l := by
    refine (List.pairwise_mergeSort favors_trans favors_total l).imp ?_
    intro a b h
    rcases of_decide_eq_true h with hlt | ⟨heq, -⟩
    · exact hlt.le
    · exact heq.ge

theorem Descending.le_head {key : α → κ} (order : Descending key) {l : List α} {a : α}
    (h : (order.sort l).head? = some a) : a ∈ l ∧ ∀ b ∈ l, key b ≤ key a := by
  obtain ⟨rest, hsort⟩ := List.head?_eq_some_iff.mp h
  have hsorted := order.sorted l
  rw [hsort, List.pairwise_cons] at hsorted
  refine ⟨(order.perm l).mem_iff.mp (hsort ▸ List.mem_cons_self), ?_⟩
  intro b hb
  rcases List.mem_cons.mp (hsort ▸ (order.perm l).mem_iff.mpr hb) with rfl | hrest
  · exact le_rfl
  · exact hsorted.1 b hrest

theorem Descending.head_eq_none_iff {key : α → κ} (order : Descending key) {l : List α} :
    (order.sort l).head? = none ↔ l = [] := by
  rw [List.head?_eq_none_iff]
  constructor
  · intro h
    exact List.nil_perm.mp (h ▸ order.perm l)
  · rintro rfl
    exact List.perm_nil.mp (order.perm [])

/-- An item that meets `p` and has the greatest key leaves no other one the first place. -/
theorem Descending.head_favoring {key : α → κ} {p : α → Bool} {l : List α} {a b : α}
    (h : ((favoring key p).sort l).head? = some a) (hb : b ∈ l) (hp : p b = true)
    (hkey : key a ≤ key b) : p a = true := by
  obtain ⟨rest, hsort⟩ := List.head?_eq_some_iff.mp h
  rcases List.mem_cons.mp (hsort ▸ ((favoring key p).perm l).mem_iff.mpr hb) with rfl | hrest
  · exact hp
  · have hsorted : ((favoring key p).sort l).Pairwise fun a b => favors key p a b = true :=
      List.pairwise_mergeSort favors_trans favors_total l
    rw [hsort, List.pairwise_cons] at hsorted
    rcases of_decide_eq_true (hsorted.1 b hrest) with hlt | ⟨-, hpa | hpb⟩
    · exact absurd hkey (not_le.mpr hlt)
    · exact hpa
    · exact absurd hp (by simp [hpb])

section

variable {key : α → κ} (order : Descending key) (limit : Nat)

def page (l : List α) : List α := ((order.sort l).take limit).reverse

def older (key : α → κ) (k : κ) (l : List α) : List α := l.filter fun a => key a < k

/-- The pages of a list, newest page first; `none` when the fuel runs out. -/
def walk : (fuel : Nat) → List α → Option (List (List α))
  | 0, _ => none
  | fuel + 1, rest =>
    match page order limit rest with
    | [] => some []
    | oldest :: later =>
      (walk fuel (older key (key oldest) rest)).map fun pages => (oldest :: later) :: pages

def Complete (l : List α) : Prop :=
  ∃ fuel pages, walk order limit fuel l = some pages ∧ pages.reverse.flatten.Perm l ∧
    pages.reverse.flatten.Pairwise fun a b => key a ≤ key b

end

/-- How many items have a greater key, and how many one that is not smaller. -/
def newer (key : α → κ) (l : List α) (k : κ) : Nat := l.countP fun a => k < key a

def notOlder (key : α → κ) (l : List α) (k : κ) : Nat := l.countP fun a => k ≤ key a

/-- No boundary between full pages has items of one key on both of its sides. -/
def Unsplit (key : α → κ) (limit : Nat) (l : List α) : Prop :=
  ∀ a ∈ l, ∀ n, newer key l (key a) < n * limit → notOlder key l (key a) ≤ n * limit

/-! ### One page -/

section

variable {key : α → κ} {order : Descending key} {limit : Nat} {rest later : List α} {oldest : α}

theorem page_eq_nil_iff (hlimit : 0 < limit) : page order limit rest = [] ↔ rest = [] := by
  unfold page
  rw [List.reverse_eq_nil_iff, List.take_eq_nil_iff]
  constructor
  · rintro (hzero | hnil)
    · omega
    · exact (List.nil_perm.mp (hnil ▸ order.perm rest))
  · rintro rfl
    exact Or.inr (List.perm_nil.mp (order.perm []))

theorem take_eq (hpage : page order limit rest = oldest :: later) :
    (order.sort rest).take limit = later.reverse ++ [oldest] := by
  have h := congrArg List.reverse hpage
  rw [page, List.reverse_reverse, List.reverse_cons] at h
  exact h

theorem rest_perm (hpage : page order limit rest = oldest :: later) :
    rest.Perm ((later.reverse ++ [oldest]) ++ (order.sort rest).drop limit) := by
  rw [← take_eq hpage, List.take_append_drop]
  exact (order.perm rest).symm

theorem le_of_mem_later (hpage : page order limit rest = oldest :: later) {a : α}
    (ha : a ∈ later.reverse ++ [oldest]) : key oldest ≤ key a := by
  have hsorted := (order.sorted rest).sublist (List.take_sublist limit _)
  rw [take_eq hpage, List.pairwise_append] at hsorted
  rcases List.mem_append.mp ha with hlater | hsame
  · exact hsorted.2.2 a hlater oldest (List.mem_singleton_self _)
  · rw [List.mem_singleton.mp hsame]

theorem le_of_mem_drop (hpage : page order limit rest = oldest :: later) {a : α}
    (ha : a ∈ (order.sort rest).drop limit) : key a ≤ key oldest := by
  have hsorted := order.sorted rest
  rw [← List.take_append_drop limit (order.sort rest), take_eq hpage, List.pairwise_append]
    at hsorted
  exact hsorted.2.2 oldest (List.mem_append_right _ (List.mem_singleton_self _)) a ha

theorem mem_of_page (hpage : page order limit rest = oldest :: later) : oldest ∈ rest :=
  (rest_perm hpage).mem_iff.mpr (List.mem_append_left _
    (List.mem_append_right _ (List.mem_singleton_self _)))

theorem length_page (hpage : page order limit rest = oldest :: later)
    (hdrop : (order.sort rest).drop limit ≠ []) : (later.reverse ++ [oldest]).length = limit := by
  rw [← take_eq hpage, List.length_take]
  have hlong : limit < (order.sort rest).length := by
    by_contra hnot
    exact hdrop (List.drop_eq_nil_of_le (Nat.le_of_not_lt hnot))
  omega

theorem pairwise_page (hpage : page order limit rest = oldest :: later) :
    (oldest :: later).Pairwise fun a b => key a ≤ key b := by
  have hsorted := (order.sorted rest).sublist (List.take_sublist limit _)
  rw [← hpage, page, List.pairwise_reverse]
  exact hsorted

theorem older_perm (hpage : page order limit rest = oldest :: later)
    (hbetween : ∀ a ∈ (order.sort rest).drop limit, key a < key oldest) :
    (older key (key oldest) rest).Perm ((order.sort rest).drop limit) := by
  unfold older
  have hperm := (rest_perm hpage).filter fun a => decide (key a < key oldest)
  have hpageGone :
      (later.reverse ++ [oldest]).filter (fun a => decide (key a < key oldest)) = [] := by
    rw [List.filter_eq_nil_iff]
    intro a ha
    rw [decide_eq_true_iff]
    exact not_lt.mpr (le_of_mem_later hpage ha)
  have hdropKept : ((order.sort rest).drop limit).filter (fun a => decide (key a < key oldest)) =
      (order.sort rest).drop limit := by
    rw [List.filter_eq_self]
    intro a ha
    exact decide_eq_true (hbetween a ha)
  rw [List.filter_append, hpageGone, hdropKept, List.nil_append] at hperm
  exact hperm

theorem length_older_lt (hpage : page order limit rest = oldest :: later) :
    (older key (key oldest) rest).length < rest.length := by
  unfold older
  refine List.length_filter_lt_length_iff_exists.mpr ⟨oldest, mem_of_page hpage, ?_⟩
  rw [decide_eq_true_iff]
  exact lt_irrefl _

/-! ### The boundary of a page -/

theorem split_of_mem_drop (hpage : page order limit rest = oldest :: later) {a : α}
    (ha : a ∈ (order.sort rest).drop limit) (hsame : key a = key oldest) :
    newer key rest (key oldest) < limit ∧ limit < notOlder key rest (key oldest) := by
  have hlength := length_page hpage (List.ne_nil_of_mem ha)
  have hperm := rest_perm hpage
  constructor
  · unfold newer
    rw [hperm.countP_eq, List.countP_append]
    have hdrop :
        ((order.sort rest).drop limit).countP (fun b => decide (key oldest < key b)) = 0 := by
      rw [List.countP_eq_zero]
      intro b hb
      rw [decide_eq_true_iff]
      exact not_lt.mpr (le_of_mem_drop hpage hb)
    rw [hdrop, List.countP_append, List.countP_singleton, if_neg (by simp)]
    have hle := List.countP_le_length (p := fun b => decide (key oldest < key b))
      (l := later.reverse)
    rw [List.length_append, List.length_singleton] at hlength
    omega
  · unfold notOlder
    rw [hperm.countP_eq, List.countP_append]
    have hfull : (later.reverse ++ [oldest]).countP (fun b => decide (key oldest ≤ key b)) =
        (later.reverse ++ [oldest]).length := by
      rw [List.countP_eq_length]
      intro b hb
      exact decide_eq_true (le_of_mem_later hpage hb)
    have hone : 0 < ((order.sort rest).drop limit).countP
        (fun b => decide (key oldest ≤ key b)) := by
      rw [List.countP_pos_iff]
      exact ⟨a, ha, decide_eq_true hsame.ge⟩
    omega

theorem length_older (key : α → κ) (k : κ) (l : List α) :
    (older key k l).length + notOlder key l k = l.length := by
  unfold older notOlder
  rw [← List.countP_eq_length_filter,
    List.length_eq_countP_add_countP fun a => decide (key a < k)]
  congr 1
  refine List.countP_congr fun a _ => ?_
  rw [decide_eq_true_iff, decide_eq_true_iff, decide_eq_true_iff]
  exact not_lt.symm

section

variable (hpage : page order limit rest = oldest :: later)
  (hbetween : ∀ a ∈ (order.sort rest).drop limit, key a < key oldest)
include hpage hbetween

theorem countP_eq_add_older (p : α → Bool) : rest.countP p =
    (later.reverse ++ [oldest]).countP p + (older key (key oldest) rest).countP p := by
  rw [(rest_perm hpage).countP_eq, List.countP_append, (older_perm hpage hbetween).countP_eq]

theorem counts_older {a : α} (ha : a ∈ older key (key oldest) rest) :
    newer key rest (key a) = limit + newer key (older key (key oldest) rest) (key a) ∧
      notOlder key rest (key a) = limit + notOlder key (older key (key oldest) rest) (key a) := by
  have hdrop := (older_perm hpage hbetween).mem_iff.mp ha
  have hfull := length_page hpage (List.ne_nil_of_mem hdrop)
  have hlt := hbetween a hdrop
  constructor
  · unfold newer
    rw [countP_eq_add_older hpage hbetween, List.countP_eq_length.mpr, hfull]
    intro b hb
    exact decide_eq_true (hlt.trans_le (le_of_mem_later hpage hb))
  · unfold notOlder
    rw [countP_eq_add_older hpage hbetween, List.countP_eq_length.mpr, hfull]
    intro b hb
    exact decide_eq_true (hlt.le.trans (le_of_mem_later hpage hb))

theorem notOlder_le_of_le {a : α} (hge : key oldest ≤ key a) :
    notOlder key rest (key a) ≤ limit := by
  have hnone : (older key (key oldest) rest).countP (fun b => decide (key a ≤ key b)) = 0 := by
    rw [List.countP_eq_zero]
    intro b hb
    rw [decide_eq_true_iff]
    have hb' := of_decide_eq_true (List.mem_filter.mp hb).2
    exact not_le.mpr (hb'.trans_le hge)
  have hle := List.countP_le_length (p := fun b => decide (key a ≤ key b))
    (l := later.reverse ++ [oldest])
  have hlength : (later.reverse ++ [oldest]).length ≤ limit := by
    rw [← take_eq hpage]
    exact List.length_take_le _ _
  unfold notOlder
  rw [countP_eq_add_older hpage hbetween, hnone]
  omega

/-- A boundary between two keys: the items left are as many pages away as before, less one. -/
theorem unsplit_older_iff :
    Unsplit key limit rest ↔ Unsplit key limit (older key (key oldest) rest) := by
  constructor
  · intro h a ha n hn
    obtain ⟨hnew, hnot⟩ := counts_older hpage hbetween ha
    have hrest := h a (List.mem_of_mem_filter ha) (n + 1)
    rw [hnew, hnot, Nat.succ_mul] at hrest
    have := hrest (by omega)
    omega
  · intro h a ha n hn
    have hpos : n ≠ 0 := by
      rintro rfl
      rw [Nat.zero_mul] at hn
      exact absurd hn (Nat.not_lt_zero _)
    obtain ⟨n, rfl⟩ := Nat.exists_eq_succ_of_ne_zero hpos
    by_cases hold : a ∈ older key (key oldest) rest
    · obtain ⟨hnew, hnot⟩ := counts_older hpage hbetween hold
      rw [hnew, Nat.succ_mul] at hn
      rw [hnot, Nat.succ_mul]
      have := h a hold n (by omega)
      omega
    · have hge : key oldest ≤ key a := by
        by_contra hlt
        exact hold (List.mem_filter.mpr ⟨ha, decide_eq_true (not_le.mp hlt)⟩)
      have hle := notOlder_le_of_le hpage hbetween hge
      rw [Nat.succ_mul]
      omega

end

end

/-! ### Walks -/

section

variable {key : α → κ} {order : Descending key} {limit : Nat}

theorem walk_isSome (order : Descending key) (limit : Nat) : ∀ (fuel : Nat) (l : List α),
    l.length < fuel → (walk order limit fuel l).isSome = true
  | 0, _, h => absurd h (Nat.not_lt_zero _)
  | fuel + 1, l, h => by
    rw [walk]
    cases hpage : page order limit l with
    | nil => rfl
    | cons oldest later =>
      simp only [Option.isSome_map]
      have hshort := length_older_lt hpage
      exact walk_isSome order limit fuel _ (by omega)

theorem length_walk_le (fuel : Nat) : ∀ {l : List α} {pages : List (List α)},
    walk order limit fuel l = some pages → pages.flatten.length ≤ l.length := by
  induction fuel with
  | zero =>
    intro l pages h
    cases h
  | succ fuel ih =>
    intro l pages h
    rw [walk] at h
    cases hpage : page order limit l with
    | nil =>
      rw [hpage] at h
      cases h
      exact Nat.zero_le _
    | cons oldest later =>
      rw [hpage] at h
      obtain ⟨pages', hwalk, rfl⟩ := Option.map_eq_some_iff.mp h
      have hbehind := ih hwalk
      have hsplit := length_older key (key oldest) l
      have hpageLength : (oldest :: later).length ≤ notOlder key l (key oldest) := by
        unfold notOlder
        rw [(rest_perm hpage).countP_eq, List.countP_append, List.countP_eq_length.mpr]
        · simp only [List.length_append, List.length_reverse, List.length_cons, List.length_nil]
          omega
        · intro b hb
          exact decide_eq_true (le_of_mem_later hpage hb)
      rw [List.flatten_cons, List.length_append]
      omega

theorem mem_of_mem_walk (fuel : Nat) : ∀ {l : List α} {pages : List (List α)},
    walk order limit fuel l = some pages → ∀ a ∈ pages.flatten, a ∈ l := by
  induction fuel with
  | zero =>
    intro l pages h
    cases h
  | succ fuel ih =>
    intro l pages h a ha
    rw [walk] at h
    cases hpage : page order limit l with
    | nil =>
      rw [hpage] at h
      cases h
      cases ha
    | cons oldest later =>
      rw [hpage] at h
      obtain ⟨pages', hwalk, rfl⟩ := Option.map_eq_some_iff.mp h
      rw [List.flatten_cons, List.mem_append] at ha
      rcases ha with hin | hbehind
      · rw [← hpage, page, List.mem_reverse] at hin
        exact (order.perm l).mem_iff.mp (List.mem_of_mem_take hin)
      · exact List.mem_of_mem_filter (ih hwalk a hbehind)

theorem complete_step {l : List α} {oldest : α} {later : List α}
    (hpage : page order limit l = oldest :: later)
    (hbetween : ∀ a ∈ (order.sort l).drop limit, key a < key oldest) {pages : List (List α)} :
    (((oldest :: later) :: pages).reverse.flatten.Perm l ∧
        ((oldest :: later) :: pages).reverse.flatten.Pairwise fun a b => key a ≤ key b) ↔
      pages.reverse.flatten.Perm (older key (key oldest) l) ∧
        pages.reverse.flatten.Pairwise fun a b => key a ≤ key b := by
  have hflatten : ((oldest :: later) :: pages).reverse.flatten =
      pages.reverse.flatten ++ (oldest :: later) := by
    rw [List.reverse_cons, List.flatten_append, List.flatten_singleton]
  have hsame : (later.reverse ++ [oldest]).Perm (oldest :: later) := by
    rw [← List.reverse_cons]
    exact List.reverse_perm _
  have hrest : l.Perm (older key (key oldest) l ++ (oldest :: later)) := by
    refine (rest_perm hpage).trans (List.perm_append_comm.trans ?_)
    exact (older_perm hpage hbetween).symm.append hsame
  rw [hflatten]
  constructor
  · rintro ⟨hperm, hsorted⟩
    exact ⟨(List.perm_append_right_iff _).mp (hperm.trans hrest),
      (List.pairwise_append.mp hsorted).1⟩
  · rintro ⟨hperm, hsorted⟩
    refine ⟨(hperm.append_right _).trans hrest.symm, ?_⟩
    rw [List.pairwise_append]
    refine ⟨hsorted, pairwise_page hpage, ?_⟩
    intro a ha b hb
    have hlt := of_decide_eq_true (List.mem_filter.mp (hperm.mem_iff.mp ha)).2
    exact hlt.le.trans (le_of_mem_later hpage (hsame.mem_iff.mpr hb))

theorem walk_complete_iff (hlimit : 0 < limit) (fuel : Nat) :
    ∀ {l : List α} {pages : List (List α)}, walk order limit fuel l = some pages →
      ((pages.reverse.flatten.Perm l ∧
          pages.reverse.flatten.Pairwise fun a b => key a ≤ key b) ↔ Unsplit key limit l) := by
  induction fuel with
  | zero =>
    intro l pages h
    cases h
  | succ fuel ih =>
    intro l pages h
    rw [walk] at h
    cases hpage : page order limit l with
    | nil =>
      obtain rfl := (page_eq_nil_iff hlimit).mp hpage
      rw [hpage] at h
      cases h
      refine iff_of_true ⟨List.Perm.refl _, List.Pairwise.nil⟩ ?_
      intro a ha
      cases ha
    | cons oldest later =>
      rw [hpage] at h
      obtain ⟨pages', hwalk, rfl⟩ := Option.map_eq_some_iff.mp h
      by_cases hbetween : ∀ a ∈ (order.sort l).drop limit, key a < key oldest
      · rw [complete_step hpage hbetween, ih hwalk]
        exact (unsplit_older_iff hpage hbetween).symm
      · -- an item of the last key of the page is never reached
        obtain ⟨a, ha, hnot⟩ : ∃ a ∈ (order.sort l).drop limit, ¬ key a < key oldest := by
          by_contra hnone
          exact hbetween fun a ha => by_contra fun hnot => hnone ⟨a, ha, hnot⟩
        have hsame := le_antisymm (le_of_mem_drop hpage ha) (not_lt.mp hnot)
        obtain ⟨hnewer, hmore⟩ := split_of_mem_drop hpage ha hsame
        refine iff_of_false ?_ ?_
        · rintro ⟨hperm, -⟩
          have htotal := hperm.length_eq
          rw [List.reverse_cons, List.flatten_append, List.flatten_singleton, List.length_append,
            (List.reverse_perm pages').flatten.length_eq] at htotal
          have hbehind := length_walk_le fuel hwalk
          have hsplit := length_older key (key oldest) l
          have hfull := length_page hpage (List.ne_nil_of_mem ha)
          rw [List.length_append, List.length_reverse, List.length_singleton] at hfull
          rw [List.length_cons] at htotal
          omega
        · intro hunsplit
          have hle := hunsplit oldest (mem_of_page hpage) 1 (by omega)
          omega

/-- **Paging.**  Every item is returned once and in order exactly when no boundary between full
    pages falls inside a group of one key. -/
theorem complete_iff (hlimit : 0 < limit) (l : List α) :
    Complete order limit l ↔ Unsplit key limit l := by
  constructor
  · rintro ⟨fuel, pages, hwalk, hcomplete⟩
    exact (walk_complete_iff hlimit fuel hwalk).mp hcomplete
  · intro hunsplit
    obtain ⟨pages, hwalk⟩ := Option.isSome_iff_exists.mp
      (walk_isSome order limit (l.length + 1) l (Nat.lt_succ_self _))
    exact ⟨_, pages, hwalk, (walk_complete_iff hlimit _ hwalk).mpr hunsplit⟩

end

end KeysetPaging
