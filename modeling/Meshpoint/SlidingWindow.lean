import Mathlib.Algebra.Order.Group.Defs
import Mathlib.Algebra.Order.Group.Unbundled.Basic
import Mathlib.Data.List.TakeWhile

/-!
# Sliding windows

Queues of dated entries, oldest first, that are pruned from the old end, and windows of a fixed
length over the times of a log.
-/

namespace SlidingWindow

/-! ### Pruning from the old end -/

section

variable {α : Type*} {p : α → Bool} {l : List α}

/-- Where everything before a dropped entry is dropped, dropping from the old end keeps the
    entries that are not to be dropped. -/
theorem dropWhile_eq_filter (h : l.Pairwise fun a b => p b = true → p a = true) :
    l.dropWhile p = l.filter fun a => !p a := by
  induction l with
  | nil => rfl
  | cons x l ih =>
    rw [List.pairwise_cons] at h
    rw [List.dropWhile_cons]
    cases hx : p x with
    | true => rw [if_pos rfl, ih h.2, List.filter_cons_of_neg (by simp [hx])]
    | false =>
      have hkeep : ∀ a ∈ x :: l, (!p a) = true := by
        intro a ha
        rw [List.mem_cons] at ha
        rcases ha with rfl | ha
        · rw [hx]
          rfl
        · cases hpa : p a with
          | true => exact absurd (h.1 a ha hpa) (by simp [hx])
          | false => rfl
      rw [if_neg Bool.false_ne_true]
      exact (List.filter_eq_self.mpr hkeep).symm

/-- Where everything after a kept entry is not kept, keeping from the front is filtering. -/
theorem takeWhile_eq_filter (h : l.Pairwise fun a b => p b = true → p a = true) :
    l.takeWhile p = l.filter p := by
  induction l with
  | nil => rfl
  | cons x l ih =>
    rw [List.pairwise_cons] at h
    cases hx : p x with
    | true => rw [List.takeWhile_cons_of_pos hx, List.filter_cons_of_pos hx, ih h.2]
    | false =>
      have hnone : ∀ a ∈ x :: l, ¬ p a = true := by
        intro a ha hpa
        rw [List.mem_cons] at ha
        rcases ha with rfl | ha
        · rw [hx] at hpa
          cases hpa
        · have hpx := h.1 a ha hpa
          rw [hx] at hpx
          cases hpx
      rw [List.takeWhile_cons_of_neg (by simp [hx]), List.filter_eq_nil_iff.mpr hnone]

theorem reverse_dropWhile (h : l.Pairwise fun a b => p b = true → p a = true) :
    (l.dropWhile p).reverse = l.reverse.takeWhile fun a => !p a := by
  have hrev : l.reverse.Pairwise fun a b => (!p b) = true → (!p a) = true := by
    rw [List.pairwise_reverse]
    apply h.imp
    intro a b hab hb
    cases hpb : p b with
    | true =>
      rw [hab hpb] at hb
      exact hb
    | false => rfl
  rw [dropWhile_eq_filter h, takeWhile_eq_filter hrev, List.filter_reverse]

end

/-! ### Windows -/

/-- Which of its ends a window has. -/
inductive Ends where
  | closed
  | leftOpen
  | rightOpen
deriving DecidableEq, Repr

section

variable {T : Type*} [AddCommGroup T] [LinearOrder T] [IsOrderedAddMonoid T]

/-- The time lies in the window of the given length from `start` on. -/
def Ends.Inside (ends : Ends) (start length t : T) : Prop :=
  match ends with
  | .closed => start ≤ t ∧ t ≤ start + length
  | .leftOpen => start < t ∧ t ≤ start + length
  | .rightOpen => start ≤ t ∧ t < start + length

instance : ∀ (ends : Ends) (start length t : T), Decidable (ends.Inside start length t)
  | .closed, _, _, _ => inferInstanceAs (Decidable (_ ∧ _))
  | .leftOpen, _, _, _ => inferInstanceAs (Decidable (_ ∧ _))
  | .rightOpen, _, _, _ => inferInstanceAs (Decidable (_ ∧ _))

variable {start length s t : T}

theorem sub_le_of_inside (hs : Ends.closed.Inside start length s)
    (ht : Ends.closed.Inside start length t) : t - length ≤ s :=
  (sub_le_iff_le_add.mpr ht.2).trans hs.1

theorem sub_lt_of_inside {ends : Ends} (hopen : ends ≠ .closed)
    (hs : ends.Inside start length s) (ht : ends.Inside start length t) : t - s < length := by
  rw [sub_lt_comm]
  cases ends with
  | closed => exact absurd rfl hopen
  | leftOpen => exact (sub_le_iff_le_add.mpr ht.2).trans_lt hs.1
  | rightOpen => exact (sub_lt_iff_lt_add.mpr ht.2).trans_le hs.1

/-- A window that lacks one end and has `t` and every listed time less than its length before
    `t`. -/
theorem exists_inside {ends : Ends} (hopen : ends ≠ .closed) (hpos : 0 < length) (times : List T)
    (hpast : ∀ s ∈ times, s ≤ t) :
    ∃ start, ends.Inside start length t ∧
      ∀ s ∈ times, t - s < length → ends.Inside start length s := by
  cases ends with
  | closed => exact absurd rfl hopen
  | leftOpen =>
    refine ⟨t - length, ⟨sub_lt_self t hpos, (sub_add_cancel t length).ge⟩, ?_⟩
    intro s hs hnear
    exact ⟨sub_lt_comm.mp hnear, (hpast s hs).trans (sub_add_cancel t length).ge⟩
  | rightOpen =>
    have hstart : ∃ start, t - length < start ∧ start ≤ t ∧
        ∀ s ∈ times, t - s < length → start ≤ s := by
      clear hpast
      induction times with
      | nil => exact ⟨t, sub_lt_self t hpos, le_refl t, List.forall_mem_nil _⟩
      | cons s times ih =>
        obtain ⟨start, hlow, hhigh, hall⟩ := ih
        by_cases hnear : t - s < length
        · refine ⟨min start s, lt_min hlow (sub_lt_comm.mp hnear), (min_le_left _ _).trans hhigh, ?_⟩
          rw [List.forall_mem_cons]
          exact ⟨fun _ => min_le_right _ _, fun r hr h => (min_le_left _ _).trans (hall r hr h)⟩
        · refine ⟨start, hlow, hhigh, ?_⟩
          rw [List.forall_mem_cons]
          exact ⟨fun h => absurd h hnear, hall⟩
    obtain ⟨start, hlow, hhigh, hall⟩ := hstart
    have hend : t < start + length := sub_lt_iff_lt_add.mp hlow
    exact ⟨start, ⟨hhigh, hend⟩, fun s hs hnear =>
      ⟨hall s hs hnear, (hpast s hs).trans_lt hend⟩⟩

end

end SlidingWindow
