import Meshpoint.RelayManager
import Meshpoint.SlidingWindow

/-!
# The windows of the relay's rate limiter

Sequences of calls of `allow` (`src/relay/rate_limiter.py`).  The limiter keeps two bounds at
once: a number of transmissions in a minute and one in five seconds.  It forgets a transmission
when more than sixty seconds have gone by, and stops counting it to the burst when five have:
a window of a minute has both of its ends, a window of five seconds has one (`allow_lawful`).
-/

namespace Meshpoint.RateWindow

open RelayManager SlidingWindow

/-! ### Calls -/

/-- A call of `allow` with its answer. -/
structure Call where
  now : ℚ
  allowed : Bool
deriving DecidableEq

/-- The answers to calls at the given times, newest first, and the limiter they leave. -/
def answered (limiter : RateLimiter) : List ℚ → List Call × RateLimiter
  | [] => ([], limiter)
  | now :: earlier =>
    let (log, limiter) := answered limiter earlier
    let (allowed, limiter) := limiter.allow now
    (⟨now, allowed⟩ :: log, limiter)

/-- The clock does not go back; times are newest first. -/
def InOrder (times : List ℚ) : Prop := times.Pairwise fun later earlier => earlier ≤ later

instance (times : List ℚ) : Decidable (InOrder times) :=
  inferInstanceAs (Decidable (times.Pairwise _))

def accepted (ends : Ends) (start length : ℚ) (log : List Call) : Nat :=
  log.countP fun call => call.allowed && decide (ends.Inside start length call.now)

/-- At most `maxPerMinute` transmissions in any window of a minute and at most `burstSize` in any
    of five seconds.  No number of transmissions is negative. -/
def Bounded (maxPerMinute burstSize : Int) (minute burst : Ends) (log : List Call) : Prop :=
  ∀ start, (accepted minute start RateLimiter.WINDOW_SECONDS log : Int) ≤ max 0 maxPerMinute ∧
    (accepted burst start RateLimiter.BURST_SECONDS log : Int) ≤ max 0 burstSize

/-- After every call the bounds hold, and a call that was refused would have broken one. -/
def Lawful (maxPerMinute burstSize : Int) (minute burst : Ends) : List Call → Prop
  | [] => True
  | call :: earlier =>
    Lawful maxPerMinute burstSize minute burst earlier ∧
      Bounded maxPerMinute burstSize minute burst (call :: earlier) ∧
      (call.allowed = false →
        ¬ Bounded maxPerMinute burstSize minute burst (⟨call.now, true⟩ :: earlier))

/-! ### What the limiter keeps -/

def transmissions (log : List Call) : List ℚ := (log.filter Call.allowed).map Call.now

@[simp] theorem transmissions_allowed (now : ℚ) (log : List Call) :
    transmissions (⟨now, true⟩ :: log) = now :: transmissions log := rfl

@[simp] theorem transmissions_refused (now : ℚ) (log : List Call) :
    transmissions (⟨now, false⟩ :: log) = transmissions log := rfl

theorem accepted_eq (ends : Ends) (start length : ℚ) (log : List Call) :
    accepted ends start length log =
      (transmissions log).countP fun t => decide (ends.Inside start length t) := by
  unfold accepted transmissions
  rw [List.countP_map, List.countP_filter]
  apply List.countP_congr
  intro call _
  rw [Function.comp_apply, Bool.and_comm]

/-- Nothing in the log is later than `t`. -/
def Until (log : List Call) (t : ℚ) : Prop := ∀ call ∈ log, call.now ≤ t

/-- The log and the limiter that answered it. -/
structure Inv (maxPerMinute burstSize : Int) (log : List Call) (limiter : RateLimiter) : Prop where
  minute : limiter.maxPerMinute = maxPerMinute
  burst : limiter.burstSize = burstSize
  sorted : limiter.timestamps.Pairwise (· ≤ ·)
  kept : ∀ now, Until log now →
    (limiter.prune now).timestamps.reverse =
      (transmissions log).filter fun t => decide (now - RateLimiter.WINDOW_SECONDS ≤ t)

section

variable {maxPerMinute burstSize : Int} {log : List Call} {limiter : RateLimiter} {now later : ℚ}

theorem until_cons {allowed : Bool} :
    Until (⟨now, allowed⟩ :: log) later ↔ now ≤ later ∧ Until log later :=
  List.forall_mem_cons

theorem transmissions_le (h : Until log now) : ∀ t ∈ transmissions log, t ≤ now := by
  intro t ht
  unfold transmissions at ht
  obtain ⟨call, hcall, rfl⟩ := List.mem_map.mp ht
  exact h call (List.mem_of_mem_filter hcall)

theorem prune_timestamps (h : limiter.timestamps.Pairwise (· ≤ ·)) (now : ℚ) :
    (limiter.prune now).timestamps =
      limiter.timestamps.filter fun t => decide (now - RateLimiter.WINDOW_SECONDS ≤ t) := by
  have holder : limiter.timestamps.Pairwise fun a b =>
      decide (b < now - RateLimiter.WINDOW_SECONDS) = true →
        decide (a < now - RateLimiter.WINDOW_SECONDS) = true := by
    apply h.imp
    intro a b hab hb
    exact decide_eq_true (hab.trans_lt (of_decide_eq_true hb))
  refine (dropWhile_eq_filter holder).trans ?_
  apply List.filter_congr
  intro t _
  rw [← decide_not]
  exact decide_eq_decide.mpr not_lt

theorem filter_later (hle : now ≤ later) (times : List ℚ) :
    (times.filter fun t => decide (now - RateLimiter.WINDOW_SECONDS ≤ t)).filter
        (fun t => decide (later - RateLimiter.WINDOW_SECONDS ≤ t)) =
      times.filter fun t => decide (later - RateLimiter.WINDOW_SECONDS ≤ t) := by
  rw [List.filter_filter]
  apply List.filter_congr
  intro t _
  rw [Bool.and_eq_left_iff_imp]
  intro h
  exact decide_eq_true ((sub_le_sub_right hle _).trans (of_decide_eq_true h))

theorem allow_cases (limiter : RateLimiter) (now : ℚ) :
    (limiter.allow now = (false, limiter.prune now) ∧
      (limiter.maxPerMinute ≤ (limiter.prune now).timestamps.length ∨
        limiter.burstSize ≤ (limiter.prune now).timestamps.countP fun t =>
          decide (now - t < RateLimiter.BURST_SECONDS))) ∨
    (limiter.allow now = (true, { limiter.prune now with
        timestamps := (limiter.prune now).timestamps ++ [now] }) ∧
      (limiter.prune now).timestamps.length < limiter.maxPerMinute ∧
      ((limiter.prune now).timestamps.countP fun t =>
        decide (now - t < RateLimiter.BURST_SECONDS)) < limiter.burstSize) := by
  unfold RateLimiter.allow
  simp only
  split
  · rename_i hminute
    exact Or.inl ⟨rfl, Or.inl hminute⟩
  · rename_i hminute
    split
    · rename_i hburst
      exact Or.inl ⟨rfl, Or.inr hburst⟩
    · rename_i hburst
      exact Or.inr ⟨rfl, not_le.mp hminute, not_le.mp hburst⟩

theorem inv_init : Inv maxPerMinute burstSize []
    { maxPerMinute := maxPerMinute, burstSize := burstSize } where
  minute := rfl
  burst := rfl
  sorted := List.Pairwise.nil
  kept := fun _ _ => rfl

theorem Inv.call (h : Inv maxPerMinute burstSize log limiter) (huntil : Until log now) :
    Inv maxPerMinute burstSize (⟨now, (limiter.allow now).1⟩ :: log) (limiter.allow now).2 := by
  have hsorted : (limiter.prune now).timestamps.Pairwise (· ≤ ·) :=
    h.sorted.sublist (List.dropWhile_sublist _)
  have hkept := h.kept now huntil
  rcases allow_cases limiter now with ⟨heq, -⟩ | ⟨heq, -⟩
  · rw [heq]
    refine ⟨h.minute, h.burst, hsorted, ?_⟩
    intro later hlater
    obtain ⟨hle, -⟩ := until_cons.mp hlater
    rw [prune_timestamps hsorted, ← List.filter_reverse, hkept, transmissions_refused,
      filter_later hle]
  · rw [heq]
    have hpast : ∀ t ∈ (limiter.prune now).timestamps, t ≤ now := by
      intro t ht
      rw [← List.mem_reverse, hkept] at ht
      exact transmissions_le huntil t (List.mem_of_mem_filter ht)
    have hgrown : ((limiter.prune now).timestamps ++ [now]).Pairwise (· ≤ ·) := by
      rw [List.pairwise_append]
      refine ⟨hsorted, List.pairwise_singleton _ _, ?_⟩
      intro a ha b hb
      rw [List.mem_singleton] at hb
      subst hb
      exact hpast a ha
    refine ⟨h.minute, h.burst, hgrown, ?_⟩
    intro later hlater
    obtain ⟨hle, -⟩ := until_cons.mp hlater
    rw [prune_timestamps hgrown, ← List.filter_reverse, List.reverse_append, hkept,
      transmissions_allowed, List.reverse_singleton, List.singleton_append]
    rw [List.filter_cons, List.filter_cons, filter_later hle]

/-! ### One call against the bounds -/

theorem Inv.length_prune (h : Inv maxPerMinute burstSize log limiter) (huntil : Until log now) :
    (limiter.prune now).timestamps.length =
      (transmissions log).countP fun t => decide (now - RateLimiter.WINDOW_SECONDS ≤ t) := by
  rw [← List.length_reverse, h.kept now huntil, List.countP_eq_length_filter]

theorem Inv.countP_prune (h : Inv maxPerMinute burstSize log limiter) (huntil : Until log now) :
    ((limiter.prune now).timestamps.countP fun t =>
        decide (now - t < RateLimiter.BURST_SECONDS)) =
      (transmissions log).countP fun t => decide (now - t < RateLimiter.BURST_SECONDS) := by
  rw [← List.countP_reverse, h.kept now huntil, List.countP_filter]
  apply List.countP_congr
  intro t _
  rw [Bool.and_eq_true, decide_eq_true_iff, decide_eq_true_iff]
  refine ⟨fun h => h.1, fun h => ⟨h, ?_⟩⟩
  have hshort : RateLimiter.BURST_SECONDS ≤ RateLimiter.WINDOW_SECONDS := by decide
  rw [sub_le_comm]
  exact h.le.trans hshort

theorem accepted_refused (ends : Ends) (start length : ℚ) :
    accepted ends start length (⟨now, false⟩ :: log) = accepted ends start length log := by
  rw [accepted_eq, accepted_eq, transmissions_refused]

theorem accepted_of_outside {ends : Ends} {start length : ℚ} {allowed : Bool}
    (h : ¬ ends.Inside start length now) :
    accepted ends start length (⟨now, allowed⟩ :: log) = accepted ends start length log := by
  unfold accepted
  rw [List.countP_cons_of_neg (by simp [h])]

theorem accepted_of_inside {ends : Ends} {start length : ℚ} (h : ends.Inside start length now) :
    accepted ends start length (⟨now, true⟩ :: log) = accepted ends start length log + 1 := by
  unfold accepted
  rw [List.countP_cons_of_pos (by simp [h])]

theorem Inv.bounded_call {ends : Ends} (hopen : ends ≠ .closed)
    (h : Inv maxPerMinute burstSize log limiter) (huntil : Until log now)
    (hbounded : Bounded maxPerMinute burstSize .closed ends log) :
    Bounded maxPerMinute burstSize .closed ends (⟨now, (limiter.allow now).1⟩ :: log) := by
  intro start
  obtain ⟨hminute, hburst⟩ := hbounded start
  rcases allow_cases limiter now with ⟨heq, -⟩ | ⟨heq, hroom, hroomBurst⟩
  · rw [heq, accepted_refused, accepted_refused]
    exact ⟨hminute, hburst⟩
  · rw [heq]
    rw [h.length_prune huntil, h.minute] at hroom
    rw [h.countP_prune huntil, h.burst] at hroomBurst
    constructor
    · by_cases hin : Ends.closed.Inside start RateLimiter.WINDOW_SECONDS now
      · -- the other transmissions of the window are not older than a minute
        have hle : accepted .closed start RateLimiter.WINDOW_SECONDS log ≤
            (transmissions log).countP fun t =>
              decide (now - RateLimiter.WINDOW_SECONDS ≤ t) := by
          rw [accepted_eq]
          apply List.countP_mono_left
          intro t _ ht
          exact decide_eq_true (sub_le_of_inside (of_decide_eq_true ht) hin)
        rw [accepted_of_inside hin]
        omega
      · rw [accepted_of_outside hin]
        exact hminute
    · by_cases hin : ends.Inside start RateLimiter.BURST_SECONDS now
      · have hle : accepted ends start RateLimiter.BURST_SECONDS log ≤
            (transmissions log).countP fun t =>
              decide (now - t < RateLimiter.BURST_SECONDS) := by
          rw [accepted_eq]
          apply List.countP_mono_left
          intro t _ ht
          exact decide_eq_true (sub_lt_of_inside hopen (of_decide_eq_true ht) hin)
        rw [accepted_of_inside hin]
        omega
      · rw [accepted_of_outside hin]
        exact hburst

theorem Inv.not_bounded_of_refused {ends : Ends} (hopen : ends ≠ .closed)
    (h : Inv maxPerMinute burstSize log limiter) (huntil : Until log now)
    (hrefused : (limiter.allow now).1 = false) :
    ¬ Bounded maxPerMinute burstSize .closed ends (⟨now, true⟩ :: log) := by
  intro hbounded
  rcases allow_cases limiter now with ⟨-, hfull | hfull⟩ | ⟨heq, -⟩
  · -- the minute that ends now
    have hin : Ends.closed.Inside (now - RateLimiter.WINDOW_SECONDS)
        RateLimiter.WINDOW_SECONDS now := by
      refine ⟨sub_le_self now ?_, (sub_add_cancel now _).ge⟩
      decide
    have hle : ((transmissions log).countP fun t =>
          decide (now - RateLimiter.WINDOW_SECONDS ≤ t)) ≤
        accepted .closed (now - RateLimiter.WINDOW_SECONDS) RateLimiter.WINDOW_SECONDS log := by
      rw [accepted_eq]
      apply List.countP_mono_left
      intro t ht hnear
      refine decide_eq_true ⟨of_decide_eq_true hnear, ?_⟩
      exact (transmissions_le huntil t ht).trans (sub_add_cancel now _).ge
    have hbound := (hbounded (now - RateLimiter.WINDOW_SECONDS)).1
    rw [accepted_of_inside hin] at hbound
    rw [h.length_prune huntil, h.minute] at hfull
    omega
  · obtain ⟨start, hin, hall⟩ := exists_inside hopen
      (show 0 < RateLimiter.BURST_SECONDS by decide) (transmissions log) (transmissions_le huntil)
    have hle : ((transmissions log).countP fun t =>
          decide (now - t < RateLimiter.BURST_SECONDS)) ≤
        accepted ends start RateLimiter.BURST_SECONDS log := by
      rw [accepted_eq]
      apply List.countP_mono_left
      intro t ht hnear
      exact decide_eq_true (hall t ht (of_decide_eq_true hnear))
    have hbound := (hbounded start).2
    rw [accepted_of_inside hin] at hbound
    rw [h.countP_prune huntil, h.burst] at hfull
    omega
  · rw [heq] at hrefused
    cases hrefused

end

/-! ### Sequences of calls -/

section

variable {maxPerMinute burstSize : Int} {times : List ℚ}

theorem until_answered (limiter : RateLimiter) {t : ℚ} (h : ∀ time ∈ times, time ≤ t) :
    Until (answered limiter times).1 t := by
  induction times with
  | nil => exact List.forall_mem_nil _
  | cons now earlier ih =>
    rw [List.forall_mem_cons] at h
    exact until_cons.mpr ⟨h.1, ih h.2⟩

theorem inv_answered (h : InOrder times) :
    Inv maxPerMinute burstSize
      (answered { maxPerMinute := maxPerMinute, burstSize := burstSize } times).1
      (answered { maxPerMinute := maxPerMinute, burstSize := burstSize } times).2 := by
  induction times with
  | nil => exact inv_init
  | cons now earlier ih =>
    unfold InOrder at h
    rw [List.pairwise_cons] at h
    exact (ih h.2).call (until_answered _ h.1)

theorem bounded_nil (minute burst : Ends) : Bounded maxPerMinute burstSize minute burst [] :=
  fun _ => ⟨le_max_left _ _, le_max_left _ _⟩

theorem lawful_answered {ends : Ends} (hopen : ends ≠ .closed) (h : InOrder times) :
    let log := (answered { maxPerMinute := maxPerMinute, burstSize := burstSize } times).1
    Lawful maxPerMinute burstSize .closed ends log ∧
      Bounded maxPerMinute burstSize .closed ends log := by
  induction times with
  | nil => exact ⟨trivial, bounded_nil _ _⟩
  | cons now earlier ih =>
    unfold InOrder at h
    rw [List.pairwise_cons] at h
    obtain ⟨hlawful, hbounded⟩ := ih h.2
    have hinv : Inv maxPerMinute burstSize _ _ := inv_answered h.2
    have huntil := until_answered { maxPerMinute := maxPerMinute, burstSize := burstSize } h.1
    have hnext := hinv.bounded_call hopen huntil hbounded
    exact ⟨⟨hlawful, hnext, hinv.not_bounded_of_refused hopen huntil⟩, hnext⟩

end

/-- **The two windows.**  In every sequence of calls the bounds hold, over minutes with both
    ends and over five seconds with one, and a call is refused only when it would break one of
    them. -/
theorem allow_lawful (maxPerMinute burstSize : Int) {times : List ℚ} (h : InOrder times) :
    let log := (answered { maxPerMinute := maxPerMinute, burstSize := burstSize } times).1
    Lawful maxPerMinute burstSize .closed .leftOpen log ∧
      Lawful maxPerMinute burstSize .closed .rightOpen log :=
  ⟨(lawful_answered (by decide) h).1, (lawful_answered (by decide) h).1⟩

theorem allow_lawful_burst :
    InOrder [7, 5, 3, 0] ∧
      (answered { maxPerMinute := 20, burstSize := 2 } [7, 5, 3, 0]).1 =
        [⟨7, false⟩, ⟨5, true⟩, ⟨3, true⟩, ⟨0, true⟩] ∧
      Lawful 20 2 .closed .leftOpen
        (answered { maxPerMinute := 20, burstSize := 2 } [7, 5, 3, 0]).1 := by
  have horder : InOrder [7, 5, 3, 0] := by decide
  exact ⟨horder, by decide +kernel, (allow_lawful 20 2 horder).1⟩

theorem bounded_minute_apart {ends : Ends} (hopen : ends ≠ .closed) :
    Bounded 1 5 ends ends [⟨60, true⟩, ⟨0, true⟩] := by
  intro start
  constructor
  · have hone : accepted ends start RateLimiter.WINDOW_SECONDS [⟨60, true⟩, ⟨0, true⟩] ≤ 1 := by
      by_cases hin : ends.Inside start RateLimiter.WINDOW_SECONDS 0
      · have hout : ¬ ends.Inside start RateLimiter.WINDOW_SECONDS 60 := by
          intro hlast
          exact absurd (sub_lt_of_inside hopen hin hlast) (by decide +kernel)
        rw [accepted_of_outside hout]
        exact List.countP_le_length
      · unfold accepted
        rw [List.countP_cons, List.countP_cons_of_neg (by simp [hin]), List.countP_nil]
        split
        · exact Nat.le_refl 1
        · exact Nat.zero_le 1
    have hmax : max 0 (1 : Int) = 1 := rfl
    omega
  · have htwo : accepted ends start RateLimiter.BURST_SECONDS [⟨60, true⟩, ⟨0, true⟩] ≤ 2 :=
      List.countP_le_length
    have hmax : max 0 (5 : Int) = 5 := rfl
    omega

/-- With windows of one kind the bounds are not those of the code: a burst of one is exceeded at
    five seconds with both ends, and with one end the call after a minute need not be refused. -/
theorem one_kind_of_window_fails :
    ¬ Lawful 20 1 .closed .closed
        (answered { maxPerMinute := 20, burstSize := 1 } [5, 0]).1 ∧
      ¬ Lawful 1 5 .leftOpen .leftOpen
        (answered { maxPerMinute := 1, burstSize := 5 } [60, 0]).1 ∧
      ¬ Lawful 1 5 .rightOpen .rightOpen
        (answered { maxPerMinute := 1, burstSize := 5 } [60, 0]).1 := by
  have hboth : (answered { maxPerMinute := 20, burstSize := 1 } [5, 0]).1 =
      [⟨5, true⟩, ⟨0, true⟩] := by decide +kernel
  have hrefused : (answered { maxPerMinute := 1, burstSize := 5 } [60, 0]).1 =
      [⟨60, false⟩, ⟨0, true⟩] := by decide +kernel
  rw [hboth, hrefused]
  refine ⟨?_, ?_, ?_⟩
  · rintro ⟨-, hbounded, -⟩
    exact absurd (hbounded 0).2 (by decide +kernel)
  · rintro ⟨-, -, hbroken⟩
    exact hbroken rfl (bounded_minute_apart (by decide))
  · rintro ⟨-, -, hbroken⟩
    exact hbroken rfl (bounded_minute_apart (by decide))

end Meshpoint.RateWindow
