import Mathlib.Data.Rat.Floor
import Meshpoint.DutyCycle

/-!
# Sequential use of the duty-cycle tracker

Runs of calls of one `DutyCycleTracker`: budget tests, records of what was just accepted, and
readings of the usage (`current_usage_percent`, `remaining_budget_ms`), which prune as well.  The
limit is the one the tracker was built with.
-/

namespace Meshpoint.BudgetSequence

open GuardedRun DutyCycle

/-! ### Calls -/

/-- `int(...)` of an exact number: towards zero. -/
def toInt (q : ℚ) : Int := q.num.tdiv q.den

/-- `remaining_budget_ms`. -/
def remainingBudgetMs (tracker : DutyCycleTracker) (now : ℚ) : Int :=
  let pruned := tracker.pruneExpired now
  let currentMs := totalMs pruned.records
  let maxMs := toInt (pruned.windowMs * pruned.maxDutyPercent / 100)
  max 0 (maxMs - currentMs)

/-- A call, with the reading of the clock. -/
inductive Call where
  | checkBudget (now : ℚ) (airtimeMs : Nat)
  | recordTx (now : ℚ) (airtimeMs : Nat)
  | read (now : ℚ)

/-- The tracker, the last reading of the clock, the budget test that has just been accepted, and
    everything recorded so far. -/
structure State where
  tracker : DutyCycleTracker
  lastNow : Option ℚ
  accepted : Option TxRecord
  recorded : List TxRecord

def InOrder (s : State) (now : ℚ) : Prop := ∀ t ∈ s.lastNow, t ≤ now

instance (s : State) (now : ℚ) : Decidable (InOrder s now) :=
  inferInstanceAs (Decidable (∀ t ∈ s.lastNow, _))

/-- An airtime is recorded only where it was just accepted, at the same time. -/
def step (s : State) : Call → Option State
  | .checkBudget now airtimeMs =>
    if InOrder s now then
      let (tracker, accepted) := s.tracker.checkBudget now airtimeMs
      some { s with
        tracker := tracker
        lastNow := some now
        accepted := if accepted then some ⟨now, airtimeMs⟩ else none }
    else none
  | .recordTx now airtimeMs =>
    if s.accepted = some ⟨now, airtimeMs⟩ then
      some { s with
        tracker := s.tracker.recordTx now airtimeMs
        accepted := none
        recorded := s.recorded ++ [⟨now, airtimeMs⟩] }
    else none
  | .read now =>
    if InOrder s now then
      some { s with
        tracker := s.tracker.pruneExpired now, lastNow := some now, accepted := none }
    else none

def initial (limits : DutyLimits) : State where
  tracker := { limits with records := [] }
  lastNow := none
  accepted := none
  recorded := []

/-! ### The budget -/

theorem natCast_le_toInt_iff {q : ℚ} (h : 0 ≤ q) (n : Nat) : (n : Int) ≤ toInt q ↔ (n : ℚ) ≤ q := by
  have hfloor : toInt q = ⌊q⌋ := by
    rw [Rat.floor_def', toInt, Int.tdiv_eq_ediv_of_nonneg (Rat.num_nonneg.mpr h)]
  rw [hfloor, Int.le_floor, Int.cast_natCast]

theorem totalMs_append (records : List TxRecord) (r : TxRecord) :
    totalMs (records ++ [r]) = totalMs records + r.airtimeMs := by
  unfold totalMs
  rw [weight_append, weight_cons, weight_nil, Nat.add_zero]

theorem totalMs_sublist {records records' : List TxRecord} (h : records.Sublist records') :
    totalMs records ≤ totalMs records' := by
  induction h with
  | slnil => exact Nat.le_refl _
  | cons r _ ih =>
    unfold totalMs at ih ⊢
    rw [weight_cons]
    exact ih.trans (Nat.le_add_left _ _)
  | cons_cons r _ ih =>
    unfold totalMs at ih ⊢
    rw [weight_cons, weight_cons]
    exact Nat.add_le_add_left ih _

theorem totalMs_pruneExpired_le (tracker : DutyCycleTracker) (now : ℚ) :
    totalMs (tracker.pruneExpired now).records ≤ totalMs tracker.records :=
  totalMs_sublist (List.dropWhile_sublist _)

/-! ### Runs -/

structure Inv (limits : DutyLimits) (s : State) : Prop where
  limits_eq : s.tracker.toDutyLimits = limits
  total : (totalMs s.tracker.records : ℚ) ≤ limits.ceilingMs
  /-- What was just accepted fits. -/
  room : ∀ r ∈ s.accepted, s.lastNow = some r.timestamp ∧
    ((totalMs s.tracker.records + r.airtimeMs : Nat) : ℚ) ≤ limits.budgetMs
  /-- The tracker forgets nothing that is still in the window. -/
  since : ∀ u, (∀ t ∈ s.lastNow, t - limits.windowSeconds ≤ u) →
    airtimeSince u s.tracker.records = airtimeSince u s.recorded
  windows : ∀ u, (airtimeBetween u (u + limits.windowSeconds) s.recorded : ℚ) ≤ limits.ceilingMs

theorem inv_initial (limits : DutyLimits) : Inv limits (initial limits) where
  limits_eq := rfl
  total := le_max_left _ _
  room := fun _ hr => by cases hr
  since := fun _ _ => rfl
  windows := fun _ => le_max_left _ _

section

variable {limits : DutyLimits} {s : State} {now : ℚ}

theorem Inv.since_pruneExpired (h : Inv limits s) (horder : InOrder s now) {u : ℚ}
    (hu : now - limits.windowSeconds ≤ u) :
    airtimeSince u (s.tracker.pruneExpired now).records = airtimeSince u s.recorded := by
  have hwindow : now - s.tracker.windowSeconds ≤ u := by
    rw [h.limits_eq]
    exact hu
  rw [airtimeSince_pruneExpired s.tracker hwindow]
  apply h.since u
  intro t ht
  exact (sub_le_sub_right (horder t ht) _).trans hu

theorem Inv.prune (h : Inv limits s) (horder : InOrder s now) {accepted : Option TxRecord}
    (hroom : ∀ r ∈ accepted, r.timestamp = now ∧
      ((totalMs (s.tracker.pruneExpired now).records + r.airtimeMs : Nat) : ℚ) ≤
        limits.budgetMs) :
    Inv limits { s with
      tracker := s.tracker.pruneExpired now, lastNow := some now, accepted := accepted } where
  limits_eq := h.limits_eq
  total := le_trans (by exact_mod_cast totalMs_pruneExpired_le s.tracker now) h.total
  room := fun r hr => ⟨congrArg some (hroom r hr).1.symm, (hroom r hr).2⟩
  since := fun u hu => h.since_pruneExpired horder (hu now rfl)
  windows := h.windows

theorem airtimeBetween_append (u v : ℚ) (records : List TxRecord) (r : TxRecord) :
    airtimeBetween u v (records ++ [r]) = airtimeBetween u v records + between u v r := by
  unfold airtimeBetween
  rw [weight_append, weight_cons, weight_nil, Nat.add_zero]

theorem airtimeSince_append (u : ℚ) (records : List TxRecord) (r : TxRecord) :
    airtimeSince u (records ++ [r]) = airtimeSince u records + since u r := by
  unfold airtimeSince
  rw [weight_append, weight_cons, weight_nil, Nat.add_zero]

theorem Inv.recordTx {r : TxRecord} (h : Inv limits s) (haccepted : s.accepted = some r) :
    Inv limits { s with
      tracker := s.tracker.recordTx r.timestamp r.airtimeMs
      accepted := none
      recorded := s.recorded ++ [r] } := by
  obtain ⟨hlast, hroom⟩ := h.room r haccepted
  have hceiling : ((totalMs s.tracker.records + r.airtimeMs : Nat) : ℚ) ≤ limits.ceilingMs :=
    hroom.trans (le_max_right _ _)
  have hgrown : totalMs (s.tracker.recordTx r.timestamp r.airtimeMs).records ≤
      totalMs s.tracker.records + r.airtimeMs := by
    rw [← totalMs_append]
    exact totalMs_sublist (List.dropWhile_sublist _)
  refine ⟨h.limits_eq, ?_, ?_, ?_, ?_⟩
  · exact le_trans (by exact_mod_cast hgrown) hceiling
  · intro r' hr'
    cases hr'
  · intro u hu
    have hwindow : r.timestamp - s.tracker.windowSeconds ≤ u := by
      rw [h.limits_eq]
      exact hu r.timestamp hlast
    let grown : DutyCycleTracker := { s.tracker with records := s.tracker.records ++ [r] }
    refine (airtimeSince_pruneExpired grown hwindow).trans ?_
    rw [airtimeSince_append, airtimeSince_append, h.since u hu]
  · intro u
    rw [airtimeBetween_append]
    by_cases hin : u ≤ r.timestamp ∧ r.timestamp ≤ u + limits.windowSeconds
    · -- everything else in the window is still in the tracker
      have hsince : airtimeSince u s.tracker.records = airtimeSince u s.recorded := by
        apply h.since u
        intro t ht
        rw [hlast] at ht
        cases ht
        exact sub_le_iff_le_add.mpr hin.2
      have hle : airtimeBetween u (u + limits.windowSeconds) s.recorded ≤
          totalMs s.tracker.records :=
        calc airtimeBetween u (u + limits.windowSeconds) s.recorded
            ≤ airtimeSince u s.recorded := airtimeBetween_le_airtimeSince u _ _
          _ = airtimeSince u s.tracker.records := hsince.symm
          _ ≤ totalMs s.tracker.records := airtimeSince_le_totalMs u _
      rw [between, if_pos hin]
      exact le_trans (by exact_mod_cast Nat.add_le_add_right hle _) hceiling
    · rw [between, if_neg hin, Nat.add_zero]
      exact h.windows u

theorem Inv.step {call : Call} {s' : State} (h : Inv limits s)
    (hstep : BudgetSequence.step s call = some s') : Inv limits s' := by
  cases call with
  | checkBudget now airtimeMs =>
    simp only [BudgetSequence.step] at hstep
    split at hstep
    · rename_i horder
      cases hstep
      apply h.prune horder
      intro r hr
      split at hr
      · rename_i hfits
        cases hr
        rw [DutyCycleTracker.checkBudget_iff, h.limits_eq] at hfits
        exact ⟨rfl, hfits⟩
      · cases hr
    · cases hstep
  | recordTx now airtimeMs =>
    simp only [BudgetSequence.step] at hstep
    split at hstep
    · rename_i haccepted
      cases hstep
      exact h.recordTx haccepted
    · cases hstep
  | read now =>
    simp only [BudgetSequence.step] at hstep
    split at hstep
    · rename_i horder
      cases hstep
      apply h.prune horder
      intro r hr
      cases hr
    · cases hstep

theorem Inv.of_reaches (h : Reaches BudgetSequence.step Always (initial limits) s) :
    Inv limits s :=
  h.invariant (I := Inv limits) (inv_initial limits) fun _ _ _ hs _ hstep => hs.step hstep

theorem Inv.checkBudget_iff (h : Inv limits s) (now : ℚ) (airtimeMs : Nat) :
    (s.tracker.checkBudget now airtimeMs).2 = true ↔
      0 ≤ limits.maxDutyPercent ∧ (airtimeMs : Int) ≤ remainingBudgetMs s.tracker now := by
  rw [DutyCycleTracker.checkBudget_iff, h.limits_eq]
  have hpos := limits.windowMs_pos
  have hsign : 0 ≤ limits.budgetMs ↔ 0 ≤ limits.maxDutyPercent := by
    unfold DutyLimits.budgetMs
    rw [le_div_iff₀ (by norm_num : (0 : ℚ) < 100), zero_mul, mul_nonneg_iff_of_pos_left hpos]
  rw [← hsign]
  have hremaining : remainingBudgetMs s.tracker now =
      max 0 (toInt limits.budgetMs - totalMs (s.tracker.pruneExpired now).records) := by
    unfold remainingBudgetMs
    simp only [DutyCycleTracker.pruneExpired_limits, h.limits_eq]
    rfl
  rw [hremaining]
  by_cases hbudget : 0 ≤ limits.budgetMs
  · have hspent : (totalMs (s.tracker.pruneExpired now).records : ℚ) ≤ limits.budgetMs := by
      have hle := totalMs_pruneExpired_le s.tracker now
      have htotal := h.total
      unfold DutyLimits.ceilingMs at htotal
      rw [max_eq_right hbudget] at htotal
      exact le_trans (by exact_mod_cast hle) htotal
    rw [← natCast_le_toInt_iff hbudget] at hspent ⊢
    rw [and_iff_right hbudget]
    omega
  · refine iff_of_false ?_ (fun h => hbudget h.1)
    intro hfits
    exact hbudget (le_trans (Nat.cast_nonneg _) hfits)

end

/-- **Sequential sends.**  In every run the airtime recorded in a window of the tracker's length
    is at most the limit, and a budget test accepts exactly what `remaining_budget_ms` says.  A
    negative limit admits nothing. -/
theorem sequential_airtime_le_limit (limits : DutyLimits) {s : State}
    (h : Reaches step Always (initial limits) s) :
    (∀ u, (airtimeBetween u (u + limits.windowSeconds) s.recorded : ℚ) ≤
        max 0 (limits.maxDutyPercent / 100 * limits.windowMs)) ∧
      ∀ now airtimeMs, (s.tracker.checkBudget now airtimeMs).2 = true ↔
        0 ≤ limits.maxDutyPercent ∧ (airtimeMs : Int) ≤ remainingBudgetMs s.tracker now := by
  have hinv := Inv.of_reaches h
  have hbudget : limits.ceilingMs = max 0 (limits.maxDutyPercent / 100 * limits.windowMs) := by
    unfold DutyLimits.ceilingMs DutyLimits.budgetMs
    rw [mul_comm limits.windowMs, mul_div_right_comm]
  exact ⟨fun u => hbudget ▸ hinv.windows u, hinv.checkBudget_iff⟩

def onePercent : DutyLimits := ⟨"EU_868", 1, 3600, hour_pos⟩

theorem sequential_airtime_le_limit_full :
    ∃ s, Reaches step Always (initial onePercent) s ∧
      airtimeBetween 0 3600 s.recorded = 36000 ∧
      (airtimeBetween 0 (0 + onePercent.windowSeconds) s.recorded : ℚ) ≤
        max 0 (onePercent.maxDutyPercent / 100 * onePercent.windowMs) := by
  obtain ⟨s, hrun, hsum⟩ : ∃ s, Reaches step Always (initial onePercent) s ∧
      airtimeBetween 0 3600 s.recorded = 36000 :=
    exists_reaches_of_replay
      [.checkBudget 0 20000, .recordTx 0 20000, .checkBudget 1800 16001, .checkBudget 3600 16000,
        .recordTx 3600 16000, .read 3600] (by decide +kernel)
  exact ⟨s, hrun, hsum, (sequential_airtime_le_limit onePercent hrun).1 0⟩

def negativeLimit : DutyLimits := ⟨"EU_868", -1, 3600, hour_pos⟩

/-- Under a negative limit even the airtime of no transmission is over it, and a test of nothing
    is refused although nothing remains. -/
theorem negative_limit_exceeded :
    Reaches step Always (initial negativeLimit) (initial negativeLimit) ∧
      ¬ (airtimeBetween 0 (0 + negativeLimit.windowSeconds) (initial negativeLimit).recorded : ℚ) ≤
        negativeLimit.maxDutyPercent / 100 * negativeLimit.windowMs ∧
      ((initial negativeLimit).tracker.checkBudget 0 0).2 = false ∧
      (0 : Int) ≤ remainingBudgetMs (initial negativeLimit).tracker 0 :=
  ⟨.refl, by decide +kernel, by decide +kernel, by decide +kernel⟩

end Meshpoint.BudgetSequence
