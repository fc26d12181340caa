import Mathlib.Algebra.Order.Field.Rat
import Mathlib.Tactic.Linarith
import Mathlib.Tactic.FieldSimp
import Meshpoint.GuardedRun
import Meshpoint.OrderedDict

/-!
# The duty-cycle tracker

Model of `src/transmit/duty_cycle.py`.  Time is the monotonic clock in exact
seconds, an airtime is the integer number of milliseconds the HAL reports, and
the percentage limit is an exact rational.

`checkBudget_iff` is the one fact callers use: the budget test accepts exactly
when the records left after pruning and the new airtime fit `budgetMs`.
-/

namespace Meshpoint.DutyCycle

open GuardedRun

/-- `DUTY_CYCLE_LIMITS`: the regulatory ceiling per region. -/
def DUTY_CYCLE_LIMITS : OrderedDict String ℚ :=
  OrderedDict.ofList
    [("US", 100), ("EU_868", 1), ("ANZ", 100), ("IN", 100), ("KR", 100), ("SG_923", 100)]

/-- `MESHPOINT_DUTY_DEFAULTS`: the out-of-the-box cap per region. -/
def MESHPOINT_DUTY_DEFAULTS : OrderedDict String ℚ :=
  OrderedDict.ofList
    [("US", 10), ("EU_868", 1), ("ANZ", 10), ("IN", 1), ("KR", 10), ("SG_923", 10)]

def DEFAULT_WINDOW_SECONDS : Nat := 3600

/-- The configured value wins; unknown regions fall back to 1 %. -/
def resolveMaxDutyPercent (region : String) (configured : Option ℚ) : ℚ :=
  match configured with
  | some value => value
  | none => (MESHPOINT_DUTY_DEFAULTS.get? region).getD 1

/-- A single transmission airtime record. -/
structure TxRecord where
  timestamp : ℚ
  airtimeMs : Nat
deriving DecidableEq

/-- The part of a tracker that never changes after construction.  Every tracker
    the program builds has a positive window. -/
structure DutyLimits where
  region : String
  maxDutyPercent : ℚ
  windowSeconds : Nat
  windowPos : 0 < windowSeconds

theorem hour_pos : 0 < 3600 := by decide

structure DutyCycleTracker extends DutyLimits where
  records : List TxRecord

/-- `DutyCycleTracker.__init__`. -/
def DutyCycleTracker.init (region : String) (maxDutyPercent : Option ℚ)
    (windowSeconds : Nat) (windowPos : 0 < windowSeconds) : DutyCycleTracker where
  region := region
  maxDutyPercent := maxDutyPercent.getD ((DUTY_CYCLE_LIMITS.get? region).getD 1)
  windowSeconds := windowSeconds
  windowPos := windowPos
  records := []

def totalMs (records : List TxRecord) : Nat := weight TxRecord.airtimeMs records

namespace DutyLimits

def windowMs (limits : DutyLimits) : ℚ := limits.windowSeconds * 1000

/-- `maxDutyPercent` of the window, in milliseconds. -/
def budgetMs (limits : DutyLimits) : ℚ := limits.windowMs * limits.maxDutyPercent / 100

/-- The airtime a window may carry: the budget, or nothing at all when the
    configured percentage is negative. -/
def ceilingMs (limits : DutyLimits) : ℚ := max 0 limits.budgetMs

theorem windowMs_pos (limits : DutyLimits) : 0 < limits.windowMs := by
  have h : (0 : ℚ) < limits.windowSeconds := by exact_mod_cast limits.windowPos
  unfold windowMs
  linarith

end DutyLimits

namespace DutyCycleTracker

/-- `_prune_expired`: pop records older than the rolling window off the left. -/
def pruneExpired (tracker : DutyCycleTracker) (now : ℚ) : DutyCycleTracker :=
  { tracker with
    records := tracker.records.dropWhile fun r =>
      decide (r.timestamp < now - tracker.windowSeconds) }

/-- `check_budget`, with the pruned tracker it leaves behind. -/
def checkBudget (tracker : DutyCycleTracker) (now : ℚ) (airtimeMs : Nat) :
    DutyCycleTracker × Bool :=
  let pruned := tracker.pruneExpired now
  let currentMs := totalMs pruned.records
  let projectedPercent := ((currentMs + airtimeMs : Nat) : ℚ) / pruned.windowMs * 100
  (pruned, decide (projectedPercent ≤ pruned.maxDutyPercent))

/-- `record_tx`; the usage log line at its end prunes again. -/
def recordTx (tracker : DutyCycleTracker) (now : ℚ) (airtimeMs : Nat) : DutyCycleTracker :=
  ({ tracker with records := tracker.records ++ [⟨now, airtimeMs⟩] } : DutyCycleTracker).pruneExpired
    now

@[simp] theorem pruneExpired_limits (tracker : DutyCycleTracker) (now : ℚ) :
    (tracker.pruneExpired now).toDutyLimits = tracker.toDutyLimits := rfl

@[simp] theorem checkBudget_fst (tracker : DutyCycleTracker) (now : ℚ) (a : Nat) :
    (tracker.checkBudget now a).1 = tracker.pruneExpired now := rfl

@[simp] theorem recordTx_limits (tracker : DutyCycleTracker) (now : ℚ) (a : Nat) :
    (tracker.recordTx now a).toDutyLimits = tracker.toDutyLimits := rfl

/-- **The budget test.**  It accepts exactly when the records still in the
    window and the new airtime fit the budget. -/
theorem checkBudget_iff (tracker : DutyCycleTracker) (now : ℚ) (a : Nat) :
    (tracker.checkBudget now a).2 = true ↔
      ((totalMs (tracker.pruneExpired now).records + a : Nat) : ℚ) ≤ tracker.budgetMs := by
  have hpos := tracker.windowMs_pos
  rw [checkBudget, decide_eq_true_iff]
  simp only [pruneExpired_limits]
  rw [div_mul_eq_mul_div, div_le_iff₀ hpos, DutyLimits.budgetMs,
    le_div_iff₀ (by norm_num : (0 : ℚ) < 100), mul_comm tracker.maxDutyPercent]

end DutyCycleTracker

/-! ### Airtime in a window -/

/-- The airtime of `r` if it is at or after `u`, else nothing. -/
def since (u : ℚ) (r : TxRecord) : Nat := if u ≤ r.timestamp then r.airtimeMs else 0

/-- The airtime of `r` if it lies in the closed window `[u, v]`, else nothing. -/
def between (u v : ℚ) (r : TxRecord) : Nat :=
  if u ≤ r.timestamp ∧ r.timestamp ≤ v then r.airtimeMs else 0

/-- Airtime recorded at or after `u`. -/
def airtimeSince (u : ℚ) (records : List TxRecord) : Nat := weight (since u) records

/-- Airtime recorded in the closed window `[u, v]`. -/
def airtimeBetween (u v : ℚ) (records : List TxRecord) : Nat := weight (between u v) records

theorem between_le_since (u v : ℚ) (r : TxRecord) : between u v r ≤ since u r := by
  unfold between since
  split
  · rename_i h; rw [if_pos h.1]
  · exact Nat.zero_le _

theorem since_le_airtimeMs (u : ℚ) (r : TxRecord) : since u r ≤ r.airtimeMs := by
  unfold since
  split
  · exact Nat.le_refl _
  · exact Nat.zero_le _

theorem airtimeBetween_le_airtimeSince (u v : ℚ) (records : List TxRecord) :
    airtimeBetween u v records ≤ airtimeSince u records :=
  weight_mono fun r _ => between_le_since u v r

theorem airtimeSince_le_totalMs (u : ℚ) (records : List TxRecord) :
    airtimeSince u records ≤ totalMs records :=
  weight_mono fun r _ => since_le_airtimeMs u r

theorem airtimeSince_eq_zero {u : ℚ} {records : List TxRecord}
    (h : ∀ r ∈ records, r.timestamp < u) : airtimeSince u records = 0 := by
  induction records with
  | nil => rfl
  | cons r records ih =>
    have hr : since u r = 0 := if_neg (not_le.mpr (h r (by simp)))
    have hrest := ih fun x hx => h x (by simp [hx])
    unfold airtimeSince at hrest ⊢
    simp only [weight_cons, hr, hrest]

theorem airtimeSince_pruneExpired (tracker : DutyCycleTracker) {now u : ℚ}
    (hu : now - tracker.windowSeconds ≤ u) :
    airtimeSince u (tracker.pruneExpired now).records = airtimeSince u tracker.records := by
  unfold DutyCycleTracker.pruneExpired airtimeSince
  simp only
  induction tracker.records with
  | nil => rfl
  | cons r records ih =>
    by_cases h : r.timestamp < now - tracker.windowSeconds
    · have hzero : since u r = 0 := if_neg (not_le.mpr (lt_of_lt_of_le h hu))
      rw [List.dropWhile_cons_of_pos (by simpa using h), ih, weight_cons, hzero, Nat.zero_add]
    · rw [List.dropWhile_cons_of_neg (by simpa using h)]

end Meshpoint.DutyCycle
