import Mathlib.Tactic.Ring
import Meshpoint.DutyCycle

/-!
# Concurrent sends against one duty-cycle budget

Every send of `src/transmit/tx_service.py` that goes through the concentrator
has the same shape: await the airtime, test the budget, await the HAL send (the
text send first awaits a TX-status query), and book the airtime once the HAL
reported success (the text send first polls the TX status up to four times).
A coroutine is only suspended at its awaits, so a run of any number of sends is
an interleaving of the segments between them; `step` takes one segment.

The HAL call runs in an executor thread, so the moment the radio accepts the
frame (`halReturns`) is separate from the moment the coroutine resumes.  `sent`
is the ghost log of the transmissions that succeeded.

The budget test sees only what is booked already.  `fitsInFlight` is the
condition on a test under which that is enough: the airtimes that were tested
but are not booked yet fit as well.
-/

namespace Meshpoint.SendInterleaving

open GuardedRun Meshpoint.DutyCycle

/-- The send coroutines: `_send_meshtastic`, `send_nodeinfo`,
    `_send_built_packet` (position, telemetry, ACK, replies), `send_raw_relay`. -/
inductive SendKind where
  | text
  | nodeinfo
  | builtPacket
  | rawRelay
deriving DecidableEq, Repr

/-- Where a send coroutine is suspended. -/
inductive Phase where
  | airtime (kind : SendKind)
  | txStatus (airtimeMs : Nat)
  | halSend (kind : SendKind) (airtimeMs : Nat)
  | halDone (kind : SendKind) (airtimeMs : Nat) (resultCode : Int)
  | polling (airtimeMs : Nat) (delaysLeft : Nat)
  | finished
deriving DecidableEq, Repr

structure State where
  clock : ℚ
  tracker : DutyCycleTracker
  tasks : List Phase
  sent : List TxRecord

/-- One scheduling decision, with what the awaited call returned. -/
inductive Event where
  | tick (now : ℚ)
  | start (kind : SendKind)
  | airtimeKnown (task : Nat) (airtimeMs : Nat)
  | statusRead (task : Nat)
  | halReturns (task : Nat) (resultCode : Int)
  | resume (task : Nat)
  | polled (task : Nat) (status : Nat)

/-- The `(0.05, 0.1, 0.5, 1.0)` status polls after a text send. -/
def statusPolls : Nat := 4

/-- `LGW` status 2, "free". -/
def TX_FREE : Nat := 2

/-- `record_tx` at the current time, ending the coroutine. -/
def book (s : State) (task airtimeMs : Nat) : State :=
  { s with
    tracker := s.tracker.recordTx s.clock airtimeMs
    tasks := s.tasks.set task .finished }

/-- The coroutine segment that `event` runs; `none` if no coroutine is waiting
    for it. -/
def step (s : State) : Event → Option State
  | .tick now => if s.clock ≤ now then some { s with clock := now } else none
  | .start kind => some { s with tasks := s.tasks ++ [.airtime kind] }
  | .airtimeKnown task airtimeMs =>
    match s.tasks[task]? with
    | some (.airtime kind) =>
      let checked := s.tracker.checkBudget s.clock airtimeMs
      let next : Phase :=
        if checked.2 then
          match kind with
          | .text => .txStatus airtimeMs
          | _ => .halSend kind airtimeMs
        else .finished
      some { s with tracker := checked.1, tasks := s.tasks.set task next }
    | _ => none
  | .statusRead task =>
    match s.tasks[task]? with
    | some (.txStatus airtimeMs) =>
      some { s with tasks := s.tasks.set task (.halSend .text airtimeMs) }
    | _ => none
  | .halReturns task resultCode =>
    match s.tasks[task]? with
    | some (.halSend kind airtimeMs) =>
      some { s with
        tasks := s.tasks.set task (.halDone kind airtimeMs resultCode)
        sent := if resultCode = 0 then s.sent ++ [⟨s.clock, airtimeMs⟩] else s.sent }
    | _ => none
  | .resume task =>
    match s.tasks[task]? with
    | some (.halDone kind airtimeMs resultCode) =>
      if resultCode = 0 then
        match kind with
        | .text => some { s with tasks := s.tasks.set task (.polling airtimeMs statusPolls) }
        | _ => some (book s task airtimeMs)
      else some { s with tasks := s.tasks.set task .finished }
    | _ => none
  | .polled task status =>
    match s.tasks[task]? with
    | some (.polling airtimeMs delaysLeft) =>
      if status = TX_FREE ∨ delaysLeft ≤ 1 then some (book s task airtimeMs)
      else some { s with tasks := s.tasks.set task (.polling airtimeMs (delaysLeft - 1)) }
    | _ => none

/-- The service just after startup, at clock reading `now`. -/
def initial (limits : DutyLimits) (now : ℚ) : State where
  clock := now
  tracker := { limits with records := [] }
  tasks := []
  sent := []

/-! ### What a suspended send still owes the budget -/

/-- Budget tested, radio not yet asked or still busy with the call. -/
def pending : Phase → Nat
  | .txStatus a => a
  | .halSend _ a => a
  | _ => 0

def aired : Phase → Nat
  | .halDone _ a code => if code = 0 then a else 0
  | .polling a _ => a
  | _ => 0

@[simp] theorem pending_airtime (kind : SendKind) : pending (.airtime kind) = 0 := rfl

@[simp] theorem pending_halSend (kind : SendKind) (a : Nat) : pending (.halSend kind a) = a := rfl

@[simp] theorem pending_halDone (kind : SendKind) (a : Nat) (code : Int) :
    pending (.halDone kind a code) = 0 := rfl

@[simp] theorem pending_finished : pending .finished = 0 := rfl

@[simp] theorem aired_airtime (kind : SendKind) : aired (.airtime kind) = 0 := rfl

@[simp] theorem aired_halSend (kind : SendKind) (a : Nat) : aired (.halSend kind a) = 0 := rfl

@[simp] theorem aired_halDone (kind : SendKind) (a : Nat) (code : Int) :
    aired (.halDone kind a code) = if code = 0 then a else 0 := rfl

@[simp] theorem aired_finished : aired .finished = 0 := rfl

def unbooked (phase : Phase) : Nat := pending phase + aired phase

/-- The guard on a run: whenever a budget test accepts, the airtimes that were
    accepted before and are not booked yet fit the budget as well. -/
def fitsInFlight (s : State) : Event → Prop
  | .airtimeKnown _ airtimeMs =>
    (s.tracker.checkBudget s.clock airtimeMs).2 = true →
      ((totalMs (s.tracker.pruneExpired s.clock).records + weight unbooked s.tasks + airtimeMs :
        Nat) : ℚ) ≤ s.tracker.budgetMs
  | _ => True

instance (s : State) : ∀ e, Decidable (fitsInFlight s e)
  | .airtimeKnown _ _ => inferInstanceAs (Decidable (_ → _))
  | .tick _ | .start _ | .statusRead _ | .halReturns _ _ | .resume _ | .polled _ _ => isTrue trivial

/-- With no other send between its test and its booking the guard is the budget
    test itself: every sequential run meets it. -/
theorem fitsInFlight_of_idle {s : State} (hidle : weight unbooked s.tasks = 0) (e : Event) :
    fitsInFlight s e := by
  cases e with
  | airtimeKnown task a =>
    intro hpass
    rw [hidle, Nat.add_zero]
    exact (s.tracker.checkBudget_iff s.clock a).mp hpass
  | tick | start | statusRead | halReturns | resume | polled => trivial

/-! ### Inversion of a step -/

theorem step_cases {s s' : State} {e : Event} (h : step s e = some s') :
    (∃ now, e = .tick now ∧ s.clock ≤ now ∧ s' = { s with clock := now }) ∨
    (∃ kind, e = .start kind ∧ s' = { s with tasks := s.tasks ++ [.airtime kind] }) ∨
    (∃ task a kind next, e = .airtimeKnown task a ∧ s.tasks[task]? = some (.airtime kind) ∧
      s' = { s with tracker := s.tracker.pruneExpired s.clock, tasks := s.tasks.set task next } ∧
      aired next = 0 ∧
      ((s.tracker.checkBudget s.clock a).2 = true ∧ pending next = a ∨ pending next = 0)) ∨
    (∃ task x y, s.tasks[task]? = some x ∧ pending x = pending y ∧ aired x = aired y ∧
      s' = { s with tasks := s.tasks.set task y }) ∨
    (∃ task kind a code, s.tasks[task]? = some (.halSend kind a) ∧
      s' = { s with
        tasks := s.tasks.set task (.halDone kind a code)
        sent := if code = 0 then s.sent ++ [⟨s.clock, a⟩] else s.sent }) ∨
    (∃ task x a, s.tasks[task]? = some x ∧ pending x = 0 ∧ aired x = a ∧ s' = book s task a) := by
  cases e with
  | tick now =>
    simp only [step] at h
    split at h
    · exact Or.inl ⟨now, rfl, ‹_›, (Option.some.inj h).symm⟩
    · cases h
  | start kind => exact Or.inr (Or.inl ⟨kind, rfl, (Option.some.inj h).symm⟩)
  | airtimeKnown task a =>
    simp only [step] at h
    split at h
    · rename_i kind hx
      refine Or.inr (Or.inr (Or.inl ⟨task, a, kind, _, rfl, hx, (Option.some.inj h).symm, ?_, ?_⟩))
      · split
        · cases kind <;> rfl
        · rfl
      · by_cases hc : (s.tracker.checkBudget s.clock a).2 = true
        · rw [if_pos hc]
          exact Or.inl ⟨hc, by cases kind <;> rfl⟩
        · rw [if_neg hc]
          exact Or.inr rfl
    · cases h
  | statusRead task =>
    simp only [step] at h
    split at h
    · rename_i a hx
      exact Or.inr (Or.inr (Or.inr (Or.inl
        ⟨task, .txStatus a, .halSend .text a, hx, rfl, rfl, (Option.some.inj h).symm⟩)))
    · cases h
  | halReturns task code =>
    simp only [step] at h
    split at h
    · rename_i kind a hx
      exact Or.inr (Or.inr (Or.inr (Or.inr (Or.inl
        ⟨task, kind, a, code, hx, (Option.some.inj h).symm⟩))))
    · cases h
  | resume task =>
    simp only [step] at h
    split at h
    · rename_i kind a code hx
      split at h
      · rename_i hcode
        have haired : aired (.halDone kind a code) = a := if_pos hcode
        cases kind with
        | text =>
          exact Or.inr (Or.inr (Or.inr (Or.inl
            ⟨task, _, .polling a statusPolls, hx, rfl, haired, (Option.some.inj h).symm⟩)))
        | nodeinfo | builtPacket | rawRelay =>
          exact Or.inr (Or.inr (Or.inr (Or.inr (Or.inr
            ⟨task, _, a, hx, rfl, haired, (Option.some.inj h).symm⟩))))
      · rename_i hcode
        exact Or.inr (Or.inr (Or.inr (Or.inl
          ⟨task, _, .finished, hx, rfl, if_neg hcode, (Option.some.inj h).symm⟩)))
    · cases h
  | polled task status =>
    simp only [step] at h
    split at h
    · rename_i a left hx
      split at h
      · exact Or.inr (Or.inr (Or.inr (Or.inr (Or.inr
          ⟨task, _, a, hx, rfl, rfl, (Option.some.inj h).symm⟩))))
      · exact Or.inr (Or.inr (Or.inr (Or.inl
          ⟨task, _, .polling a (left - 1), hx, rfl, rfl, (Option.some.inj h).symm⟩)))
    · cases h

/-! ### The accounting invariant -/

/-- The bookkeeping every run keeps, budget tests aside. -/
structure Booked (limits : DutyLimits) (s : State) : Prop where
  limits_eq : s.tracker.toDutyLimits = limits
  past : ∀ r ∈ s.sent, r.timestamp ≤ s.clock
  booked : ∀ u, s.clock - limits.windowSeconds ≤ u →
    airtimeSince u s.sent ≤ airtimeSince u s.tracker.records + weight aired s.tasks

/-- The bound itself: what is on the air since any recent instant, with what is
    still going to be sent, fits the budget; so does every window. -/
structure Within (limits : DutyLimits) (s : State) : Prop where
  committed : ∀ u, s.clock - limits.windowSeconds ≤ u →
    ((airtimeSince u s.sent + weight pending s.tasks : Nat) : ℚ) ≤ limits.ceilingMs
  windows : ∀ u, (airtimeBetween u (u + limits.windowSeconds) s.sent : ℚ) ≤ limits.ceilingMs

theorem weight_unbooked (tasks : List Phase) :
    weight unbooked tasks = weight pending tasks + weight aired tasks :=
  weight_add pending aired tasks

theorem airtimeSince_append (u : ℚ) (records : List TxRecord) (r : TxRecord) :
    airtimeSince u (records ++ [r]) = airtimeSince u records + since u r := by
  simp [airtimeSince]

theorem airtimeBetween_append (u v : ℚ) (records : List TxRecord) (r : TxRecord) :
    airtimeBetween u v (records ++ [r]) = airtimeBetween u v records + between u v r := by
  simp [airtimeBetween]

theorem booked_initial (limits : DutyLimits) (now : ℚ) : Booked limits (initial limits now) where
  limits_eq := rfl
  past := by intro r hr; cases hr
  booked := by intro u _; simp [initial, airtimeSince]

theorem booked_step {limits : DutyLimits} {s s' : State} {e : Event} (hb : Booked limits s)
    (h : step s e = some s') : Booked limits s' := by
  have hW : s.tracker.windowSeconds = limits.windowSeconds :=
    congrArg DutyLimits.windowSeconds hb.limits_eq
  obtain ⟨now, -, hle, rfl⟩ | ⟨kind, -, rfl⟩ | ⟨task, a, kind, next, -, hx, rfl, hair, -⟩ |
    ⟨task, x, y, hx, -, hair, rfl⟩ | ⟨task, kind, a, code, hx, rfl⟩ |
    ⟨task, x, a, hx, -, hair, rfl⟩ := step_cases h
  · -- the clock moves on
    refine ⟨hb.limits_eq, fun r hr => le_trans (hb.past r hr) hle, ?_⟩
    intro u hu
    exact hb.booked u (by simp only at hu; linarith)
  · -- a new coroutine owes nothing yet
    refine ⟨hb.limits_eq, hb.past, ?_⟩
    intro u hu
    simpa using hb.booked u hu
  · -- a budget test prunes, and the tested frame is not on the air
    refine ⟨hb.limits_eq, hb.past, ?_⟩
    intro u hu
    have hset := weight_set aired next hx
    have hold := hb.booked u hu
    rw [hair, aired_airtime] at hset
    simp only [airtimeSince_pruneExpired s.tracker (hW ▸ hu)]
    omega
  · refine ⟨hb.limits_eq, hb.past, ?_⟩
    intro u hu
    have hset := weight_set aired y hx
    have hold := hb.booked u hu
    simp only
    omega
  · -- the HAL call returned: on success the frame is on the air
    have hset := weight_set aired (.halDone kind a code) hx
    by_cases hcode : code = 0
    · simp only [aired_halSend, aired_halDone, if_pos hcode] at hset
      simp only [if_pos hcode]
      refine ⟨hb.limits_eq, ?_, ?_⟩
      · intro r hr
        rcases List.mem_append.mp hr with hr | hr
        · exact hb.past r hr
        · rw [List.mem_singleton.mp hr]
      · intro u hu
        have hold := hb.booked u hu
        have hnew := since_le_airtimeMs u ⟨s.clock, a⟩
        simp only [airtimeSince_append] at hnew ⊢
        omega
    · simp only [aired_halSend, aired_halDone, if_neg hcode] at hset
      simp only [if_neg hcode]
      refine ⟨hb.limits_eq, hb.past, ?_⟩
      intro u hu
      have hold := hb.booked u hu
      simp only
      omega
  · -- booking moves the frame from the air into the records
    refine ⟨hb.limits_eq, hb.past, ?_⟩
    intro u hu
    have hset := weight_set aired .finished hx
    have hold := hb.booked u hu
    simp only [book, DutyCycleTracker.recordTx] at hset hu ⊢
    rw [airtimeSince_pruneExpired _ (by simpa only [hW] using hu)]
    by_cases hlate : u ≤ s.clock
    · have hrec : since u ⟨s.clock, a⟩ = a := if_pos hlate
      simp only [airtimeSince_append, hrec]
      rw [hair, aired_finished] at hset
      omega
    · have hzero : airtimeSince u s.sent = 0 :=
        airtimeSince_eq_zero fun r hr => lt_of_le_of_lt (hb.past r hr) (not_le.mp hlate)
      omega

theorem within_initial (limits : DutyLimits) (now : ℚ) : Within limits (initial limits now) := by
  have hbudget : 0 ≤ limits.ceilingMs := le_max_left _ _
  refine ⟨?_, ?_⟩
  · intro u _
    simpa [initial, airtimeSince] using hbudget
  · intro u
    simpa [initial, airtimeBetween] using hbudget

theorem within_of_tasks {limits : DutyLimits} {s s' : State} (hw : Within limits s)
    (hclock : s.clock ≤ s'.clock) (hsent : s'.sent = s.sent)
    (htasks : weight pending s'.tasks ≤ weight pending s.tasks) : Within limits s' := by
  refine ⟨?_, ?_⟩
  · intro u hu
    have hold := hw.committed u (by linarith)
    have hle : airtimeSince u s'.sent + weight pending s'.tasks ≤
        airtimeSince u s.sent + weight pending s.tasks := by
      rw [hsent]; omega
    exact le_trans (by exact_mod_cast hle) hold
  · intro u
    rw [hsent]
    exact hw.windows u

theorem within_step {limits : DutyLimits} {s s' : State} {e : Event} (hb : Booked limits s)
    (hw : Within limits s) (hguard : fitsInFlight s e) (h : step s e = some s') :
    Within limits s' := by
  have hW : s.tracker.windowSeconds = limits.windowSeconds :=
    congrArg DutyLimits.windowSeconds hb.limits_eq
  have hB : s.tracker.budgetMs = limits.budgetMs := congrArg DutyLimits.budgetMs hb.limits_eq
  obtain ⟨now, -, hle, rfl⟩ | ⟨kind, -, rfl⟩ | ⟨task, a, kind, next, rfl, hx, rfl, -, htest⟩ |
    ⟨task, x, y, hx, hpend, -, rfl⟩ | ⟨task, kind, a, code, hx, rfl⟩ |
    ⟨task, x, a, hx, hpend, -, rfl⟩ := step_cases h
  · exact within_of_tasks hw hle rfl (Nat.le_refl _)
  · exact within_of_tasks hw (le_refl _) rfl (by simp)
  · have hset := weight_set pending next hx
    rw [pending_airtime] at hset
    rcases htest with ⟨hpass, hnext⟩ | hnext
    · -- an accepted test: the guard covers what is booked and what is in flight
      refine ⟨?_, hw.windows⟩
      intro u hu
      have hfits := hguard hpass
      rw [hB] at hfits
      rw [hnext] at hset
      have hrecords : airtimeSince u s.tracker.records ≤
          totalMs (s.tracker.pruneExpired s.clock).records := by
        rw [← airtimeSince_pruneExpired s.tracker (hW ▸ hu)]
        exact airtimeSince_le_totalMs _ _
      have hbook := hb.booked u hu
      have hunb := weight_unbooked s.tasks
      have hle : airtimeSince u s.sent + weight pending (s.tasks.set task next) ≤
          totalMs (s.tracker.pruneExpired s.clock).records + weight unbooked s.tasks + a := by
        omega
      exact le_trans (le_trans (by exact_mod_cast hle) hfits) (le_max_right _ _)
    · rw [hnext] at hset
      exact within_of_tasks hw (le_refl _) rfl (by simp only; omega)
  · have hset := weight_set pending y hx
    exact within_of_tasks hw (le_refl _) rfl (by simp only; omega)
  · have hset := weight_set pending (.halDone kind a code) hx
    rw [pending_halSend, pending_halDone] at hset
    by_cases hcode : code = 0
    · -- a transmission starts now: only windows that reach back to it can grow
      simp only [if_pos hcode]
      have hcommit : ∀ u, s.clock - limits.windowSeconds ≤ u →
          ((airtimeSince u s.sent + a + weight pending (s.tasks.set task (.halDone kind a code)) :
            Nat) : ℚ) ≤ limits.ceilingMs := by
        intro u hu
        have hle : airtimeSince u s.sent + a +
            weight pending (s.tasks.set task (.halDone kind a code)) ≤
              airtimeSince u s.sent + weight pending s.tasks := by omega
        exact le_trans (by exact_mod_cast hle) (hw.committed u hu)
      refine ⟨?_, ?_⟩
      · intro u hu
        have hnew := since_le_airtimeMs u ⟨s.clock, a⟩
        have hle : airtimeSince u (s.sent ++ [⟨s.clock, a⟩]) +
            weight pending (s.tasks.set task (.halDone kind a code)) ≤
              airtimeSince u s.sent + a +
                weight pending (s.tasks.set task (.halDone kind a code)) := by
          rw [airtimeSince_append]
          simp only at hnew
          omega
        exact le_trans (by exact_mod_cast hle) (hcommit u hu)
      · intro u
        by_cases hin : u ≤ s.clock ∧ s.clock ≤ u + limits.windowSeconds
        · have hbetween : between u (u + limits.windowSeconds) ⟨s.clock, a⟩ = a := if_pos hin
          have hsince := airtimeBetween_le_airtimeSince u (u + limits.windowSeconds) s.sent
          have hle : airtimeBetween u (u + limits.windowSeconds) (s.sent ++ [⟨s.clock, a⟩]) ≤
              airtimeSince u s.sent + a +
                weight pending (s.tasks.set task (.halDone kind a code)) := by
            rw [airtimeBetween_append, hbetween]
            omega
          exact le_trans (by exact_mod_cast hle) (hcommit u (by linarith [hin.2]))
        · have hbetween : between u (u + limits.windowSeconds) ⟨s.clock, a⟩ = 0 := if_neg hin
          simp only [airtimeBetween_append, hbetween, Nat.add_zero]
          exact hw.windows u
    · simp only [if_neg hcode]
      exact within_of_tasks hw (le_refl _) rfl (by simp only; omega)
  · have hset := weight_set pending .finished hx
    rw [hpend, pending_finished] at hset
    exact within_of_tasks hw (le_refl _) rfl (by simp only [book]; omega)

/-- **Duty cycle of interleaved sends.**  In every run in which each accepted
    budget test also leaves room for the sends still in flight, no closed window
    of the tracker's length ever carries more airtime than the limit (a negative
    limit admits no airtime at all). -/
theorem airtime_window_le_limit (limits : DutyLimits) (start : ℚ) (s : State)
    (hrun : Reaches step fitsInFlight (initial limits start) s) (u : ℚ) :
    (airtimeBetween u (u + limits.windowSeconds) s.sent : ℚ) ≤
      max 0 (limits.maxDutyPercent / 100 * limits.windowMs) := by
  have hinv : Booked limits s ∧ Within limits s :=
    hrun.invariant (I := fun s => Booked limits s ∧ Within limits s)
      ⟨booked_initial limits start, within_initial limits start⟩
      fun s e s' hs hguard hstep =>
        ⟨booked_step hs.1 hstep, within_step hs.1 hs.2 hguard hstep⟩
  have hbudget : limits.ceilingMs = max 0 (limits.maxDutyPercent / 100 * limits.windowMs) := by
    unfold DutyLimits.ceilingMs DutyLimits.budgetMs
    congr 1
    ring
  exact hbudget ▸ hinv.2.windows u

/-- The EU 868 MHz tracker the service builds: 1 % of an hour, 36 s of airtime. -/
def eu868 : DutyLimits := ⟨"EU_868", 1, 3600, hour_pos⟩

/-- A text and a relay that overlap, with room for both. -/
theorem airtime_window_le_limit_overlapping :
    ∃ s, Reaches step fitsInFlight (initial eu868 0) s ∧
      airtimeBetween 0 3600 s.sent = 16000 ∧
      (airtimeBetween 0 (0 + eu868.windowSeconds) s.sent : ℚ) ≤
        max 0 (eu868.maxDutyPercent / 100 * eu868.windowMs) := by
  obtain ⟨s, hrun, hsum⟩ : ∃ s, Reaches step fitsInFlight (initial eu868 0) s ∧
      airtimeBetween 0 3600 s.sent = 16000 :=
    exists_reaches_of_replay
      [.start .text, .start .rawRelay, .airtimeKnown 0 8000, .airtimeKnown 1 8000,
        .statusRead 0, .tick 1, .halReturns 1 0, .halReturns 0 0, .resume 0, .resume 1,
        .polled 0 2] (by decide +kernel)
  exact ⟨s, hrun, hsum, airtime_window_le_limit eu868 0 s hrun 0⟩

/-- Five sends of 8 s that all test the budget before the first one is booked
    put 40 s on the air in one hour. -/
theorem airtime_window_exceeds_limit :
    ∃ s, Reaches step Always (initial eu868 0) s ∧
      ¬ (airtimeBetween 0 (0 + eu868.windowSeconds) s.sent : ℚ) ≤
        max 0 (eu868.maxDutyPercent / 100 * eu868.windowMs) := by
  obtain ⟨s, hrun, hsum⟩ : ∃ s, Reaches step Always (initial eu868 0) s ∧
      airtimeBetween 0 (0 + eu868.windowSeconds) s.sent = 40000 :=
    exists_reaches_of_replay
      [.start .text, .start .nodeinfo, .start .builtPacket, .start .rawRelay, .start .rawRelay,
        .airtimeKnown 0 8000, .airtimeKnown 1 8000, .airtimeKnown 2 8000, .airtimeKnown 3 8000,
        .airtimeKnown 4 8000, .statusRead 0, .halReturns 0 0, .halReturns 1 0, .halReturns 2 0,
        .halReturns 3 0, .halReturns 4 0] (by decide +kernel)
  refine ⟨s, hrun, ?_⟩
  rw [hsum]
  norm_num [eu868, DutyLimits.windowMs]

end Meshpoint.SendInterleaving
