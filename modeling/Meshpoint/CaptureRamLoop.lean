import Meshpoint.GuardedRun

/-!
# The sweep loop over the capture RAM

`CaptureRamSpectrumService` of `src/api/telemetry/capture_ram_spectrum_service.py` as a transition
system. The loop is suspended while it waits and while a sweep captures; everything between two
suspensions is one step, and requests come at any time. `_calibration_requested` is a flag and
`_sweep_requested` an event that the loop waits for.

`woken_iff` says in which runs the loop never goes to wait with the flag set and the event not.
-/

namespace Meshpoint.CaptureRamLoop

open GuardedRun

/-! ### The service -/

/-- Where the task of the loop is. -/
inductive Phase where
  | notStarted
  | created
  | waiting (timed : Bool)
  | calibrationSweep
  | normalSweep
  | done
deriving DecidableEq, Repr

structure State where
  phase : Phase := .notStarted
  calibrationRequested : Bool := false
  sweepRequested : Bool := false
  calibrating : Bool := false
deriving DecidableEq, Repr

/-- `is_running`. -/
def State.isRunning (s : State) : Bool := s.phase ≠ .notStarted && s.phase ≠ .done

/-- `request_calibration`, with the answer; `supported` is what `sweep_supported` is at the time. -/
def requestCalibration (supported : Bool) (s : State) : Bool × State :=
  if supported && s.isRunning then
    (true, { s with calibrationRequested := true, sweepRequested := true })
  else (false, s)

/-- `request_sweep`, with the answer. -/
def requestSweep (supported : Bool) (s : State) : Bool × State :=
  if supported && s.isRunning then (true, { s with sweepRequested := true }) else (false, s)

/-- `_wait`: without a sweep interval there is no timeout. -/
def wait (automatic : Bool) (s : State) : State := { s with phase := .waiting automatic }

/-- `_run_sweep`, up to its first suspension; without a radio centre it returns at once, and the loop
    goes to wait. -/
def runSweep (automatic centresKnown : Bool) (s : State) : State :=
  if centresKnown then { s with sweepRequested := false, phase := .normalSweep }
  else wait automatic { s with sweepRequested := false }

/-- `_next_sweep`. Without a radio centre the calibration sweep returns at once; the second flag is
    whether there is one for the normal sweep. -/
def nextSweep (automatic centresKnown centresKnown' : Bool) (s : State) : State :=
  if s.calibrationRequested then
    let s := { s with calibrationRequested := false, sweepRequested := false }
    if centresKnown then { s with phase := .calibrationSweep, calibrating := true }
    else runSweep automatic centresKnown' s
  else runSweep automatic centresKnown' s

/-- How a suspended sweep goes on: it is done, or it raises. -/
inductive Outcome where
  | returns
  | raises
deriving DecidableEq, Repr

inductive Event where
  | start (supported : Bool)
  | begin
  | requestCalibration (supported : Bool)
  | requestSweep (supported : Bool)
  | wake (centresKnown centresKnown' : Bool)
  | timeout (centresKnown centresKnown' : Bool)
  | swept (outcome : Outcome) (centresKnown : Bool)
  | stop
deriving DecidableEq, Repr

/-- One step; `automatic` is whether there is a sweep interval. An exception of a sweep ends the
    task, and so does the cancellation by `stop`. -/
def step (automatic : Bool) (s : State) : Event → Option State
  | .start supported =>
    if supported && !s.isRunning then some { s with phase := .created } else none
  | .begin => if s.phase = .created then some (wait automatic s) else none
  | .requestCalibration supported => some (requestCalibration supported s).2
  | .requestSweep supported => some (requestSweep supported s).2
  | .wake centresKnown centresKnown' =>
    match s.phase with
    | .waiting _ =>
      if s.sweepRequested then some (nextSweep automatic centresKnown centresKnown' s) else none
    | _ => none
  | .timeout centresKnown centresKnown' =>
    match s.phase with
    | .waiting true => some (nextSweep automatic centresKnown centresKnown' s)
    | _ => none
  | .swept outcome centresKnown =>
    match s.phase, outcome with
    | .calibrationSweep, .returns =>
      some (runSweep automatic centresKnown { s with calibrating := false })
    | .normalSweep, .returns => some (wait automatic s)
    | .calibrationSweep, .raises => some { s with calibrating := false, phase := .done }
    | .normalSweep, .raises => some { s with phase := .done }
    | _, _ => none
  | .stop => if s.isRunning then some { s with calibrating := false, phase := .done } else none

/-! ### Requests that are still to be answered -/

/-- A state with a note on the requests of the run. -/
structure Watched where
  state : State := {}
  owed : Bool := false
deriving DecidableEq, Repr

/-- The note: set by a calibration request during a calibration sweep, cleared by the end of the task
    in that sweep, and by any request at another time that is answered with true. -/
def owedAfter (w : Watched) : Event → Bool
  | .requestCalibration supported =>
    if w.state.phase = .calibrationSweep then w.owed || supported
    else w.owed && !(supported && w.state.isRunning)
  | .requestSweep supported =>
    if w.state.phase = .calibrationSweep then w.owed
    else w.owed && !(supported && w.state.isRunning)
  | .swept .raises _ => w.owed && decide (w.state.phase ≠ .calibrationSweep)
  | .stop => w.owed && decide (w.state.phase ≠ .calibrationSweep)
  | _ => w.owed

def watchedStep (automatic : Bool) (w : Watched) (e : Event) : Option Watched :=
  (step automatic w.state e).map fun s => ⟨s, owedAfter w e⟩

def Phase.isWaiting : Phase → Bool
  | .waiting _ => true
  | _ => false

/-- The loop does not go to wait while a request is owed. -/
def Settled (automatic : Bool) (w : Watched) (e : Event) : Prop :=
  ∀ s ∈ step automatic w.state e, s.phase.isWaiting = true → w.owed = false

instance (automatic : Bool) (w : Watched) (e : Event) : Decidable (Settled automatic w e) :=
  inferInstanceAs (Decidable (∀ s ∈ step automatic w.state e, _))

/-- Where the loop waits with the flag set, the event that ends the wait is set too. -/
def Woken (w : Watched) : Prop :=
  w.state.phase.isWaiting = true → w.state.calibrationRequested = true →
    w.state.sweepRequested = true

/-- What the note says of the two flags: during a calibration sweep that the flag has been set again,
    with the event; at any other time that the flag is set and the event is not. -/
def Invariant (w : Watched) : Prop :=
  if w.state.phase = .calibrationSweep then
    w.owed = w.state.calibrationRequested ∧
      (w.state.calibrationRequested = true → w.state.sweepRequested = true)
  else w.owed = (w.state.calibrationRequested && !w.state.sweepRequested)

/-! ### What the steps keep -/

variable {automatic : Bool} {w w' : Watched} {s s' : State} {e : Event}

theorem invariant_iff (h : s.phase ≠ .calibrationSweep) (owed : Bool) :
    Invariant ⟨s, owed⟩ ↔ owed = (s.calibrationRequested && !s.sweepRequested) := by
  rw [Invariant, if_neg h]

theorem invariant_calibrating_iff (h : s.phase = .calibrationSweep) (owed : Bool) :
    Invariant ⟨s, owed⟩ ↔ owed = s.calibrationRequested ∧
      (s.calibrationRequested = true → s.sweepRequested = true) := by
  rw [Invariant, if_pos h]

variable (automatic) in
/-- A sweep that is not for calibration clears the event: what is owed then is the flag. -/
theorem invariant_runSweep (centresKnown : Bool) (s : State) :
    Invariant ⟨runSweep automatic centresKnown s, s.calibrationRequested⟩ := by
  cases centresKnown with
  | false => simp [Invariant, runSweep, wait]
  | true => simp [Invariant, runSweep]

theorem invariant_nextSweep (centresKnown centresKnown' : Bool) (s : State) :
    Invariant ⟨nextSweep automatic centresKnown centresKnown' s, false⟩ := by
  unfold nextSweep
  cases hflag : s.calibrationRequested with
  | false =>
    have hrun := invariant_runSweep automatic centresKnown' s
    rw [hflag] at hrun
    simpa using hrun
  | true =>
    cases centresKnown with
    | false => exact invariant_runSweep automatic centresKnown' _
    | true => simp [Invariant]

theorem woken_iff_of_invariant (h : Invariant w) (hwaiting : w.state.phase.isWaiting = true) :
    Woken w ↔ w.owed = false := by
  have hphase : w.state.phase ≠ .calibrationSweep := by
    intro heq
    rw [heq] at hwaiting
    cases hwaiting
  rw [(invariant_iff hphase w.owed).mp h, Woken]
  cases hflag : w.state.calibrationRequested with
  | false => simp
  | true => cases hevent : w.state.sweepRequested <;> simp [hwaiting]

/-- A request outside of a calibration sweep sets the event, so that nothing is owed, or it is
    refused. -/
theorem invariant_request (h : Invariant w) (hphase : w.state.phase ≠ .calibrationSweep)
    (answered : Bool) {s' : State} (hphase' : s'.phase = w.state.phase)
    (htrue : answered = true → s'.sweepRequested = true)
    (hfalse : answered = false → s' = w.state) : Invariant ⟨s', w.owed && !answered⟩ := by
  rw [invariant_iff (hphase' ▸ hphase)]
  cases answered with
  | false =>
    rw [hfalse rfl, (invariant_iff hphase w.owed).mp h]
    simp
  | true => simp [htrue rfl]

theorem invariant_step (h : Invariant w) (hwoken : Woken w)
    (hstep : step automatic w.state e = some s') : Invariant ⟨s', owedAfter w e⟩ := by
  obtain ⟨s, owed⟩ := w
  have hwaiting : s.phase.isWaiting = true → owed = false := fun hwaiting =>
    (woken_iff_of_invariant h hwaiting).mp hwoken
  cases e with
  | start supported =>
    simp only [step, Option.ite_none_right_eq_some, Option.some.injEq] at hstep
    obtain ⟨hstopped, rfl⟩ := hstep
    have hphase : s.phase ≠ .calibrationSweep := by
      intro heq
      simp [State.isRunning, heq] at hstopped
    exact (invariant_iff (by simp) owed).mpr ((invariant_iff hphase owed).mp h)
  | begin =>
    simp only [step, Option.ite_none_right_eq_some, Option.some.injEq] at hstep
    obtain ⟨hphase, rfl⟩ := hstep
    have howed := (invariant_iff (by simp [hphase]) owed).mp h
    exact (invariant_iff (by simp [wait]) owed).mpr howed
  | requestCalibration supported =>
    cases hstep
    by_cases hphase : s.phase = .calibrationSweep
    · have hrunning : s.isRunning = true := by simp [State.isRunning, hphase]
      obtain ⟨howed, hevent⟩ := (invariant_calibrating_iff hphase owed).mp h
      cases supported with
      | false => simpa [requestCalibration, owedAfter, hphase] using h
      | true => simp [Invariant, requestCalibration, owedAfter, hphase, hrunning]
    · simp only [owedAfter, if_neg hphase]
      apply invariant_request h hphase (supported && s.isRunning)
      · unfold requestCalibration
        split <;> rfl
      · intro hanswer
        simp [requestCalibration, hanswer]
      · intro hanswer
        simp [requestCalibration, hanswer]
  | requestSweep supported =>
    cases hstep
    by_cases hphase : s.phase = .calibrationSweep
    · obtain ⟨howed, hevent⟩ := (invariant_calibrating_iff hphase owed).mp h
      have hphase' : (requestSweep supported s).2.phase = .calibrationSweep := by
        unfold requestSweep
        split <;> exact hphase
      rw [invariant_calibrating_iff hphase', owedAfter, if_pos hphase]
      unfold requestSweep
      split
      · exact ⟨howed, fun _ => rfl⟩
      · exact ⟨howed, hevent⟩
    · simp only [owedAfter, if_neg hphase]
      apply invariant_request h hphase (supported && s.isRunning)
      · unfold requestSweep
        split <;> rfl
      · intro hanswer
        simp [requestSweep, hanswer]
      · intro hanswer
        simp [requestSweep, hanswer]
  | wake centresKnown centresKnown' =>
    simp only [step] at hstep
    split at hstep
    · rename_i timed hphase
      simp only [Option.ite_none_right_eq_some, Option.some.injEq] at hstep
      obtain ⟨-, rfl⟩ := hstep
      have howed : owed = false := hwaiting (by simp [hphase, Phase.isWaiting])
      subst howed
      exact invariant_nextSweep centresKnown centresKnown' s
    · cases hstep
  | timeout centresKnown centresKnown' =>
    simp only [step] at hstep
    split at hstep
    · rename_i hphase
      cases hstep
      have howed : owed = false := hwaiting (by simp [hphase, Phase.isWaiting])
      subst howed
      exact invariant_nextSweep centresKnown centresKnown' s
    · cases hstep
  | swept outcome centresKnown =>
    simp only [step] at hstep
    split at hstep
    · rename_i hphase
      cases hstep
      have howed : owed = s.calibrationRequested :=
        ((invariant_calibrating_iff hphase owed).mp h).1
      subst howed
      exact invariant_runSweep automatic centresKnown { s with calibrating := false }
    · rename_i hphase
      cases hstep
      have howed := (invariant_iff (by simp [hphase]) owed).mp h
      exact (invariant_iff (by simp [wait]) owed).mpr howed
    · rename_i hphase
      cases hstep
      obtain ⟨-, hevent⟩ := (invariant_calibrating_iff hphase owed).mp h
      rw [invariant_iff (by simp)]
      cases hflag : s.calibrationRequested with
      | false => simp [owedAfter, hphase]
      | true => simp [owedAfter, hphase, hevent hflag]
    · rename_i hphase
      cases hstep
      have howed := (invariant_iff (by simp [hphase]) owed).mp h
      rw [invariant_iff (by simp)]
      simp [owedAfter, hphase, howed]
    · cases hstep
  | stop =>
    simp only [step, Option.ite_none_right_eq_some, Option.some.injEq] at hstep
    obtain ⟨-, rfl⟩ := hstep
    rw [invariant_iff (by simp)]
    by_cases hphase : s.phase = .calibrationSweep
    · obtain ⟨-, hevent⟩ := (invariant_calibrating_iff hphase owed).mp h
      cases hflag : s.calibrationRequested with
      | false => simp [owedAfter, hphase]
      | true => simp [owedAfter, hphase, hevent hflag]
    · have howed := (invariant_iff hphase owed).mp h
      simp [owedAfter, hphase, howed]

theorem owedAfter_of_isWaiting (h : Invariant w) (hwoken : Woken w)
    (hstep : step automatic w.state e = some s') (hwaiting : s'.phase.isWaiting = true) :
    owedAfter w e = w.owed := by
  have hrequest : ∀ {s₁ : State} (answered : Bool), s₁.phase = w.state.phase →
      s₁.phase.isWaiting = true → (w.owed && !answered) = w.owed := by
    intro s₁ answered hphase hwaits
    rw [hphase] at hwaits
    rw [(woken_iff_of_invariant h hwaits).mp hwoken, Bool.false_and]
  have hcalibrating : s'.phase = w.state.phase → w.state.phase ≠ .calibrationSweep := by
    intro hphase heq
    rw [hphase, heq] at hwaiting
    cases hwaiting
  cases e with
  | requestCalibration supported =>
    cases hstep
    have hphase : (requestCalibration supported w.state).2.phase = w.state.phase := by
      unfold requestCalibration
      split <;> rfl
    simp only [owedAfter, if_neg (hcalibrating hphase)]
    exact hrequest _ hphase hwaiting
  | requestSweep supported =>
    cases hstep
    have hphase : (requestSweep supported w.state).2.phase = w.state.phase := by
      unfold requestSweep
      split <;> rfl
    simp only [owedAfter, if_neg (hcalibrating hphase)]
    exact hrequest _ hphase hwaiting
  | swept outcome centresKnown =>
    cases outcome with
    | returns => rfl
    | raises =>
      have hdone : s'.phase = .done := by
        cases hphase : w.state.phase <;> simp only [step, hphase] at hstep <;> cases hstep <;> rfl
      rw [hdone] at hwaiting
      cases hwaiting
  | stop =>
    simp only [step, Option.ite_none_right_eq_some, Option.some.injEq] at hstep
    obtain ⟨-, rfl⟩ := hstep
    cases hwaiting
  | start supported => rfl
  | begin => rfl
  | wake centresKnown centresKnown' => rfl
  | timeout centresKnown centresKnown' => rfl

theorem watchedStep_spec (h : Invariant w) (hwoken : Woken w)
    (hstep : watchedStep automatic w e = some w') :
    Invariant w' ∧ (Woken w' ↔ Settled automatic w e) := by
  obtain ⟨s', hstep', rfl⟩ := Option.map_eq_some_iff.mp hstep
  have hinvariant := invariant_step h hwoken hstep'
  refine ⟨hinvariant, ?_⟩
  rw [Settled, hstep']
  simp only [Option.mem_some_iff, forall_eq']
  by_cases hwaiting : s'.phase.isWaiting = true
  · rw [woken_iff_of_invariant hinvariant hwaiting,
      ← owedAfter_of_isWaiting h hwoken hstep' hwaiting]
    simp [hwaiting]
  · exact iff_of_true (fun hwaits => absurd hwaits hwaiting) fun hwaits => absurd hwaits hwaiting

/-- **Requests and waits.** In a run the loop never waits with the flag set and the event not exactly
    when it never goes to wait while a request is owed: a calibration request that came during a
    calibration sweep which ended by returning, with no request answered since. -/
theorem woken_iff {es : List Event} (hrun : replay (watchedStep automatic) Always {} es = some w') :
    Throughout (watchedStep automatic) Woken {} es ↔
      replay (watchedStep automatic) (Settled automatic) {} es = some w' :=
  throughout_iff_replay (I := Invariant) watchedStep_spec rfl (fun hwaits => nomatch hwaits) hrun

/-! ### A second request -/

/-- A calibration, and a sweep request while it runs. -/
def oneCalibration : List Event :=
  [.start true, .begin, .requestCalibration true, .wake true true, .requestSweep true,
    .swept .returns true, .swept .returns true]

theorem woken_oneCalibration : Throughout (watchedStep false) Woken {} oneCalibration :=
  (woken_iff (show replay (watchedStep false) Always {} oneCalibration =
    some ⟨⟨.waiting false, false, false, false⟩, false⟩ by decide)).mpr (by decide)

/-- A calibration, and another request for one while it runs: the event is cleared for the sweep
    behind it, and the loop waits without a timeout. -/
def twoCalibrations : List Event :=
  [.start true, .begin, .requestCalibration true, .wake true true, .requestCalibration true,
    .swept .returns true, .swept .returns true]

theorem not_woken_twoCalibrations :
    ¬ Throughout (watchedStep false) Woken {} twoCalibrations ∧
      replay (watchedStep false) Always {} twoCalibrations =
        some ⟨⟨.waiting false, true, false, false⟩, true⟩ := by
  have hrun : replay (watchedStep false) Always {} twoCalibrations =
      some ⟨⟨.waiting false, true, false, false⟩, true⟩ := by decide
  refine ⟨?_, hrun⟩
  intro hall
  exact absurd (hall.last hrun rfl rfl) (by decide)

end Meshpoint.CaptureRamLoop
