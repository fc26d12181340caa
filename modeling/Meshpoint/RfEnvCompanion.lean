import Meshpoint.BoundedDeque
import Meshpoint.GpsdSource
import Meshpoint.SpectralScan

/-!
# The poll loop of the RF companion

`RfEnvCompanionScanService` of `src/api/telemetry/rfenv_companion_scan_service.py`: one scan, a
sweep when one is due, and a sleep, again and again, with what the companion replies as input.
A reply is a JSON object or a timeout. Only a cancellation is caught around the loop, so that an
exception ends it; `goesOn_iff` says for which replies none is raised.
-/

namespace Meshpoint.RfEnvCompanion

open JsonText Raising HostSession PythonValues GpsdSource SpectralScan

/-! ### The service -/

structure SpectralSnapshot (F D : Type) where
  timestamp : D
  floorDbm : F
  medianDbm : F
  frequencyHz : Int
  bandwidthKhz : F
  samples : Int

structure SweepPoint (F : Type) where
  frequencyMhz : F
  floorDbm : F
  medianDbm : F
  p95Dbm : F

structure Sweep (F D : Type) where
  generatedAt : D
  durationSeconds : F
  points : List (SweepPoint F)

structure Config (F : Type) where
  frequencyHz : Int
  bandwidthKhz : F
  nbScan : Int
  sweepFrequenciesHz : List Int
  sweepIntervalSeconds : ℚ

/-- What the service keeps; `spectral` is the history of its `NoiseFloorTracker`. -/
structure State (F D : Type) where
  lastResult : Option (SpectralScanResult D) := none
  scansRun : Nat := 0
  scansFailed : Nat := 0
  everConnected : Bool := false
  latestSweep : Option (Sweep F D) := none
  sweepsRun : Nat := 0
  lastSweepMonotonic : Option ℚ := none
  sweepRequested : Bool := false
  spectral : BoundedDeque (SpectralSnapshot F D) 64 := .empty

/-- What the service uses of the floats. -/
structure CompanionRuntime (F D : Type) extends GpsdRuntime F D where
  /-- `p / 100.0`. -/
  fraction : ℚ → F
  /-- `round(x / 1e6, 4)`. -/
  megahertz : F → F

/-- Exceptions that reading a reply can raise. -/
inductive ReplyError where
  | keyError
  | raised (e : PyException)

/-- `except (KeyError, TypeError, ValueError)`. -/
def ReplyError.caught : ReplyError → Bool
  | .keyError => true
  | .raised .typeError => true
  | .raised .valueError => true
  | .raised _ => false

section

variable {F D : Type} [StationFloat F] (rt : CompanionRuntime F D) (cfg : Config F)

/-! ### Reading a reply -/

def raising {α : Type} (x : Except PyException α) : Except ReplyError α := x.mapError .raised

/-- `reply[key]`. -/
def item (entries : Entries F) (key : String) : Except ReplyError (Value F) :=
  match entries.get? key with
  | some value => .ok value
  | none => .error .keyError

/-- `p[key]`: no list and no text takes a text as an index. -/
def subscript (p : Value F) (key : String) : Except ReplyError (Value F) :=
  match p with
  | .dict entries => item entries key
  | _ => .error (.raised .typeError)

/-- `tuple(int(v) for v in value)`. -/
def intsOf (value : Value F) : Except PyException (List Int) :=
  iterate value >>= fun values => values.mapM intOf

/-- The four conversions of `_run_one_scan`. -/
def readScan (reply : Entries F) (now : D) : Except ReplyError (SpectralScanResult D) := do
  let levels ← item reply "levels_dbm" >>= fun value => raising (intsOf value)
  let counts ← item reply "counts" >>= fun value => raising (intsOf value)
  let frequencyHz ← raising (intOf (getOr reply "frequency_hz" (.int cfg.frequencyHz)))
  let nbScan ← raising (intOf (getOr reply "nb_scan" (.int cfg.nbScan)))
  return ⟨levels, counts, frequencyHz, nbScan, now⟩

/-- `n / 1e6` starts with `float(n)`. -/
def floatOfInt (n : Int) : Except PyException F :=
  match StationFloat.ofIntOrRaise n with
  | some x => .ok x
  | none => .error .overflowError

def readPoint (p : Value F) : Except ReplyError (SweepPoint F) := do
  let hertz ← subscript p "frequency_hz" >>= fun value => raising (intOf value)
  let frequency ← raising (floatOfInt hertz)
  let floor ← subscript p "floor_dbm" >>= fun value => raising (floatOf rt.toGpsdRuntime value)
  let median ← subscript p "median_dbm" >>= fun value => raising (floatOf rt.toGpsdRuntime value)
  let p95 ← subscript p "p95_dbm" >>= fun value => raising (floatOf rt.toGpsdRuntime value)
  return ⟨rt.megahertz frequency, floor, median, p95⟩

def readPoints (reply : Entries F) : Except ReplyError (List (SweepPoint F)) :=
  item reply "points" >>= fun value => raising (iterate value) >>= fun values =>
    values.mapM (readPoint rt)

/-- The arithmetic of `percentile` with floats. -/
def pyArithmetic : Arithmetic F where
  target total p := (fun x => StationFloat.mul x (rt.fraction p)) <$> floatOfInt total
  reached target cumulative := PyFloat.leInt target cumulative
  ofLevel level := floatOfInt level

/-! ### One turn of the loop -/

def State.scanFailed (s : State F D) : State F D := { s with scansFailed := s.scansFailed + 1 }

def State.scanned (result : SpectralScanResult D) (s : State F D) : State F D :=
  { s with lastResult := some result, scansRun := s.scansRun + 1, everConnected := true }

/-- `NoiseFloorTracker.update_from_spectral`. -/
def updateFromSpectral (result : SpectralScanResult D) (floorDbm medianDbm : F) (s : State F D) :
    State F D :=
  let snapshot : SpectralSnapshot F D := {
    timestamp := result.timestamp
    floorDbm := PyFloat.round1 floorDbm
    medianDbm := PyFloat.round1 medianDbm
    frequencyHz := result.frequencyHz
    bandwidthKhz := cfg.bandwidthKhz
    samples := totalSamples result }
  { s with spectral := s.spectral.append snapshot }

/-- The end of `_run_one_scan`: a histogram without samples has no floor and no median. -/
def feedTracker (result : SpectralScanResult D) : Session (State F D) Unit :=
  lift (floorDbm (pyArithmetic rt) result) >>= fun floor =>
    lift (medianDbm (pyArithmetic rt) result) >>= fun median =>
      match floor, median with
      | some floor, some median => act fun s => ((), updateFromSpectral cfg result floor median s)
      | _, _ => pure ()

/-- `_run_one_scan`, with the reply that comes. -/
def runOneScan (reply : Option (Entries F)) (now : D) : Session (State F D) Unit :=
  if cfg.frequencyHz ≤ 0 then pure ()
  else
    match reply with
    | none => act fun s => ((), s.scanFailed)
    | some entries =>
      match readScan cfg entries now with
      | .error e => if e.caught then act fun s => ((), s.scanFailed) else raise
      | .ok result => (act fun s => ((), s.scanned result)) >>= fun _ => feedTracker rt cfg result

/-- `_sweep_due`. -/
def sweepDue (now : ℚ) (s : State F D) : Bool :=
  if cfg.sweepFrequenciesHz = [] then false
  else if s.sweepRequested then true
  else if cfg.sweepIntervalSeconds ≤ 0 then false
  else
    match s.lastSweepMonotonic with
    | none => true
    | some last => cfg.sweepIntervalSeconds ≤ now - last

/-- What happens in one turn: the reply to the scan and when it came, whether a sweep was requested
    by then, the time when the loop asks whether one is due, the reply to the sweep with when it
    came, and whether another sweep was requested before the next turn. -/
structure Turn (F D : Type) where
  scanReply : Option (Entries F)
  scannedAt : D
  requestedBefore : Bool := false
  askedAt : ℚ := 0
  sweepReply : Option (Entries F) := none
  sweptAt : ℚ := 0
  generatedAt : D
  durationSeconds : F
  requestedAfter : Bool := false

/-- `request_sweep`, while the loop runs. -/
def State.request (requested : Bool) (s : State F D) : State F D :=
  { s with sweepRequested :=
      s.sweepRequested || (requested && decide (cfg.sweepFrequenciesHz ≠ [])) }

def State.sweepBegun (now : ℚ) (s : State F D) : State F D :=
  { s with sweepRequested := false, lastSweepMonotonic := some now }

def State.swept (sweep : Sweep F D) (s : State F D) : State F D :=
  { s with sweepsRun := s.sweepsRun + 1, latestSweep := some sweep }

/-- `_run_sweep`, with the reply that comes. -/
def runSweep (turn : Turn F D) : Session (State F D) Unit :=
  (act fun s => ((), s.sweepBegun turn.sweptAt)) >>= fun _ =>
    match turn.sweepReply with
    | none => pure ()
    | some entries =>
      match readPoints rt entries with
      | .error e => if e.caught then pure () else raise
      | .ok points =>
        if points = [] then pure ()
        else act fun s => ((), s.swept ⟨turn.generatedAt, turn.durationSeconds, points⟩)

/-- The body of the loop of `_poll_loop`. -/
def pollOnce (turn : Turn F D) : Session (State F D) Unit :=
  runOneScan rt cfg turn.scanReply turn.scannedAt >>= fun _ =>
    (act fun s => ((), s.request cfg turn.requestedBefore)) >>= fun _ =>
      ask (sweepDue cfg turn.askedAt) >>= fun due =>
        (if due then runSweep rt turn else pure ()) >>= fun _ =>
          act fun s => ((), s.request cfg turn.requestedAfter)

/-- One turn; the exception that leaves it ends the task. -/
def step (s : State F D) (turn : Turn F D) : Except PyException (State F D) :=
  match pollOnce rt cfg turn s with
  | (some (), s') => .ok s'
  | (none, _) => .error .other

/-! ### What is asked of a reply -/

/-- `float(n)` does not raise. -/
def FitsFloat (F : Type) [StationFloat F] (n : Int) : Prop :=
  (StationFloat.ofIntOrRaise n : Option F).isSome = true

/-- The level that stands at `p` percent of the samples. -/
def LevelAt (result : SpectralScanResult D) (p : ℚ) (level : Int) : Prop :=
  ∃ target, (pyArithmetic rt).target (totalSamples result) p = .ok target ∧
    chosenLevel (pyArithmetic rt) result target = .ok level

/-- Where there are samples there is a level, their number is a float, and so is the level at
    `p` percent. -/
def PercentileFits (result : SpectralScanResult D) (p : ℚ) : Prop :=
  0 < totalSamples result → result.levelsDbm ≠ [] ∧ FitsFloat F (totalSamples result) ∧
    ∀ level, LevelAt rt result p level → FitsFloat F level

/-- The first conversion that fails fails with a caught exception, and the histogram of a reply where
    none fails has its floor and its median. -/
def ScanFits (turn : Turn F D) : Prop :=
  0 < cfg.frequencyHz → ∀ entries, turn.scanReply = some entries →
    match readScan cfg entries turn.scannedAt with
    | .error e => e.caught = true
    | .ok result => PercentileFits rt result 10 ∧ PercentileFits rt result 50

/-- The first conversion that fails fails with a caught exception. -/
def SweepFits (turn : Turn F D) : Prop :=
  ∀ entries, turn.sweepReply = some entries → ∀ e, readPoints rt entries = .error e →
    e.caught = true

/-- What is asked of the replies of a turn, of the second one when a sweep is due. -/
def TurnFits (s : State F D) (turn : Turn F D) : Prop :=
  ScanFits rt cfg turn ∧
    (sweepDue cfg turn.askedAt (s.request cfg turn.requestedBefore) = true → SweepFits rt turn)

/-- A malformed reply to the scan leaves the last result, one to the sweep the last sweep. -/
def Kept (turn : Turn F D) (s s' : State F D) : Prop :=
  (∀ entries, turn.scanReply = some entries →
    (∀ result, readScan cfg entries turn.scannedAt ≠ .ok result) →
      s'.lastResult = s.lastResult) ∧
  ∀ entries, turn.sweepReply = some entries →
    (∀ points, readPoints rt entries ≠ .ok points) → s'.latestSweep = s.latestSweep

/-- The loop takes every turn, and each malformed reply leaves what was good before. -/
def GoesOn (s : State F D) (turns : List (Turn F D)) : Prop :=
  (drain (step rt cfg) s turns).2 = turns.length ∧
    ∀ before turn after, turns = before ++ turn :: after →
      Kept rt cfg turn (drain (step rt cfg) s before).1
        (drain (step rt cfg) s (before ++ [turn])).1

/-! ### Percentiles that return -/

variable {rt cfg}

theorem returns_floatOfInt_iff (n : Int) :
    Returns (floatOfInt n : Except PyException F) ↔ FitsFloat F n := by
  unfold floatOfInt FitsFloat
  cases h : (StationFloat.ofIntOrRaise n : Option F) with
  | none => simp
  | some x => simp

omit [StationFloat F] in
theorem returns_chosenLevel_iff (arith : Arithmetic F) (result : SpectralScanResult D)
    (target : F) : Returns (chosenLevel arith result target) ↔ result.levelsDbm ≠ [] := by
  unfold chosenLevel
  cases hwalk : WeightedQuantile.firstReaching (arith.reached target) 0 (sortedBins result) with
  | some level =>
    refine iff_of_true (returns_ok level) ?_
    intro hnil
    have hbins : sortedBins result = [] := by simp [sortedBins, hnil]
    rw [hbins] at hwalk
    cases hwalk
  | none =>
    cases hmax : result.levelsDbm.max? with
    | none => exact iff_of_false (not_returns_error _) (by simp [List.max?_eq_none_iff.mp hmax])
    | some level =>
      refine iff_of_true (returns_ok level) ?_
      intro hnil
      rw [hnil] at hmax
      cases hmax

theorem returns_percentile_iff (result : SpectralScanResult D) (p : ℚ) :
    Returns (percentile (pyArithmetic rt) result p) ↔ PercentileFits rt result p := by
  unfold percentile PercentileFits
  by_cases htotal : totalSamples result ≤ 0
  · rw [if_pos htotal]
    exact iff_of_true (returns_ok none) fun hpos => absurd htotal (not_le.mpr hpos)
  · rw [if_neg htotal]
    have htarget : Returns ((pyArithmetic rt).target (totalSamples result) p) ↔
        FitsFloat F (totalSamples result) :=
      returns_map_iff.trans (returns_floatOfInt_iff _)
    have hlevel : ∀ level, Returns (some <$> (pyArithmetic rt).ofLevel level) ↔
        FitsFloat F level := fun level => returns_map_iff.trans (returns_floatOfInt_iff level)
    rw [returns_bind_iff]
    constructor
    · rintro ⟨target, htarget', hrest⟩ -
      obtain ⟨level, hchosen, hreturns⟩ := returns_bind_iff.mp hrest
      refine ⟨(returns_chosenLevel_iff _ _ target).mp ⟨level, hchosen⟩,
        htarget.mp ⟨target, htarget'⟩, ?_⟩
      rintro level' ⟨target', htarget'', hchosen'⟩
      rw [htarget'] at htarget''
      cases htarget''
      rw [hchosen] at hchosen'
      cases hchosen'
      exact (hlevel level).mp hreturns
    · intro hfits
      obtain ⟨hlevels, hsamples, hchosen⟩ := hfits (not_le.mp htotal)
      obtain ⟨target, htarget'⟩ := htarget.mpr hsamples
      obtain ⟨level, hlevel'⟩ :=
        (returns_chosenLevel_iff (pyArithmetic rt) result target).mpr hlevels
      refine ⟨target, htarget', returns_bind_iff.mpr ⟨level, hlevel', ?_⟩⟩
      exact (hlevel level).mpr (hchosen level ⟨target, htarget', hlevel'⟩)

/-! ### One scan and one sweep -/

/-- The fields that the tracker has no part in. -/
structure SameButSpectral (s s' : State F D) : Prop where
  lastResult : s'.lastResult = s.lastResult
  latestSweep : s'.latestSweep = s.latestSweep
  lastSweepMonotonic : s'.lastSweepMonotonic = s.lastSweepMonotonic
  sweepRequested : s'.sweepRequested = s.sweepRequested

variable (rt cfg) in
theorem feedTracker_spec (result : SpectralScanResult D) (s : State F D) :
    ((feedTracker rt cfg result s).1 = some () ↔
      PercentileFits rt result 10 ∧ PercentileFits rt result 50) ∧
    SameButSpectral s (feedTracker rt cfg result s).2 := by
  rw [← returns_percentile_iff, ← returns_percentile_iff]
  unfold feedTracker floorDbm medianDbm
  cases hfloor : percentile (pyArithmetic rt) result 10 with
  | error e => exact ⟨by simp, rfl, rfl, rfl, rfl⟩
  | ok floor =>
    cases hmedian : percentile (pyArithmetic rt) result 50 with
    | error e => exact ⟨by simp, rfl, rfl, rfl, rfl⟩
    | ok median =>
      cases floor with
      | none => exact ⟨by simp, rfl, rfl, rfl, rfl⟩
      | some floor =>
        cases median with
        | none => exact ⟨by simp, rfl, rfl, rfl, rfl⟩
        | some median => exact ⟨by simp, rfl, rfl, rfl, rfl⟩

/-- What `_run_one_scan` leaves as it was. -/
structure ScanKept (turn : Turn F D) (cfg : Config F) (s s' : State F D) : Prop where
  latestSweep : s'.latestSweep = s.latestSweep
  lastSweepMonotonic : s'.lastSweepMonotonic = s.lastSweepMonotonic
  sweepRequested : s'.sweepRequested = s.sweepRequested
  lastResult : ∀ entries, turn.scanReply = some entries →
    (∀ result, readScan cfg entries turn.scannedAt ≠ .ok result) → s'.lastResult = s.lastResult

variable (rt cfg) in
theorem runOneScan_spec (turn : Turn F D) (s : State F D) :
    ((runOneScan rt cfg turn.scanReply turn.scannedAt s).1 = some () ↔ ScanFits rt cfg turn) ∧
    ScanKept turn cfg s (runOneScan rt cfg turn.scanReply turn.scannedAt s).2 := by
  unfold runOneScan ScanFits
  by_cases hfrequency : cfg.frequencyHz ≤ 0
  · rw [if_pos hfrequency]
    exact ⟨iff_of_true rfl fun hpos => absurd hfrequency (not_le.mpr hpos),
      rfl, rfl, rfl, fun _ _ _ => rfl⟩
  · rw [if_neg hfrequency]
    have hpos := not_le.mp hfrequency
    cases hreply : turn.scanReply with
    | none =>
      refine ⟨iff_of_true rfl fun _ entries hentries => ?_, rfl, rfl, rfl, fun _ _ _ => rfl⟩
      cases hentries
    | some entries =>
      simp only [Option.some.injEq, forall_eq', hpos, true_implies]
      cases hread : readScan cfg entries turn.scannedAt with
      | error e =>
        simp only
        cases hcaught : e.caught with
        | true => exact ⟨by simp, rfl, rfl, rfl, fun _ _ _ => rfl⟩
        | false => exact ⟨by simp, rfl, rfl, rfl, fun _ _ _ => rfl⟩
      | ok result =>
        obtain ⟨hreturns, hsame⟩ :=
          feedTracker_spec rt cfg result (s.scanned result)
        simp only [act_bind]
        refine ⟨hreturns, hsame.latestSweep, hsame.lastSweepMonotonic, hsame.sweepRequested, ?_⟩
        intro entries' hentries' hnone
        rw [hreply] at hentries'
        cases hentries'
        exact absurd hread (hnone result)

variable (rt) in
theorem runSweep_spec (turn : Turn F D) (s : State F D) :
    ((runSweep rt turn s).1 = some () ↔ SweepFits rt turn) ∧
    (runSweep rt turn s).2.lastResult = s.lastResult ∧
    ∀ entries, turn.sweepReply = some entries →
      (∀ points, readPoints rt entries ≠ .ok points) →
        (runSweep rt turn s).2.latestSweep = s.latestSweep := by
  unfold runSweep SweepFits
  rw [act_bind]
  cases hreply : turn.sweepReply with
  | none =>
    refine ⟨iff_of_true rfl fun entries hentries => ?_, rfl, fun _ _ _ => rfl⟩
    cases hentries
  | some entries =>
    simp only [Option.some.injEq, forall_eq']
    cases hread : readPoints rt entries with
    | error e =>
      simp only
      cases hcaught : e.caught with
      | true => exact ⟨by simp [hcaught], rfl, fun _ => rfl⟩
      | false => exact ⟨by simp [hcaught], rfl, fun _ => rfl⟩
    | ok points =>
      by_cases hempty : points = []
      · exact ⟨by simp [hempty], by simp [hempty, State.sweepBegun], fun h => absurd rfl (h points)⟩
      · exact ⟨by simp [hempty], by simp [hempty, State.sweepBegun, State.swept],
          fun h => absurd rfl (h points)⟩

/-! ### The loop -/

theorem sweepDue_congr {now : ℚ} {s s' : State F D}
    (hlast : s'.lastSweepMonotonic = s.lastSweepMonotonic)
    (hrequested : s'.sweepRequested = s.sweepRequested) :
    sweepDue cfg now s' = sweepDue cfg now s := by
  unfold sweepDue
  rw [hlast, hrequested]

variable (rt cfg) in
theorem pollOnce_spec (turn : Turn F D) (s : State F D) :
    ((pollOnce rt cfg turn s).1 = some () ↔ TurnFits rt cfg s turn) ∧
      ((pollOnce rt cfg turn s).1 = some () → Kept rt cfg turn s (pollOnce rt cfg turn s).2) := by
  obtain ⟨hscan, hkept⟩ := runOneScan_spec rt cfg turn s
  unfold pollOnce TurnFits
  cases hrun : runOneScan rt cfg turn.scanReply turn.scannedAt s with
  | mk answer s₁ =>
    rw [hrun] at hscan hkept
    simp only at hscan hkept
    cases answer with
    | none =>
      rw [bind_apply_none hrun]
      refine ⟨iff_of_false (by simp) ?_, by simp⟩
      rintro ⟨hfits, -⟩
      exact absurd (hscan.mpr hfits) (by simp)
    | some answer =>
      rw [bind_apply_some hrun, act_bind]
      have hfits : ScanFits rt cfg turn := hscan.mp rfl
      have hdue : sweepDue cfg turn.askedAt (s₁.request cfg turn.requestedBefore) =
          sweepDue cfg turn.askedAt (s.request cfg turn.requestedBefore) :=
        sweepDue_congr hkept.lastSweepMonotonic (by simp [State.request, hkept.sweepRequested])
      rw [bind_apply_some (rfl : ask (sweepDue cfg turn.askedAt)
        (s₁.request cfg turn.requestedBefore) = (some _, s₁.request cfg turn.requestedBefore)),
        hdue]
      cases hnow : sweepDue cfg turn.askedAt (s.request cfg turn.requestedBefore) with
      | false =>
        rw [if_neg Bool.false_ne_true]
        refine ⟨iff_of_true rfl ⟨hfits, fun h => absurd h (by simp)⟩, fun _ => ⟨?_, ?_⟩⟩
        · exact hkept.lastResult
        · exact fun _ _ _ => hkept.latestSweep
      | true =>
        rw [if_pos rfl]
        obtain ⟨hreturns, hresult, hsweep⟩ :=
          runSweep_spec rt turn (s₁.request cfg turn.requestedBefore)
        cases hswept : runSweep rt turn (s₁.request cfg turn.requestedBefore) with
        | mk answer' s₂ =>
          rw [hswept] at hreturns hresult hsweep
          simp only at hreturns hresult hsweep
          cases answer' with
          | none =>
            rw [bind_apply_none hswept]
            refine ⟨iff_of_false (by simp) ?_, by simp⟩
            rintro ⟨-, hfits'⟩
            exact absurd (hreturns.mpr (hfits' rfl)) (by simp)
          | some answer' =>
            rw [bind_apply_some hswept]
            refine ⟨iff_of_true rfl ⟨hfits, fun _ => hreturns.mp rfl⟩, fun _ => ⟨?_, ?_⟩⟩
            · intro entries hentries hnone
              exact hresult.trans (hkept.lastResult entries hentries hnone)
            · intro entries hentries hnone
              exact (hsweep entries hentries hnone).trans hkept.latestSweep

theorem returns_step_iff (s : State F D) (turn : Turn F D) :
    Returns (step rt cfg s turn) ↔ TurnFits rt cfg s turn := by
  rw [← (pollOnce_spec rt cfg turn s).1, step]
  cases hpoll : pollOnce rt cfg turn s with
  | mk answer s' =>
    cases answer with
    | none => simp
    | some answer => simp

theorem kept_of_step {s s' : State F D} {turn : Turn F D} (h : step rt cfg s turn = .ok s') :
    Kept rt cfg turn s s' := by
  have hkept := (pollOnce_spec rt cfg turn s).2
  unfold step at h
  cases hpoll : pollOnce rt cfg turn s with
  | mk answer s₁ =>
    rw [hpoll] at h hkept
    cases answer with
    | none => cases h
    | some answer =>
      cases h
      exact hkept rfl

variable (rt cfg)

/-- **The poll loop.** It takes every turn, and each malformed reply leaves the last good result and
    sweep, exactly when every turn has replies that fit, in the state it is taken in. -/
theorem goesOn_iff (s : State F D) (turns : List (Turn F D)) :
    GoesOn rt cfg s turns ↔ Raising.Meets (step rt cfg) (TurnFits rt cfg) s turns := by
  rw [← drain_eq_length_iff returns_step_iff s turns]
  constructor
  · exact fun hgoes => hgoes.1
  · intro htaken
    refine ⟨htaken, fun before turn after _ => ?_⟩
    rcases drain_concat (step rt cfg) s before turn with hsame | hstep
    · rw [hsame]
      exact ⟨fun _ _ _ => rfl, fun _ _ _ => rfl⟩
    · exact kept_of_step hstep

end

/-! ### A histogram without levels -/

def wholeRuntime : CompanionRuntime WholeFloat Unit where
  loads _ := .malformed
  floatOfText _ := none
  lower := id
  upper := id
  pyStr _ := ""
  fromIsoFormat _ := none
  fraction p := ⟨p.floor⟩
  megahertz x := x

def eu868Config : Config WholeFloat := ⟨868300000, ⟨125⟩, 512, [], 0⟩

/-- `{"levels_dbm": [], "counts": [3]}`. -/
def noLevels : Turn WholeFloat Unit where
  scanReply := some (.cons "levels_dbm" (.list .nil)
    (.cons "counts" (.list (.cons (.int 3) .nil)) .nil))
  scannedAt := ()
  generatedAt := ()
  durationSeconds := ⟨0⟩

theorem not_goesOn_noLevels : ¬ GoesOn wholeRuntime eu868Config {} [noLevels] := by
  rintro ⟨htaken, -⟩
  rw [drain_eq_length_iff returns_step_iff, Raising.Meets] at htaken
  have hscan : PercentileFits wholeRuntime (⟨[], [3], 868300000, 512, ()⟩) 10 :=
    (htaken.1.1 (by decide) _ rfl).1
  exact (hscan (by decide)).1 rfl

end Meshpoint.RfEnvCompanion
