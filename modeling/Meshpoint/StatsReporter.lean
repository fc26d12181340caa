import Meshpoint.HeardPacket

/-!
# The statistics of the station

Model of `StatsReporter` (`src/analytics/stats_reporter.py`) without the nodes it tracks.
`record_packet` never raises.  `record_farthest_direct` computes with coordinates that a
companion event may have filled with any value; `recordFarthestDirect_returns_iff` says when it
returns.
-/

namespace Meshpoint

open JsonText MqttFormatter Raising

/-- `StatsReporter`. -/
structure StatsReporter (F : Type) where
  totalPackets : Nat := 0
  protocols : OrderedDict String Nat := .empty
  packetTypes : OrderedDict String Nat := .empty
  rssiExcellent : Nat := 0
  rssiGood : Nat := 0
  rssiFair : Nat := 0
  rssiWeak : Nat := 0
  rssiSum : F
  rssiCount : Nat := 0
  bestRssi : Option F := none
  snrSum : F
  snrCount : Nat := 0
  bestSnr : Option F := none
  directCount : Nat := 0
  relayedCount : Nat := 0
  farthestDirectMiles : F
  farthestDirectNodeId : Value F := .str ""
  farthestDirectRssi : Option Int := none

namespace StatsReporter

variable {F : Type} [StationFloat F]

def fresh : StatsReporter F where
  rssiSum := PyFloat.ofInt 0
  snrSum := PyFloat.ofInt 0
  farthestDirectMiles := PyFloat.ofInt 0

/-- `RSSI_NEAR_FIELD_CEILING_DBM`. -/
def RSSI_NEAR_FIELD_CEILING_DBM : F := PyFloat.ofInt (-20)

/-- `3600 / 1.60934`. -/
def MAX_PLAUSIBLE_DISTANCE_MI : F := StationFloat.div (PyFloat.ofInt 3600) (StationFloat.decimal 160934 5)

/-- `counts[key] = counts.get(key, 0) + 1`. -/
def count (counts : OrderedDict String Nat) (key : String) : OrderedDict String Nat :=
  counts.set key ((counts.get? key).getD 0 + 1)

/-- `best is None or x > best`, and then `x`. -/
def better (best : Option F) (x : F) : Option F :=
  match best with
  | none => some x
  | some y => if PyFloat.lt y x then some x else some y

/-- `_classify_rssi`. -/
def classifyRssi (s : StatsReporter F) (rssi : F) : StatsReporter F :=
  if PyFloat.lt (PyFloat.ofInt (-80)) rssi then { s with rssiExcellent := s.rssiExcellent + 1 }
  else if PyFloat.lt (PyFloat.ofInt (-100)) rssi then { s with rssiGood := s.rssiGood + 1 }
  else if PyFloat.lt (PyFloat.ofInt (-115)) rssi then { s with rssiFair := s.rssiFair + 1 }
  else { s with rssiWeak := s.rssiWeak + 1 }

/-- The part of `record_packet` that reads the signal strength. -/
def recordRssi (s : StatsReporter F) (rssi : F) : StatsReporter F :=
  if PyFloat.lt rssi RSSI_NEAR_FIELD_CEILING_DBM then
    let s := s.classifyRssi rssi
    { s with
      rssiSum := StationFloat.add s.rssiSum rssi
      rssiCount := s.rssiCount + 1
      bestRssi := better s.bestRssi rssi }
  else s

/-- The part of `record_packet` that reads the signal-to-noise ratio. -/
def recordSnr (s : StatsReporter F) (snr : F) : StatsReporter F :=
  { s with
    snrSum := StationFloat.add s.snrSum snr
    snrCount := s.snrCount + 1
    bestSnr := better s.bestSnr snr }

/-- `(hop_start - hop_limit) if hop_start > 0 else 0`. -/
def hopsConsumed (hopStart hopLimit : Int) : Int := if 0 < hopStart then hopStart - hopLimit else 0

/-- `record_packet`. -/
def recordPacket (s : StatsReporter F) (protocol packetType : String)
    (signal : Option (SignalMetrics F)) (hopStart hopLimit : Int) : StatsReporter F :=
  let s := { s with
    totalPackets := s.totalPackets + 1
    protocols := count s.protocols protocol
    packetTypes := count s.packetTypes packetType }
  let s := match signal with
    | none => s
    | some signal => (s.recordRssi signal.rssi).recordSnr signal.snr
  if hopsConsumed hopStart hopLimit = 0 then { s with directCount := s.directCount + 1 }
  else { s with relayedCount := s.relayedCount + 1 }

/-- The statistics of a heartbeat. -/
structure Report (F : Type) where
  totalPackets : Nat
  packetsPerMinute : F
  protocols : OrderedDict String Nat
  packetTypes : OrderedDict String Nat
  rssiExcellent : Nat
  rssiGood : Nat
  rssiFair : Nat
  rssiWeak : Nat
  directCount : Nat
  relayedCount : Nat
  rssiSum : F
  rssiCount : Nat
  bestRssi : Option F
  snrSum : F
  snrCount : Nat
  bestSnr : Option F
  /-- Miles, node and strength of the farthest direct packet. -/
  farthestDirect : Option (F × Value F × Option Int)

/-- `packets_per_minute`, that many seconds after the start. -/
def packetsPerMinute (s : StatsReporter F) (elapsed : F) : F :=
  if PyFloat.leInt elapsed 0 || s.totalPackets = 0 then PyFloat.ofInt 0
  else PyFloat.round1 (StationFloat.div (PyFloat.ofInt s.totalPackets)
    (StationFloat.div elapsed (PyFloat.ofInt 60)))

/-- `build_report`. -/
def buildReport (s : StatsReporter F) (elapsed : F) : Report F where
  totalPackets := s.totalPackets
  packetsPerMinute := s.packetsPerMinute elapsed
  protocols := s.protocols
  packetTypes := s.packetTypes
  rssiExcellent := s.rssiExcellent
  rssiGood := s.rssiGood
  rssiFair := s.rssiFair
  rssiWeak := s.rssiWeak
  directCount := s.directCount
  relayedCount := s.relayedCount
  rssiSum := PyFloat.round1 s.rssiSum
  rssiCount := s.rssiCount
  bestRssi := s.bestRssi.map PyFloat.round1
  snrSum := PyFloat.round1 s.snrSum
  snrCount := s.snrCount
  bestSnr := s.bestSnr.map PyFloat.round1
  farthestDirect :=
    if PyFloat.lt (PyFloat.ofInt 0) s.farthestDirectMiles then
      some (s.farthestDirectMiles, s.farthestDirectNodeId, s.farthestDirectRssi)
    else none

/-- `reset`: every counter starts again. -/
def reset (_ : StatsReporter F) : StatsReporter F := fresh

/-- `_haversine_mi`; `none` when it raises. -/
def haversineMi (lat1 lon1 lat2 lon2 : F) : Option F := do
  let r : F := StationFloat.decimal 39588 1
  let two : F := PyFloat.ofInt 2
  let dlat := StationFloat.radians (StationFloat.sub lat2 lat1)
  let dlon := StationFloat.radians (StationFloat.sub lon2 lon1)
  let sinLat ← StationFloat.sin (StationFloat.div dlat two)
  let cosLat1 ← StationFloat.cos (StationFloat.radians lat1)
  let cosLat2 ← StationFloat.cos (StationFloat.radians lat2)
  let sinLon ← StationFloat.sin (StationFloat.div dlon two)
  let a := StationFloat.add (StationFloat.square sinLat)
    (StationFloat.mul (StationFloat.mul cosLat1 cosLat2) (StationFloat.square sinLon))
  let rootA ← StationFloat.sqrt a
  let rootB ← StationFloat.sqrt (StationFloat.sub (PyFloat.ofInt 1) a)
  return StationFloat.mul (StationFloat.mul r two) (StationFloat.atan2 rootA rootB)

/-- A coordinate as the number it is computed with; `none` when subtracting from it raises. -/
def coordinate : Value F → Option F
  | .bool b => some (PyFloat.ofInt (if b then 1 else 0))
  | .int n => StationFloat.ofIntOrRaise n
  | .float x => some x
  | _ => none

/-- `_is_real_position`. -/
def isRealPosition (lat lon : Value F) : Bool := !(equalsInt 0 lat && equalsInt 0 lon)

/-- The distance from the device to a node; `none` when it raises. -/
def distanceTo (device : F × F) (lat lon : Value F) : Option F := do
  let lat ← coordinate lat
  let lon ← coordinate lon
  haversineMi device.1 device.2 lat lon

/-- A distance that is not beaten yet: neither next door nor implausible. -/
def isFarther (s : StatsReporter F) (dist : F) : Bool :=
  !PyFloat.lt dist (StationFloat.decimal 1 1) && !PyFloat.lt MAX_PLAUSIBLE_DISTANCE_MI dist &&
    PyFloat.lt s.farthestDirectMiles dist

/-- `record_farthest_direct`. -/
def recordFarthestDirect (s : StatsReporter F) (sourceId : Value F) (rssi : F) (device : F × F)
    (lat lon : Value F) (hopStart hopLimit : Int) : Except PyException (StatsReporter F) :=
  if hopsConsumed hopStart hopLimit ≠ 0 then .ok s
  else if isRealPosition lat lon = false then .ok s
  else
    match distanceTo device lat lon with
    | none => .error .other
    | some dist =>
      if s.isFarther dist = false then .ok s
      else
        let s := { s with
          farthestDirectMiles := PyFloat.round1 dist
          farthestDirectNodeId := sourceId }
        if PyFloat.lt rssi (PyFloat.ofInt 0) then
          match PyFloat.toInt rssi with
          | none => .error .overflowError
          | some n => .ok { s with farthestDirectRssi := some n }
        else .ok s

/-- The position of a direct node gives a distance, and a farthest one has a finite strength. -/
def Measurable (s : StatsReporter F) (rssi : F) (device : F × F) (lat lon : Value F)
    (hopStart hopLimit : Int) : Prop :=
  hopsConsumed hopStart hopLimit = 0 → isRealPosition lat lon = true →
    ∃ dist ∈ distanceTo device lat lon, s.isFarther dist = true →
      PyFloat.lt rssi (PyFloat.ofInt 0) = true → (PyFloat.toInt rssi).isSome = true

theorem classifyRssi_same (s : StatsReporter F) (rssi : F) :
    (s.classifyRssi rssi).totalPackets = s.totalPackets ∧
      (s.classifyRssi rssi).farthestDirectMiles = s.farthestDirectMiles := by
  unfold classifyRssi
  split
  · exact ⟨rfl, rfl⟩
  · split
    · exact ⟨rfl, rfl⟩
    · split
      · exact ⟨rfl, rfl⟩
      · exact ⟨rfl, rfl⟩

theorem totalPackets_recordRssi (s : StatsReporter F) (rssi : F) :
    (s.recordRssi rssi).totalPackets = s.totalPackets := by
  unfold recordRssi
  split
  · exact (s.classifyRssi_same rssi).1
  · rfl

theorem totalPackets_recordPacket (s : StatsReporter F) (protocol packetType : String)
    (signal : Option (SignalMetrics F)) (hopStart hopLimit : Int) :
    (s.recordPacket protocol packetType signal hopStart hopLimit).totalPackets =
      s.totalPackets + 1 := by
  unfold recordPacket
  cases signal with
  | none =>
    dsimp only
    split <;> rfl
  | some signal =>
    dsimp only [recordSnr]
    split <;> exact totalPackets_recordRssi _ signal.rssi

theorem farthestDirectMiles_recordRssi (s : StatsReporter F) (rssi : F) :
    (s.recordRssi rssi).farthestDirectMiles = s.farthestDirectMiles := by
  unfold recordRssi
  split
  · exact (s.classifyRssi_same rssi).2
  · rfl

theorem measurable_recordPacket_iff (s : StatsReporter F) (protocol packetType : String)
    (signal : Option (SignalMetrics F)) (start limit : Int) (rssi : F) (device : F × F)
    (lat lon : Value F) (hopStart hopLimit : Int) :
    (s.recordPacket protocol packetType signal start limit).Measurable rssi device lat lon
        hopStart hopLimit ↔ s.Measurable rssi device lat lon hopStart hopLimit := by
  have hsame : (s.recordPacket protocol packetType signal start limit).farthestDirectMiles =
      s.farthestDirectMiles := by
    unfold recordPacket
    cases signal with
    | none =>
      dsimp only
      split <;> rfl
    | some signal =>
      dsimp only [recordSnr]
      split <;> exact farthestDirectMiles_recordRssi _ signal.rssi
  unfold Measurable isFarther
  rw [hsame]

theorem recordFarthestDirect_returns_iff (s : StatsReporter F) (sourceId : Value F) (rssi : F)
    (device : F × F) (lat lon : Value F) (hopStart hopLimit : Int) :
    Returns (s.recordFarthestDirect sourceId rssi device lat lon hopStart hopLimit) ↔
      s.Measurable rssi device lat lon hopStart hopLimit := by
  unfold recordFarthestDirect Measurable
  by_cases hhops : hopsConsumed hopStart hopLimit = 0
  swap
  · rw [if_pos hhops]
    exact iff_of_true (returns_ok s) (fun h => absurd h hhops)
  rw [if_neg (not_not.mpr hhops), imp_iff_right hhops]
  cases hreal : isRealPosition lat lon with
  | false => exact iff_of_true (returns_ok s) (fun h => absurd h Bool.false_ne_true)
  | true =>
    rw [if_neg (by simp), imp_iff_right rfl]
    cases distanceTo device lat lon with
    | none =>
      refine iff_of_false (not_returns_error _) ?_
      rintro ⟨dist, hmem, -⟩
      cases hmem
    | some dist =>
      simp only [Option.mem_def, Option.some.injEq, exists_eq_left']
      cases hfar : s.isFarther dist with
      | false => exact iff_of_true (returns_ok s) (fun h => absurd h Bool.false_ne_true)
      | true =>
        rw [if_neg (by simp), imp_iff_right rfl]
        cases hneg : PyFloat.lt rssi (PyFloat.ofInt 0) with
        | false => exact iff_of_true (returns_ok _) (fun h => absurd h Bool.false_ne_true)
        | true =>
          rw [if_pos rfl, imp_iff_right rfl]
          cases PyFloat.toInt rssi with
          | none => exact iff_of_false (not_returns_error _) Bool.false_ne_true
          | some n => exact iff_of_true (returns_ok _) rfl

end StatsReporter

end Meshpoint
