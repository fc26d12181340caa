import Meshpoint.AlignedCells
import Meshpoint.MqttFormatter

/-!
# Map reports

Model of `src/relay/map_report.py`. A map report carries the position of the Meshpoint only to
the cell of its configured precision; `roundScaled_spec` gives the published coordinate as the
middle of that cell, and `buildMapReportMessage_congr` the same of the whole message.
-/

namespace Meshpoint.MapReport

open ByteCodec MqttFormatter AlignedCells

def MAP_REPORT_PORTNUM : Nat := 73
def BROADCAST_NODE_ID : Nat := 0xFFFFFFFF
def MIN_POSITION_PRECISION : Int := 12
def MAX_POSITION_PRECISION : Int := 15
def DEFAULT_POSITION_PRECISION : Int := 14

structure MapReportData (F : Type) where
  nodeId : Int
  longName : String
  shortName : String
  latitude : F
  longitude : F
  altitude : Option F
  firmwareVersion : String
  region : String
  modemPreset : String
  primaryChannelName : String
  hasDefaultChannel : Bool
  numOnlineLocalNodes : Int := 0
  positionPrecision : Int := DEFAULT_POSITION_PRECISION
  role : Int := 0
  hwModel : Int := 37

/-- The fields set on the `MapReport` protobuf. -/
structure MapReportFields where
  longName : String
  shortName : String
  role : Int
  hwModel : Int
  firmwareVersion : String
  region : Int
  modemPreset : Int
  hasDefaultChannel : Bool
  latitudeI : Int
  longitudeI : Int
  altitude : Option Int
  positionPrecision : Int
  numOnlineLocalNodes : Int
  hasOptedReportLocation : Bool
deriving DecidableEq

/-- The fields set on the `ServiceEnvelope` and the `MeshPacket` in it. -/
structure ReportEnvelope where
  source : Nat
  dest : Nat
  portnum : Nat
  payload : Bytes
  channelId : String
  gatewayId : String
deriving DecidableEq

/-- What comes from outside the module: the protobuf classes, which refuse some field values, the
    enums generated with them, `str.lower` and the text of `!{node_id:08x}`. -/
structure ReportRuntime where
  enumNumber : String → String → Option Int
  reportBytes : MapReportFields → Option Bytes
  envelopeBytes : ReportEnvelope → Option Bytes
  lower : String → String
  nodeIdText : Nat → String

/-- `_enum_value`. -/
def enumValue (rt : ReportRuntime) (enumPath name : String) : Int :=
  (rt.enumNumber enumPath name).getD 0

/-- `_round_coordinate` on `value = int(float(degrees) * 1e7)`. -/
def roundScaled (value : Int) (precision : Nat) : Int :=
  let unsigned := Int.land value 0xFFFFFFFF
  let mask := Int.land ((0xFFFFFFFF : Int) <<< (32 - precision)) 0xFFFFFFFF
  let rounded := Int.land (Int.land unsigned mask + (1 : Int) <<< (31 - precision)) 0xFFFFFFFF
  if rounded ≥ 0x80000000 then rounded - 0x100000000 else rounded

section

variable {F : Type} [PyFloat F]

/-- `_round_coordinate`; `none` when `int` raises. -/
def roundCoordinate (degrees : F) (precision : Nat) : Option Int :=
  (PyFloat.degreesInt degrees).map fun value => roundScaled value precision

def reportPrecision (data : MapReportData F) : Nat :=
  (max MIN_POSITION_PRECISION (min data.positionPrecision MAX_POSITION_PRECISION)).toNat

def reportAltitude (data : MapReportData F) : Option (Option Int) :=
  match data.altitude with
  | none => some none
  | some altitude => (PyFloat.toInt altitude).map some

/-- The `report` of `build_map_report_message`. -/
def buildMapReport (rt : ReportRuntime) (data : MapReportData F) : Option MapReportFields := do
  let precision := reportPrecision data
  let latitudeI ← roundCoordinate data.latitude precision
  let longitudeI ← roundCoordinate data.longitude precision
  let altitude ← reportAltitude data
  pure
    { longName := String.ofList (data.longName.toList.take 24)
      shortName := String.ofList (data.shortName.toList.take 4)
      role := data.role
      hwModel := data.hwModel
      firmwareVersion := String.ofList (data.firmwareVersion.toList.take 17)
      region := enumValue rt "Config.LoRaConfig.RegionCode" data.region
      modemPreset := enumValue rt "Config.LoRaConfig.ModemPreset" data.modemPreset
      hasDefaultChannel := data.hasDefaultChannel
      latitudeI := latitudeI
      longitudeI := longitudeI
      altitude := altitude
      positionPrecision := precision
      numOnlineLocalNodes := max 0 (min data.numOnlineLocalNodes 0xFFFF)
      hasOptedReportLocation := true }

/-- `build_map_report_message`; `none` when it raises. -/
def buildMapReportMessage (rt : ReportRuntime) (data : MapReportData F)
    (topicRoot mqttRegion : String) : Option MqttMessage := do
  let nodeId := mask32 data.nodeId
  let payload ← (buildMapReport rt data).bind rt.reportBytes
  let envelope ← rt.envelopeBytes
    { source := nodeId
      dest := BROADCAST_NODE_ID
      portnum := MAP_REPORT_PORTNUM
      payload := payload
      channelId := data.primaryChannelName
      gatewayId := rt.nodeIdText nodeId }
  pure { topic := buildTopicPrefix rt.lower topicRoot mqttRegion ++ "/2/map/"
         payload := envelope }

end

/-! ### The published coordinate -/

def halfCell (precision : Nat) : Int := 2 ^ (31 - precision)

def cellWidth (precision : Nat) : Int := 2 ^ (32 - precision)

section

variable {precision : Nat}

theorem cellWidth_eq (hp : precision ≤ 31) : cellWidth precision = 2 * halfCell precision := by
  rw [cellWidth, halfCell, show 32 - precision = (31 - precision) + 1 by omega, pow_succ]
  ring

theorem halfCell_pos (precision : Nat) : 0 < halfCell precision := by
  rw [halfCell]
  positivity

theorem cells_dvd (hp : 1 ≤ precision ∧ precision ≤ 31) :
    2 * halfCell precision ∣ (2 ^ 31 : Int) := by
  rw [← cellWidth_eq hp.2, cellWidth]
  exact pow_dvd_pow 2 (by omega)

theorem unsigned_rounded (hp : 1 ≤ precision ∧ precision ≤ 31) (value : Int) :
    Int.land (Int.land (Int.land value 0xFFFFFFFF)
        (Int.land ((0xFFFFFFFF : Int) <<< (32 - precision)) 0xFFFFFFFF) +
          (1 : Int) <<< (31 - precision)) 0xFFFFFFFF = cellMiddle (halfCell precision) (value % 2 ^ 32) := by
  have hlow := Int.emod_nonneg value (show (2 ^ 32 : Int) ≠ 0 by decide)
  have hup := Int.emod_lt_of_pos value (show (0 : Int) < 2 ^ 32 by decide)
  have hland : ∀ v : Int, Int.land v 0xFFFFFFFF = v % 2 ^ 32 := fun v => land_lowMask v 32
  obtain ⟨u, hu⟩ := Int.eq_ofNat_of_zero_le hlow
  have hmask : Int.land (u : Int) (Int.land ((0xFFFFFFFF : Int) <<< (32 - precision)) 0xFFFFFFFF) =
      ((u / 2 ^ (32 - precision) * 2 ^ (32 - precision) : Nat) : Int) := by
    rw [← land_highMask (show u < 2 ^ 32 by omega)]
    rfl
  have hmiddle : ((u / 2 ^ (32 - precision) * 2 ^ (32 - precision) : Nat) : Int) +
      (1 : Int) <<< (31 - precision) = cellMiddle (halfCell precision) u := by
    rw [cellMiddle, ← cellWidth_eq hp.2, Int.shiftLeft_eq, cellWidth, halfCell]
    push_cast
    ring
  have hdvd : 2 * halfCell precision ∣ (2 ^ 32 : Int) :=
    (cells_dvd hp).trans (by decide)
  have hbelow := (cellMiddle_lt_iff hdvd (halfCell_pos precision) u).mpr (by omega)
  have hzero := (cellMiddle_lt_iff (dvd_zero _) (halfCell_pos precision) u).not.mpr (by omega)
  rw [hland value, hu, hmask, hmiddle, hland, Int.emod_eq_of_lt (by omega) hbelow]

theorem roundScaled_spec (hp : 1 ≤ precision ∧ precision ≤ 31) {value : Int}
    (hv : -2 ^ 31 ≤ value ∧ value < 2 ^ 31) :
    roundScaled value precision = cellMiddle (halfCell precision) value := by
  have hpos := halfCell_pos precision
  have hdvd := cells_dvd hp
  have hneg : 2 * halfCell precision ∣ (-2 ^ 31 : Int) := (Int.dvd_neg).mpr hdvd
  have hsign := cellMiddle_lt_iff (dvd_zero _) hpos value
  have hup := (cellMiddle_lt_iff hdvd hpos value).mpr hv.2
  have hlow := (cellMiddle_lt_iff hneg hpos value).not.mpr (not_lt.mpr hv.1)
  simp only [roundScaled, unsigned_rounded hp]
  by_cases hnn : 0 ≤ value
  · rw [Int.emod_eq_of_lt hnn (by omega), if_neg (by omega)]
  · have hwrap : value % 2 ^ 32 = value + 2 ^ 32 := by omega
    rw [hwrap, cellMiddle_add (hdvd.trans (by decide)) hpos, if_pos (by omega)]
    omega

theorem roundScaled_range (hp : 1 ≤ precision ∧ precision ≤ 31) {value : Int}
    (hv : -2 ^ 31 ≤ value ∧ value < 2 ^ 31) :
    -2 ^ 31 ≤ roundScaled value precision ∧ roundScaled value precision < 2 ^ 31 := by
  have hpos := halfCell_pos precision
  have hneg : 2 * halfCell precision ∣ (-2 ^ 31 : Int) := (Int.dvd_neg).mpr (cells_dvd hp)
  rw [roundScaled_spec hp hv]
  exact ⟨not_lt.mp ((cellMiddle_lt_iff hneg hpos value).not.mpr (not_lt.mpr hv.1)),
    (cellMiddle_lt_iff (cells_dvd hp) hpos value).mpr hv.2⟩

end

/-- The coordinates that latitudes and longitudes scale to. -/
def Scaled (value : Int) : Prop := -1800000000 ≤ value ∧ value ≤ 1800000000

instance (value : Int) : Decidable (Scaled value) := inferInstanceAs (Decidable (_ ∧ _))

theorem Scaled.signed {value : Int} (hv : Scaled value) : -2 ^ 31 ≤ value ∧ value < 2 ^ 31 := by
  obtain ⟨hlow, hup⟩ := hv
  omega

/-- The published coordinate tells the cell of the true one and nothing else. -/
theorem roundScaled_masks {precision : Nat} (hp : 12 ≤ precision ∧ precision ≤ 15) {v w : Int}
    (hv : Scaled v) (hw : Scaled w) :
    (-2 ^ 31 ≤ roundScaled v precision ∧ roundScaled v precision < 2 ^ 31) ∧
      SameCell (cellWidth precision) v (roundScaled v precision) ∧
      roundScaled v precision =
        cellWidth precision * (v / cellWidth precision) + cellWidth precision / 2 ∧
      (SameCell (cellWidth precision) v w →
        roundScaled v precision = roundScaled w precision) ∧
      2 * |roundScaled v precision - v| ≤ cellWidth precision ∧
      roundScaled (roundScaled v precision) precision = roundScaled v precision ∧
      (v ≤ w → roundScaled v precision ≤ roundScaled w precision) := by
  have hp' : 1 ≤ precision ∧ precision ≤ 31 := by omega
  have hpos := halfCell_pos precision
  have hrange := roundScaled_range hp' hv.signed
  have hspec := roundScaled_spec hp' hv.signed
  have hagain := roundScaled_spec hp' hrange
  have hdist := abs_cellMiddle_sub_le hpos v
  rw [hagain, roundScaled_spec hp' hw.signed]
  refine ⟨hrange, ?_, ?_, ?_, ?_, ?_, ?_⟩
  · rw [hspec, cellWidth_eq hp'.2]
    exact sameCell_cellMiddle hpos v
  · have hhalf : cellWidth precision / 2 = halfCell precision := by
      rw [cellWidth_eq hp'.2]
      omega
    rw [hspec, hhalf, cellWidth_eq hp'.2, cellMiddle]
  · rw [hspec, cellWidth_eq hp'.2]
    exact cellMiddle_congr
  · rw [hspec, cellWidth_eq hp'.2]
    omega
  · rw [hspec]
    exact cellMiddle_cellMiddle hpos v
  · rw [hspec]
    exact cellMiddle_mono hpos

/-- New York and a point a street away, west of the prime meridian. -/
theorem roundScaled_masks_example :
    roundScaled (-740060000) 14 = roundScaled (-740060500) 14 ∧
      |roundScaled (-740060000) 14 - -740060000| ≤ 2 ^ 17 := by
  have h := roundScaled_masks (show 12 ≤ 14 ∧ 14 ≤ 15 by decide)
    (show Scaled (-740060000) by decide) (show Scaled (-740060500) by decide)
  have hw : cellWidth 14 = 2 ^ 18 := rfl
  refine ⟨h.2.2.2.1 (by decide), ?_⟩
  have hdist := h.2.2.2.2.1
  rw [hw] at hdist
  omega

/-! ### The published message -/

section

variable {F : Type} [PyFloat F]

theorem reportPrecision_bounds (data : MapReportData F) :
    12 ≤ reportPrecision data ∧ reportPrecision data ≤ 15 := by
  simp only [reportPrecision, MIN_POSITION_PRECISION, MAX_POSITION_PRECISION]
  omega

/-- Two positions in one cell of the report's precision. -/
def SamePlace (precision : Nat) (x y : F) : Prop :=
  ∃ v w, PyFloat.degreesInt x = some v ∧ PyFloat.degreesInt y = some w ∧
    Scaled v ∧ Scaled w ∧ SameCell (cellWidth precision) v w

theorem roundCoordinate_congr {precision : Nat} (hp : 12 ≤ precision ∧ precision ≤ 15) {x y : F}
    (hxy : SamePlace precision x y) :
    roundCoordinate x precision = roundCoordinate y precision := by
  rcases hxy with ⟨v, w, hx, hy, hv, hw, hcell⟩
  have hp' : 1 ≤ precision ∧ precision ≤ 31 := by omega
  rw [cellWidth_eq hp'.2] at hcell
  have hround : roundScaled v precision = roundScaled w precision := by
    rw [roundScaled_spec hp' hv.signed, roundScaled_spec hp' hw.signed]
    exact cellMiddle_congr hcell
  simp [roundCoordinate, hx, hy, hround]

/-- Whatever precision is configured, a Meshpoint that moves within a cell publishes the message
    it published before. -/
theorem buildMapReportMessage_congr (rt : ReportRuntime) (data : MapReportData F)
    {latitude longitude : F} (topicRoot mqttRegion : String)
    (hlat : SamePlace (reportPrecision data) data.latitude latitude)
    (hlon : SamePlace (reportPrecision data) data.longitude longitude) :
    buildMapReportMessage rt { data with latitude := latitude, longitude := longitude }
        topicRoot mqttRegion =
      buildMapReportMessage rt data topicRoot mqttRegion := by
  have hp := reportPrecision_bounds data
  have hreport : buildMapReport rt { data with latitude := latitude, longitude := longitude } =
      buildMapReport rt data := by
    have hsame : reportPrecision { data with latitude := latitude, longitude := longitude } =
      reportPrecision data := rfl
    simp only [buildMapReport, hsame, ← roundCoordinate_congr hp hlat,
      ← roundCoordinate_congr hp hlon]
    rfl
  simp only [buildMapReportMessage, hreport]

end

end Meshpoint.MapReport
