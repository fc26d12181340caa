import Meshpoint.MqttFormatter
import Meshpoint.NodeRepository
import Meshpoint.PortnumHandlers

/-!
# Presence from the wire to the database

The way of a Meshtastic `Position` or `Telemetry` message from its optional fields to the tables
`nodes` and `telemetry`: the parsed message gives zero for what is absent, `portnum_handlers.py`
makes `None` of some zeros, `extract_node_update` and `extract_telemetry` take values from the
dictionary, `upsert` keeps what is stored where the new value is `NULL`.

A message is stored with its presence when a reading it carries is stored with its value, and one
it does not carry is left `NULL` or as it was.  `storedWithPresence_iff` says for which messages
this is so.
-/

namespace Meshpoint.FieldPresence

open JsonText MqttFormatter NodeRepository PortnumHandlers

/-! ### Messages -/

/-- The fields of a `Position` that the handler reads; those the schema calls optional may be
    absent. -/
structure PositionMessage where
  latitudeI : Option Int
  longitudeI : Option Int
  altitude : Option Int
  groundSpeed : Option Int
  groundTrack : Option Int
  satsInView : Int
  precisionBits : Int

structure DeviceMetricsMessage (F : Type) where
  batteryLevel : Option Int
  voltage : Option F
  channelUtilization : Option F
  airUtilTx : Option F
  uptimeSeconds : Option Int

structure EnvironmentMetricsMessage (F : Type) where
  temperature : Option F
  relativeHumidity : Option F
  barometricPressure : Option F

/-- `oneof variant` of a `Telemetry`.  The readings of the last three have no columns. -/
inductive TelemetryMessage (F : Type) where
  | deviceMetrics (metrics : DeviceMetricsMessage F)
  | environmentMetrics (metrics : EnvironmentMetricsMessage F)
  | localStats (stats : LocalStats F)
  | powerMetrics (metrics : PowerMetrics F)
  | other

inductive Message (F : Type) where
  | position (message : PositionMessage)
  | telemetry (message : TelemetryMessage F)

def Message.portnum {F : Type} : Message F → Int
  | .position _ => 3
  | .telemetry _ => 67

def PositionMessage.read (m : PositionMessage) : Position where
  latitudeI := m.latitudeI.getD 0
  longitudeI := m.longitudeI.getD 0
  altitude := m.altitude.getD 0
  satsInView := m.satsInView
  precisionBits := m.precisionBits
  groundSpeed := m.groundSpeed.getD 0
  groundTrack := m.groundTrack.getD 0

section

variable {F : Type} [PyFloat F]

def DeviceMetricsMessage.read (m : DeviceMetricsMessage F) : DeviceMetrics F where
  batteryLevel := m.batteryLevel.getD 0
  voltage := m.voltage.getD (PyFloat.ofInt 0)
  channelUtilization := m.channelUtilization.getD (PyFloat.ofInt 0)
  airUtilTx := m.airUtilTx.getD (PyFloat.ofInt 0)
  uptimeSeconds := m.uptimeSeconds.getD 0

def EnvironmentMetricsMessage.read (m : EnvironmentMetricsMessage F) : EnvironmentMetrics F where
  temperature := m.temperature.getD (PyFloat.ofInt 0)
  relativeHumidity := m.relativeHumidity.getD (PyFloat.ofInt 0)
  barometricPressure := m.barometricPressure.getD (PyFloat.ofInt 0)

def TelemetryMessage.read : TelemetryMessage F → PortnumHandlers.Telemetry F
  | .deviceMetrics m => ⟨some m.read, none, none, none⟩
  | .environmentMetrics m => ⟨none, none, some m.read, none⟩
  | .localStats stats => ⟨none, some stats, none, none⟩
  | .powerMetrics m => ⟨none, none, none, some m⟩
  | .other => ⟨none, none, none, none⟩

def Encodes (pb : AppProtobuf F) (payload : Bytes) : Message F → Prop
  | .position m => pb.position payload = some m.read
  | .telemetry m => pb.telemetry payload = some m.read

/-- A packet whose decrypted payload carries the message. -/
structure Received (pb : AppProtobuf F) (packet : Packet F) (message : Message F) : Prop where
  meshtastic : packet.protocol = .meshtastic
  decoded : ∃ payload, Encodes pb payload message ∧
    (packet.decodedPayload, packet.packetType) = dispatchPortnum pb message.portnum payload

/-! ### Extraction -/

/-- The `Node` of an update, but for the signal. -/
structure NodeUpdate (F : Type) where
  nodeId : String
  protocol : String
  lastHeard : Int
  longName : Value F := .null
  shortName : Value F := .null
  hardwareModel : Value F := .null
  publicKey : Value F := .null
  latitude : Value F := .null
  longitude : Value F := .null
  altitude : Value F := .null

/-- `extract_node_update`. -/
def extractNodeUpdate (packet : Packet F) : Option (NodeUpdate F) :=
  (packet.decodedPayload.filter (!·.isEmpty)).map fun payload =>
    let node : NodeUpdate F := ⟨packet.sourceId, packet.protocol.value, packet.timestamp,
      .null, .null, .null, .null, .null, .null, .null⟩
    match packet.packetType with
    | .nodeinfo =>
      { node with
        longName := getValue payload "long_name"
        shortName := getValue payload "short_name"
        hardwareModel := getValue payload "hw_model"
        publicKey := getValue payload "public_key" }
    | .position =>
      { node with
        latitude := getValue payload "latitude"
        longitude := getValue payload "longitude"
        altitude := getValue payload "altitude" }
    | _ => node

/-- The readings of a row of `telemetry`. -/
structure Readings (V W : Type) where
  batteryLevel : V
  voltage : V
  temperature : V
  humidity : V
  barometricPressure : V
  channelUtilization : V
  airUtilTx : V
  uptimeSeconds : W

/-- The values that `extract_telemetry` takes; `none` for other packets. -/
def extractTelemetry (packet : Packet F) : Option (Readings (Value F) (Value F)) :=
  if packet.packetType = .telemetry then
    (packet.decodedPayload.filter (!·.isEmpty)).map fun payload =>
      { batteryLevel := getValue payload "battery_level"
        voltage := getValue payload "voltage"
        temperature := getValue payload "temperature"
        humidity := getValue payload "humidity"
        barometricPressure := getValue payload "barometric_pressure"
        channelUtilization := getValue payload "channel_utilization"
        airUtilTx := getValue payload "air_util_tx"
        uptimeSeconds := getValue payload "uptime_seconds" }
  else none

/-! ### Columns -/

/-- What a `REAL` column holds of a number or `None`; a NaN is stored as `NULL`.  The handlers
    give nothing else. -/
def realColumn : Value F → Option F
  | .bool b => some (PyFloat.ofInt (if b then 1 else 0))
  | .int n => some (PyFloat.ofInt n)
  | .float x => if PyFloat.isNaN x then none else some x
  | _ => none

/-- What an `INTEGER` column holds of an integer or `None`. -/
def integerColumn : Value F → Option Int
  | .bool b => some (if b then 1 else 0)
  | .int n => some n
  | _ => none

/-- What a `TEXT` column holds of a text or `None`. -/
def textColumn : Value F → Option String
  | .str s => some s
  | _ => none

def Readings.columns (values : Readings (Value F) (Value F)) : Readings (Option F) (Option Int) where
  batteryLevel := realColumn values.batteryLevel
  voltage := realColumn values.voltage
  temperature := realColumn values.temperature
  humidity := realColumn values.humidity
  barometricPressure := realColumn values.barometricPressure
  channelUtilization := realColumn values.channelUtilization
  airUtilTx := realColumn values.airUtilTx
  uptimeSeconds := integerColumn values.uptimeSeconds

structure TelemetryRow (F : Type) extends Readings (Option F) (Option Int) where
  nodeId : String
  timestamp : String

/-- The two tables. -/
structure Tables (F : Type) where
  nodes : Database F
  telemetry : List (TelemetryRow F)

/-- `isoformat` of a time and of the current time. -/
structure Clock where
  isoformat : Int → String
  now : Int

variable (clock : Clock)

/-- The row that `upsert` writes for an update. -/
def NodeUpdate.toNode (update : NodeUpdate F) : Node F where
  nodeId := update.nodeId
  longName := textColumn update.longName
  shortName := textColumn update.shortName
  hardwareModel := textColumn update.hardwareModel
  protocol := update.protocol
  publicKey := textColumn update.publicKey
  latitude := realColumn update.latitude
  longitude := realColumn update.longitude
  altitude := realColumn update.altitude
  lastHeard := clock.isoformat update.lastHeard
  firstSeen := clock.isoformat clock.now

/-- `increment_packet_count`. -/
def incrementPacketCount (db : Database F) (nodeId : String) : Database F :=
  match db.nodes.get? nodeId with
  | none => db
  | some old =>
    { db with
      nodes := db.nodes.set nodeId
        { old with packetCount := old.packetCount + 1, lastHeard := clock.isoformat clock.now } }

/-- What `_update_node` writes for a Meshtastic packet. -/
def updateNode (tables : Tables F) (packet : Packet F) : Tables F :=
  match extractNodeUpdate packet with
  | some update => { tables with nodes := upsert tables.nodes (update.toNode clock) }
  | none =>
    if packet.sourceId = "" then tables
    else { tables with nodes := incrementPacketCount clock tables.nodes packet.sourceId }

/-- `_store_telemetry` of a Meshtastic packet. -/
def storeTelemetry (tables : Tables F) (packet : Packet F) : Tables F :=
  match extractTelemetry packet with
  | none => tables
  | some telemetry =>
    { tables with
      telemetry := tables.telemetry ++ [{
        toReadings := telemetry.columns
        nodeId := packet.sourceId
        timestamp := clock.isoformat packet.timestamp }] }

/-- `_store_packet`, as far as these tables go. -/
def storePacket (tables : Tables F) (packet : Packet F) : Tables F :=
  storeTelemetry clock (updateNode clock tables packet) packet

/-! ### What is required -/

def stored (column : Columns F → Option F) (tables : Tables F) (nodeId : String) : Option F :=
  (tables.nodes.nodes.get? nodeId).bind column

/-- A carried value is stored, an absent one leaves the column. -/
def Keeps (value before after : Option F) : Prop :=
  match value with
  | some x => after = some x
  | none => after = before

def TelemetryMessage.readings : TelemetryMessage F → Readings (Option F) (Option Int)
  | .deviceMetrics m =>
    { batteryLevel := m.batteryLevel.map PyFloat.ofInt
      voltage := m.voltage
      temperature := none
      humidity := none
      barometricPressure := none
      channelUtilization := m.channelUtilization
      airUtilTx := m.airUtilTx
      uptimeSeconds := m.uptimeSeconds }
  | .environmentMetrics m =>
    { batteryLevel := none
      voltage := none
      temperature := m.temperature
      humidity := m.relativeHumidity
      barometricPressure := m.barometricPressure
      channelUtilization := none
      airUtilTx := none
      uptimeSeconds := none }
  | _ => ⟨none, none, none, none, none, none, none, none⟩

/-- The message is stored with its presence for the node. -/
def StoredWithPresence (before after : Tables F) (nodeId : String) : Message F → Prop
  | .position m =>
    Keeps (m.latitudeI.map PyFloat.degrees) (stored Columns.latitude before nodeId)
        (stored Columns.latitude after nodeId) ∧
      Keeps (m.longitudeI.map PyFloat.degrees) (stored Columns.longitude before nodeId)
        (stored Columns.longitude after nodeId) ∧
      Keeps (m.altitude.map PyFloat.ofInt) (stored Columns.altitude before nodeId)
        (stored Columns.altitude after nodeId)
  | .telemetry m =>
    ∃ row, after.telemetry = before.telemetry ++ [row] ∧ row.toReadings = m.readings

/-! ### The condition -/

/-- The reading, where it is carried, is neither zero nor a NaN. -/
def Telling (reading : Option F) : Prop :=
  ∀ x, reading = some x → PyFloat.truthy x = true ∧ PyFloat.isNaN x = false

/-- The coordinates are carried, or the node already stands at zero; an altitude of zero is
    carried only where zero is stored; and no reading is zero or a NaN. -/
def Storable (before : Tables F) (nodeId : String) : Message F → Prop
  | .position m =>
    (m.latitudeI = none → stored Columns.latitude before nodeId = some (PyFloat.degrees 0)) ∧
      (m.longitudeI = none → stored Columns.longitude before nodeId = some (PyFloat.degrees 0)) ∧
      (m.altitude = some 0 → stored Columns.altitude before nodeId = some (PyFloat.ofInt 0))
  | .telemetry (.deviceMetrics m) =>
    m.batteryLevel ≠ some 0 ∧ m.uptimeSeconds ≠ some 0 ∧
      ∀ reading ∈ [m.voltage, m.channelUtilization, m.airUtilTx], Telling reading
  | .telemetry (.environmentMetrics m) =>
    ∀ reading ∈ [m.temperature, m.relativeHumidity, m.barometricPressure], Telling reading
  | .telemetry _ => True

/-- What Python's floats are known for: `0.0` is false, and an integer times `1e-7` is no NaN. -/
structure FloatLaws (F : Type) [PyFloat F] : Prop where
  zero : PyFloat.truthy (PyFloat.ofInt 0 : F) = false
  degrees : ∀ n, PyFloat.isNaN (PyFloat.degrees n : F) = false

/-! ### Columns after an update -/

/-- A column that `ON CONFLICT` coalesces. -/
def Coalesced (column : Columns F → Option F) : Prop :=
  ∀ nodeId new old, column (mergedColumns nodeId new old) = coalesce (column new) (column old)

omit [PyFloat F] in
theorem get?_upsert {column : Columns F → Option F} (hcolumn : Coalesced column)
    (db : Database F) (node : Node F) :
    ((upsert db node).nodes.get? node.nodeId).bind column =
      coalesce (column node.toColumns) ((db.nodes.get? node.nodeId).bind column) := by
  rw [upsert, OrderedDict.get?_set, if_pos rfl, Option.bind_some]
  cases db.nodes.get? node.nodeId with
  | none => exact (Option.or_none (o := column node.toColumns)).symm
  | some old => exact hcolumn node.nodeId node.toColumns old

theorem stored_storePacket (column : Columns F → Option F) (hcolumn : Coalesced column)
    {tables : Tables F} {packet : Packet F} {update : NodeUpdate F}
    (hupdate : extractNodeUpdate packet = some update) :
    stored column (storePacket clock tables packet) update.nodeId =
      coalesce (column (update.toNode clock).toColumns) (stored column tables update.nodeId) := by
  have hnodes : (storePacket clock tables packet).nodes =
      upsert tables.nodes (update.toNode clock) := by
    rw [storePacket, storeTelemetry, updateNode, hupdate]
    cases extractTelemetry packet with
    | none => rfl
    | some telemetry => rfl
  rw [stored, hnodes]
  exact get?_upsert hcolumn tables.nodes (update.toNode clock)

theorem keeps_degrees_iff (laws : FloatLaws F) (value : Option Int) (before : Option F) :
    Keeps (value.map PyFloat.degrees) before
        (coalesce (realColumn (.float (PyFloat.degrees (value.getD 0)))) before) ↔
      (value = none → before = some (PyFloat.degrees 0)) := by
  rw [realColumn, laws.degrees, if_neg Bool.false_ne_true]
  cases value with
  | none => exact ⟨fun h _ => h.symm, fun h => (h rfl).symm⟩
  | some n => exact iff_of_true rfl nofun

theorem keeps_altitude_iff (value : Option Int) (before : Option F) :
    Keeps (value.map PyFloat.ofInt) before
        (coalesce (realColumn (intOrNone (value.getD 0))) before) ↔
      (value = some 0 → before = some (PyFloat.ofInt 0)) := by
  cases value with
  | none => exact iff_of_true rfl nofun
  | some n =>
    rw [Option.getD_some, intOrNone]
    split
    · rename_i hzero
      rw [hzero]
      exact ⟨fun h _ => h, fun h => h rfl⟩
    · rename_i hzero
      refine iff_of_true rfl ?_
      intro h
      exact absurd (Option.some.inj h) hzero

/-! ### Readings -/

omit [PyFloat F] in
/-- A column that takes integers holds an integer reading as it is carried, unless it is zero. -/
theorem column_intOrNone_iff {A : Type} (column : Value F → Option A) (g : Int → A)
    (hnull : column .null = none) (hint : ∀ n, column (.int n) = some (g n))
    (value : Option Int) :
    column (intOrNone (value.getD 0)) = value.map g ↔ value ≠ some 0 := by
  cases value with
  | none => exact iff_of_true hnull nofun
  | some n =>
    rw [Option.getD_some, intOrNone]
    split
    · rename_i hzero
      rw [hzero, hnull]
      exact iff_of_false nofun fun h => h rfl
    · rename_i hzero
      exact iff_of_true (hint n) fun h => hzero (Option.some.inj h)

theorem realColumn_intOrNone_iff (value : Option Int) :
    realColumn (intOrNone (value.getD 0)) = value.map (PyFloat.ofInt (F := F)) ↔ value ≠ some 0 :=
  column_intOrNone_iff realColumn PyFloat.ofInt rfl (fun _ => rfl) value

omit [PyFloat F] in
theorem integerColumn_intOrNone_iff (value : Option Int) :
    integerColumn (intOrNone (F := F) (value.getD 0)) = value ↔ value ≠ some 0 := by
  have hcolumn := column_intOrNone_iff (integerColumn (F := F)) id rfl (fun _ => rfl) value
  rwa [Option.map_id, id_eq] at hcolumn

theorem realColumn_floatOrNone_iff (laws : FloatLaws F) (reading : Option F) :
    realColumn (floatOrNone (reading.getD (PyFloat.ofInt 0))) = reading ↔ Telling reading := by
  cases reading with
  | none =>
    rw [Option.getD_none, floatOrNone, laws.zero, if_neg Bool.false_ne_true]
    exact iff_of_true rfl nofun
  | some x =>
    have htelling : Telling (some x) ↔ PyFloat.truthy x = true ∧ PyFloat.isNaN x = false := by
      constructor
      · intro h
        exact h x rfl
      · rintro h y hy
        cases hy
        exact h
    rw [Option.getD_some, floatOrNone, htelling]
    cases htruthy : PyFloat.truthy x with
    | false => exact iff_of_false nofun fun h => nomatch h.1
    | true =>
      rw [if_pos rfl, realColumn]
      cases hnan : PyFloat.isNaN x with
      | true => exact iff_of_false nofun fun h => nomatch h.2
      | false => exact iff_of_true rfl ⟨rfl, rfl⟩

/-! ### The two messages -/

theorem storedWithPresence_position_iff (laws : FloatLaws F) {pb : AppProtobuf F}
    {packet : Packet F} {m : PositionMessage} (h : Received pb packet (.position m))
    (tables : Tables F) :
    StoredWithPresence tables (storePacket clock tables packet) packet.sourceId (.position m) ↔
      Storable tables packet.sourceId (.position m) := by
  obtain ⟨-, payload, hparse, hdispatch⟩ := h
  have hdecode : dispatchPortnum pb 3 payload = decodePosition pb payload := by
    simp [dispatchPortnum, HANDLERS]
  change _ = dispatchPortnum pb 3 payload at hdispatch
  rw [hdecode, decodePosition, hparse] at hdispatch
  obtain ⟨hpayload, htype⟩ := Prod.mk.inj hdispatch
  have hupdate : ∃ update, extractNodeUpdate packet = some update ∧
      update.nodeId = packet.sourceId ∧
      update.latitude = .float (PyFloat.degrees (m.latitudeI.getD 0)) ∧
      update.longitude = .float (PyFloat.degrees (m.longitudeI.getD 0)) ∧
      update.altitude = intOrNone (m.altitude.getD 0) := by
    rw [extractNodeUpdate, hpayload, htype]
    exact ⟨_, rfl, rfl, rfl, rfl, rfl⟩
  obtain ⟨update, hupdate, hid, hlat, hlon, halt⟩ := hupdate
  rw [StoredWithPresence, Storable, ← hid,
    stored_storePacket clock Columns.latitude (fun _ _ _ => rfl) hupdate,
    stored_storePacket clock Columns.longitude (fun _ _ _ => rfl) hupdate,
    stored_storePacket clock Columns.altitude (fun _ _ _ => rfl) hupdate]
  simp only [NodeUpdate.toNode, hlat, hlon, halt]
  exact and_congr (keeps_degrees_iff laws m.latitudeI _)
    (and_congr (keeps_degrees_iff laws m.longitudeI _) (keeps_altitude_iff m.altitude _))

theorem storedWithPresence_telemetry {packet : Packet F} {m : TelemetryMessage F}
    {values : Readings (Value F) (Value F)} (hvalues : extractTelemetry packet = some values)
    (tables : Tables F) (nodeId : String) :
    StoredWithPresence tables (storePacket clock tables packet) nodeId (.telemetry m) ↔
      values.columns = m.readings := by
  have htelemetry : (updateNode clock tables packet).telemetry = tables.telemetry := by
    rw [updateNode]
    split
    · rfl
    · split
      · rfl
      · rfl
  rw [StoredWithPresence, storePacket, storeTelemetry, hvalues]
  dsimp only
  rw [htelemetry]
  constructor
  · rintro ⟨row, hrow, hreadings⟩
    obtain rfl := List.singleton_inj.mp (List.append_cancel_left hrow)
    exact hreadings
  · intro h
    exact ⟨_, rfl, h⟩

theorem storedWithPresence_telemetry_iff (laws : FloatLaws F) {pb : AppProtobuf F}
    {packet : Packet F} {m : TelemetryMessage F} (h : Received pb packet (.telemetry m))
    (tables : Tables F) :
    StoredWithPresence tables (storePacket clock tables packet) packet.sourceId (.telemetry m) ↔
      Storable tables packet.sourceId (.telemetry m) := by
  obtain ⟨-, payload, hparse, hdispatch⟩ := h
  have hdecode : dispatchPortnum pb 67 payload = decodeTelemetry pb payload := by
    simp [dispatchPortnum, HANDLERS]
  change _ = dispatchPortnum pb 67 payload at hdispatch
  rw [hdecode, decodeTelemetry, hparse] at hdispatch
  obtain ⟨hpayload, htype⟩ := Prod.mk.inj hdispatch
  cases m with
  | deviceMetrics m =>
    have hvalues : ∃ values, extractTelemetry packet = some values ∧ values.columns =
        { batteryLevel := realColumn (intOrNone (m.batteryLevel.getD 0))
          voltage := realColumn (floatOrNone (m.voltage.getD (PyFloat.ofInt 0)))
          temperature := none
          humidity := none
          barometricPressure := none
          channelUtilization :=
            realColumn (floatOrNone (m.channelUtilization.getD (PyFloat.ofInt 0)))
          airUtilTx := realColumn (floatOrNone (m.airUtilTx.getD (PyFloat.ofInt 0)))
          uptimeSeconds := integerColumn (intOrNone (F := F) (m.uptimeSeconds.getD 0)) } := by
      rw [extractTelemetry, htype, if_pos rfl, hpayload]
      exact ⟨_, rfl, rfl⟩
    obtain ⟨values, hvalues, hcolumns⟩ := hvalues
    rw [storedWithPresence_telemetry clock hvalues, hcolumns, TelemetryMessage.readings, Storable]
    simp only [Readings.mk.injEq, true_and, realColumn_intOrNone_iff, integerColumn_intOrNone_iff,
      realColumn_floatOrNone_iff laws, List.forall_mem_cons]
    constructor
    · rintro ⟨hbattery, hvoltage, hutilization, hair, huptime⟩
      exact ⟨hbattery, huptime, hvoltage, hutilization, hair, List.forall_mem_nil _⟩
    · rintro ⟨hbattery, huptime, hvoltage, hutilization, hair, -⟩
      exact ⟨hbattery, hvoltage, hutilization, hair, huptime⟩
  | environmentMetrics m =>
    have hvalues : ∃ values, extractTelemetry packet = some values ∧ values.columns =
        { batteryLevel := none
          voltage := none
          temperature := realColumn (floatOrNone (m.temperature.getD (PyFloat.ofInt 0)))
          humidity := realColumn (floatOrNone (m.relativeHumidity.getD (PyFloat.ofInt 0)))
          barometricPressure :=
            realColumn (floatOrNone (m.barometricPressure.getD (PyFloat.ofInt 0)))
          channelUtilization := none
          airUtilTx := none
          uptimeSeconds := none } := by
      rw [extractTelemetry, htype, if_pos rfl, hpayload]
      exact ⟨_, rfl, rfl⟩
    obtain ⟨values, hvalues, hcolumns⟩ := hvalues
    rw [storedWithPresence_telemetry clock hvalues, hcolumns, TelemetryMessage.readings, Storable]
    simp only [Readings.mk.injEq, true_and, and_true, realColumn_floatOrNone_iff laws,
      List.forall_mem_cons]
    constructor
    · rintro ⟨htemperature, hhumidity, hpressure⟩
      exact ⟨htemperature, hhumidity, hpressure, List.forall_mem_nil _⟩
    · rintro ⟨htemperature, hhumidity, hpressure, -⟩
      exact ⟨htemperature, hhumidity, hpressure⟩
  | localStats stats =>
    rw [storedWithPresence_telemetry clock
      (by rw [extractTelemetry, htype, if_pos rfl, hpayload]; rfl)]
    exact iff_of_true rfl trivial
  | powerMetrics m =>
    rw [storedWithPresence_telemetry clock
      (by rw [extractTelemetry, htype, if_pos rfl, hpayload]; rfl)]
    exact iff_of_true rfl trivial
  | other =>
    rw [storedWithPresence_telemetry clock
      (by rw [extractTelemetry, htype, if_pos rfl, hpayload]; rfl)]
    exact iff_of_true rfl trivial

end

/-- A received message is stored with its presence exactly when it is storable. -/
theorem storedWithPresence_iff {F : Type} [PyFloat F] (laws : FloatLaws F) (clock : Clock)
    {pb : AppProtobuf F} {packet : Packet F} {message : Message F}
    (h : Received pb packet message) (tables : Tables F) :
    StoredWithPresence tables (storePacket clock tables packet) packet.sourceId message ↔
      Storable tables packet.sourceId message := by
  cases message with
  | position m => exact storedWithPresence_position_iff clock laws h tables
  | telemetry m => exact storedWithPresence_telemetry_iff clock laws h tables

/-! ### A position without coordinates -/

theorem floatLaws_wholeFloat : FloatLaws WholeFloat := ⟨rfl, fun _ => rfl⟩

def positionRequest : PositionMessage := ⟨none, none, none, none, none, 0, 0⟩

def emptyPositions : AppProtobuf WholeFloat :=
  { (default : AppProtobuf WholeFloat) with
    position := fun payload => if payload = [] then some positionRequest.read else none }

def requestPacket : Packet WholeFloat where
  packetId := "0000002a"
  sourceId := "aaaa0001"
  destinationId := "bbbb0002"
  protocol := .meshtastic
  packetType := .position
  decodedPayload := (decodePosition emptyPositions []).1
  timestamp := 1

def utc : Clock := ⟨toString, 1⟩

def placedNode : Tables WholeFloat where
  nodes := upsert Database.empty
    { nodeId := "aaaa0001", latitude := some ⟨52⟩, longitude := some ⟨5⟩, lastHeard := "0"
      firstSeen := "0" }
  telemetry := []

theorem received_requestPacket : Received emptyPositions requestPacket (.position positionRequest) where
  meshtastic := rfl
  decoded := ⟨[], rfl, rfl⟩

theorem storedWithPresence_iff_requestPacket :
    StoredWithPresence placedNode (storePacket utc placedNode requestPacket) "aaaa0001"
        (.position positionRequest) ↔
      Storable placedNode "aaaa0001" (.position positionRequest) :=
  storedWithPresence_iff floatLaws_wholeFloat utc received_requestPacket placedNode

/-- The request moves the node to zero. -/
theorem not_storedWithPresence_requestPacket :
    ¬ ∀ (packet : Packet WholeFloat) (message : Message WholeFloat) (tables : Tables WholeFloat),
      Received emptyPositions packet message →
        StoredWithPresence tables (storePacket utc tables packet) packet.sourceId message := by
  intro h
  obtain ⟨hlat, -⟩ := h requestPacket (.position positionRequest) placedNode received_requestPacket
  have hbefore : stored Columns.latitude placedNode "aaaa0001" = some ⟨52⟩ := by decide +kernel
  have hafter : stored Columns.latitude (storePacket utc placedNode requestPacket) "aaaa0001" =
      some ⟨0⟩ := by decide +kernel
  have hmoved := hafter.symm.trans (Eq.trans hlat hbefore)
  exact absurd hmoved (by decide)

end Meshpoint.FieldPresence
