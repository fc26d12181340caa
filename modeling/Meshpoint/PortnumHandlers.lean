import Meshpoint.PacketModel

/-!
# Portnum payload decoders

Model of `src/decode/portnum_handlers.py`: the table of handlers that turn the
inner payload of a decrypted message into a dictionary and a packet type.  The
Meshtastic protobuf classes are the parameter `AppProtobuf`: each parser returns
the fields the handlers read, or `none` when parsing raises.
-/

namespace Meshpoint.PortnumHandlers

open JsonText ByteCodec

/-- Fields of a `Position`. -/
structure Position where
  latitudeI : Int
  longitudeI : Int
  altitude : Int
  satsInView : Int
  precisionBits : Int
  groundSpeed : Int
  groundTrack : Int

structure User where
  longName : String
  shortName : String
  hwModel : Int
  id : String
  role : Int
  publicKey : Bytes

structure DeviceMetrics (F : Type) where
  batteryLevel : Int
  voltage : F
  channelUtilization : F
  airUtilTx : F
  uptimeSeconds : Int

structure LocalStats (F : Type) where
  uptimeSeconds : Int
  channelUtilization : F
  airUtilTx : F
  numPacketsTx : Int
  numPacketsRx : Int

structure EnvironmentMetrics (F : Type) where
  temperature : F
  relativeHumidity : F
  barometricPressure : F

structure PowerMetrics (F : Type) where
  ch1Voltage : F
  ch1Current : F
  ch2Voltage : F
  ch2Current : F

structure Telemetry (F : Type) where
  deviceMetrics : Option (DeviceMetrics F)
  localStats : Option (LocalStats F)
  environmentMetrics : Option (EnvironmentMetrics F)
  powerMetrics : Option (PowerMetrics F)

structure Waypoint where
  id : Int
  name : String
  description : String
  latitudeI : Int
  longitudeI : Int
  icon : Int

structure StoreAndForward where
  rr : Int
  heartbeat : Option (Int × Int)
  stats : Option (Int × Int × Int)

structure Paxcount where
  wifi : Int
  ble : Int
  uptime : Int

structure MapReport where
  longName : String
  shortName : String
  hwModel : Int
  firmwareVersion : String
  numOnlineLocalNodes : Int
  modemPreset : Int
  region : Int
  hasDefaultChannel : Bool
  latitudeI : Int
  longitudeI : Int

structure Routing where
  errorReason : Int
  routeRequest : Option (List Nat)
  routeReply : Option (List Nat)

structure NeighborInfo (F : Type) where
  neighbors : List (Nat × F)
  nodeBroadcastIntervalSecs : Int

structure RouteDiscovery where
  route : List Nat
  snrTowards : List Int
  snrBack : List Int

/-- The parsers of the Meshtastic protobuf package. -/
structure AppProtobuf (F : Type) where
  position : Bytes → Option Position
  user : Bytes → Option User
  telemetry : Bytes → Option (Telemetry F)
  waypoint : Bytes → Option Waypoint
  storeAndForward : Bytes → Option StoreAndForward
  paxcount : Bytes → Option Paxcount
  mapReport : Bytes → Option MapReport
  routing : Bytes → Option Routing
  neighborInfo : Bytes → Option (NeighborInfo F)
  routeDiscovery : Bytes → Option RouteDiscovery

/-- Parsers that reject every payload. -/
instance (F : Type) : Inhabited (AppProtobuf F) where
  default :=
    { position _ := none, user _ := none, telemetry _ := none, waypoint _ := none
      storeAndForward _ := none, paxcount _ := none, mapReport _ := none, routing _ := none
      neighborInfo _ := none, routeDiscovery _ := none }

abbrev Result (F : Type) := Option (Entries F) × PacketType

section

variable {F : Type} [PyFloat F]

/-- `n if n else None`. -/
def intOrNone (n : Int) : Value F := if n = 0 then .null else .int n

/-- `s or None`. -/
def textOrNone (s : String) : Value F := if s = "" then .null else .str s

/-- `x or None`. -/
def floatOrNone (x : F) : Value F := if PyFloat.truthy x then .float x else .null

/-- `str(n) if n else None`. -/
def enumOrNone (n : Int) : Value F := if n = 0 then .null else .str (toString n)

/-- `format(n, '08x')` of a list of node numbers. -/
def hexList (nodes : List Nat) : Value F :=
  .list (Values.ofList (nodes.map fun n => .str (String.ofList (hexFixed 8 n))))

def rawHex (payload : Bytes) : Entries F := Entries.ofList [("raw_hex", .str (hexlify payload))]

/-- The handlers of plain text: text messages, range tests and detection sensors. -/
def decodeTextAs (packetType : PacketType) (payload : Bytes) : Result F :=
  (some (Entries.ofList [("text", .str (utf8DecodeReplace payload))]), packetType)

def decodeText (payload : Bytes) : Result F := decodeTextAs .text payload
def decodeRangeTest (payload : Bytes) : Result F := decodeTextAs .rangeTest payload
def decodeDetectionSensor (payload : Bytes) : Result F := decodeTextAs .detectionSensor payload

variable (pb : AppProtobuf F)

def decodePosition (payload : Bytes) : Result F :=
  ((pb.position payload).map fun pos => Entries.ofList
    [("latitude", .float (PyFloat.degrees pos.latitudeI)),
      ("longitude", .float (PyFloat.degrees pos.longitudeI)),
      ("altitude", intOrNone pos.altitude), ("sats_in_view", intOrNone pos.satsInView),
      ("precision_bits", intOrNone pos.precisionBits),
      ("ground_speed", intOrNone pos.groundSpeed), ("ground_track", intOrNone pos.groundTrack)],
    .position)

def decodeNodeinfo (payload : Bytes) : Result F :=
  ((pb.user payload).map fun user => Entries.ofList
    [("long_name", textOrNone user.longName), ("short_name", textOrNone user.shortName),
      ("hw_model", enumOrNone user.hwModel), ("id", textOrNone user.id),
      ("role", enumOrNone user.role),
      ("public_key", if user.publicKey.length = 32 then .str (hexlify user.publicKey) else .null)],
    .nodeinfo)

/-- `telemetry_variant`. -/
def telemetryVariant (payload : Bytes) (telem : Telemetry F) : String :=
  if telem.localStats.isSome then "local_stats"
  else if telem.deviceMetrics.isSome then "device_metrics"
  else if payload.head? = some 0x32 then "local_stats"
  else "device_metrics"

def decodeTelemetry (payload : Bytes) : Result F :=
  ((pb.telemetry payload).map fun telem => Entries.ofList
    ([("telemetry_variant", .str (telemetryVariant payload telem))] ++
      (match telem.deviceMetrics with
        | some dm =>
          [("battery_level", intOrNone dm.batteryLevel), ("voltage", floatOrNone dm.voltage),
            ("channel_utilization", floatOrNone dm.channelUtilization),
            ("air_util_tx", floatOrNone dm.airUtilTx),
            ("uptime_seconds", intOrNone dm.uptimeSeconds)]
        | none => []) ++
      (match telem.localStats with
        | some ls =>
          [("local_uptime_seconds", intOrNone ls.uptimeSeconds),
            ("local_channel_utilization", floatOrNone ls.channelUtilization),
            ("local_air_util_tx", floatOrNone ls.airUtilTx),
            ("num_packets_tx", intOrNone ls.numPacketsTx),
            ("num_packets_rx", intOrNone ls.numPacketsRx)]
        | none => []) ++
      (match telem.environmentMetrics with
        | some em =>
          [("temperature", floatOrNone em.temperature),
            ("humidity", floatOrNone em.relativeHumidity),
            ("barometric_pressure", floatOrNone em.barometricPressure)]
        | none => []) ++
      (match telem.powerMetrics with
        | some pm =>
          [("power_ch1_voltage", floatOrNone pm.ch1Voltage),
            ("power_ch1_current", floatOrNone pm.ch1Current),
            ("power_ch2_voltage", floatOrNone pm.ch2Voltage),
            ("power_ch2_current", floatOrNone pm.ch2Current)]
        | none => [])),
    .telemetry)

/-- `n * 1e-7 if n else None`. -/
def degreesOrNone (n : Int) : Value F := if n = 0 then .null else .float (PyFloat.degrees n)

def decodeWaypoint (payload : Bytes) : Result F :=
  ((pb.waypoint payload).map fun wp => Entries.ofList
    [("id", .int wp.id), ("name", textOrNone wp.name), ("description", textOrNone wp.description),
      ("latitude", degreesOrNone wp.latitudeI), ("longitude", degreesOrNone wp.longitudeI),
      ("icon", intOrNone wp.icon)],
    .waypoint)

/-- Handlers that fall back to the raw bytes when parsing raises. -/
def orRawHex (packetType : PacketType) (payload : Bytes) (parsed : Option (Entries F)) : Result F :=
  (some (parsed.getD (rawHex payload)), packetType)

def decodeStoreForward (payload : Bytes) : Result F :=
  orRawHex .storeForward payload ((pb.storeAndForward payload).map fun sf => Entries.ofList
    ([("rr", .int sf.rr)] ++
      (match sf.heartbeat with
        | some (period, secondary) => [("period", .int period), ("secondary", .int secondary)]
        | none => []) ++
      (match sf.stats with
        | some (total, saved, max) =>
          [("messages_total", .int total), ("messages_saved", .int saved),
            ("messages_max", .int max)]
        | none => [])))

def decodePaxcounter (payload : Bytes) : Result F :=
  orRawHex .paxcounter payload ((pb.paxcount payload).map fun pax => Entries.ofList
    [("wifi", .int pax.wifi), ("ble", .int pax.ble), ("uptime", .int pax.uptime)])

def decodeMapReport (payload : Bytes) : Result F :=
  orRawHex .mapReport payload ((pb.mapReport payload).map fun report => Entries.ofList
    ([("long_name", textOrNone report.longName), ("short_name", textOrNone report.shortName),
        ("hw_model", enumOrNone report.hwModel),
        ("firmware_version", textOrNone report.firmwareVersion),
        ("num_online_local_nodes", intOrNone report.numOnlineLocalNodes),
        ("modem_preset", enumOrNone report.modemPreset), ("region", enumOrNone report.region),
        ("has_default_channel", if report.hasDefaultChannel then .bool true else .null)] ++
      (if report.latitudeI = 0 then [] else
        [("latitude", .float (PyFloat.degrees report.latitudeI))]) ++
      (if report.longitudeI = 0 then [] else
        [("longitude", .float (PyFloat.degrees report.longitudeI))])))

def decodeRouting (payload : Bytes) : Result F :=
  orRawHex .routing payload ((pb.routing payload).map fun routing => Entries.ofList
    ((if routing.errorReason = 0 then [] else
        [("error_reason", .str (toString routing.errorReason))]) ++
      (match routing.routeRequest with
        | some route => [("route_request", hexList route)]
        | none => []) ++
      (match routing.routeReply with
        | some route => [("route_reply", hexList route)]
        | none => [])))

def decodeNeighborinfo (payload : Bytes) : Result F :=
  orRawHex .neighborinfo payload ((pb.neighborInfo payload).map fun ni => Entries.ofList
    [("neighbors", .list (Values.ofList (ni.neighbors.map fun n => .dict (Entries.ofList
        [("node_id", .str (String.ofList (hexFixed 8 n.1))),
          ("snr", if PyFloat.truthy n.2 then .float (PyFloat.round1 n.2) else .null)])))),
      ("node_broadcast_interval_secs", intOrNone ni.nodeBroadcastIntervalSecs)])

def decodeTraceroute (payload : Bytes) : Result F :=
  orRawHex .traceroute payload ((pb.routeDiscovery payload).map fun rd => Entries.ofList
    [("route", hexList rd.route),
      ("snr_towards", .list (Values.ofList (rd.snrTowards.map .int))),
      ("snr_back", .list (Values.ofList (rd.snrBack.map .int)))])

/-- `_passthrough`. -/
def passthrough (packetType : PacketType) (_ : Bytes) : Result F :=
  (some (Entries.ofList [("portnum", .null)]), packetType)

/-- `_HANDLERS`. -/
def HANDLERS : List (Int × (Bytes → Result F)) :=
  [(1, decodeText), (3, decodePosition pb), (4, decodeNodeinfo pb), (67, decodeTelemetry pb),
    (5, decodeRouting pb), (70, decodeTraceroute pb), (71, decodeNeighborinfo pb),
    (6, passthrough .admin), (8, decodeWaypoint pb), (66, decodeRangeTest),
    (65, decodeStoreForward pb), (10, decodeDetectionSensor), (34, decodePaxcounter pb),
    (73, decodeMapReport pb)]

/-- `dispatch_portnum`. -/
def dispatchPortnum (portnum : Int) (payload : Bytes) : Result F :=
  match (HANDLERS pb).find? fun entry => decide (entry.1 = portnum) with
  | some entry => entry.2 payload
  | none =>
    (some (Entries.ofList [("portnum", .int portnum), ("raw_hex", .str (hexlify payload))]),
      .unknown)

theorem dispatchPortnum_text (payload : Bytes) :
    dispatchPortnum pb 1 payload =
      (some (Entries.ofList [("text", .str (utf8DecodeReplace payload))]), .text) := by
  simp [dispatchPortnum, HANDLERS, decodeText, decodeTextAs]

end

end Meshpoint.PortnumHandlers
