import Meshpoint.PacketModel
import Meshpoint.ChannelResolver
import Meshpoint.PyText

/-!
# MQTT topics and payloads

Model of `src/relay/mqtt_formatter.py`: the Meshtastic formatter (protobuf
envelope and JSON mirror) and the MeshCore formatter (JSON).  The Meshtastic
protobuf classes, the built-in `hash` of a string and `str` of a payload value
are fields of `Runtime`; a formatter that raises returns `none`.
-/

namespace Meshpoint.MqttFormatter

open JsonText ByteCodec PyText

variable {F : Type}

structure MqttMessage where
  topic : String
  payload : Bytes
deriving DecidableEq

/-- `payload_variant` of a `MeshPacket`. -/
inductive Variant where
  | decoded (portnum : Nat) (payload : Bytes)
  | encrypted (payload : Bytes)

/-- The fields the formatter sets on a `MeshPacket`. -/
structure MeshPacketFields (F : Type) where
  id : Nat
  hopLimit : Nat
  hopStart : Nat
  wantAck : Bool
  channel : Nat
  source : Option Nat
  dest : Option Nat
  rxRssi : Option Int
  rxSnr : Option F
  variant : Variant

structure PositionFields where
  latitudeI : Option Int
  longitudeI : Option Int
  altitude : Option Int
  time : Option Int
  precisionBits : Option Int

structure UserFields where
  id : Option String
  longName : Option String
  shortName : Option String
  hwModel : Option Int
  role : Option Int

structure TelemetryFields (F : Type) where
  time : Option Int
  batteryLevel : Option Int
  voltage : Option F
  channelUtilization : Option F
  airUtilTx : Option F
  temperature : Option F
  relativeHumidity : Option F
  barometricPressure : Option F

/-- What the formatters use from outside the repository.  The protobuf fields
    return `none` when assigning or serialising raises. -/
structure Runtime (F : Type) where
  /-- `str.lower`. -/
  lower : String → String
  /-- `hash(s)`. -/
  strHash : String → Int
  /-- `str(value)`. -/
  pyStr : Value F → String
  /-- `float(text)`. -/
  floatOfText : String → Option F
  serviceEnvelope : MeshPacketFields F → (channelId gatewayId : String) → Option Bytes
  position : PositionFields → Option Bytes
  user : UserFields → Option Bytes
  telemetry : TelemetryFields F → Option Bytes
  routing : (errorReason : Option Int) → Option Bytes

/-- A runtime for ASCII texts, for packets whose outputs use none of the protobuf
    classes. -/
def asciiRuntime (F : Type) : Runtime F where
  lower := asciiLower
  strHash _ := 0
  pyStr _ := ""
  floatOfText _ := none
  serviceEnvelope _ _ _ := none
  position _ := none
  user _ := none
  telemetry _ := none
  routing _ := none

/-! ### Python conversions of payload values -/

/-- `d.get(key)`, with `None` for an absent key. -/
def getValue (data : Entries F) (key : String) : Value F := (data.get? key).getD .null

def isNull : Value F → Bool
  | .null => true
  | _ => false

section Conversions

variable [PyFloat F]

def truthy : Value F → Bool
  | .null => false
  | .bool b => b
  | .int n => n ≠ 0
  | .float x => PyFloat.truthy x
  | .str s => s ≠ ""
  | .list .nil => false
  | .list (.cons _ _) => true
  | .dict .nil => false
  | .dict (.cons _ _ _) => true

/-- `int(value)`; `none` when it raises. -/
def toInt : Value F → Option Int
  | .bool b => some (if b then 1 else 0)
  | .int n => some n
  | .float x => PyFloat.toInt x
  | .str s => intOfText 10 s
  | _ => none

/-- `float(value)`; `none` when it raises. -/
def toFloat (rt : Runtime F) : Value F → Option F
  | .bool b => some (PyFloat.ofInt (if b then 1 else 0))
  | .int n => some (PyFloat.ofInt n)
  | .float x => some x
  | .str s => rt.floatOfText s
  | _ => none

/-- `int(value * 1e7)`; `none` when it raises. -/
def toDegreesInt : Value F → Option Int
  | .bool b => PyFloat.degreesInt (PyFloat.ofInt (F := F) (if b then 1 else 0))
  | .int n => PyFloat.degreesInt (PyFloat.ofInt (F := F) n)
  | .float x => PyFloat.degreesInt x
  | _ => none

/-- `if data.get(key) is not None: field = convert(data[key])`; the outer `none`
    is a conversion that raises. -/
def field {α : Type} (convert : Value F → Option α) (data : Entries F) (key : String) :
    Option (Option α) :=
  if isNull (getValue data key) then some none else (convert (getValue data key)).map some

/-- `if data.get(key): field = str(data[key])`. -/
def textField (rt : Runtime F) (data : Entries F) (key : String) : Option String :=
  if truthy (getValue data key) then
    some (match getValue data key with
      | .str s => s
      | v => rt.pyStr v)
  else none

end Conversions

/-! ### Re-encoding payloads -/

section Encoders

variable [PyFloat F] (rt : Runtime F)

def encodePosition (data : Entries F) : Option Bytes := do
  let latitudeI ← field toDegreesInt data "latitude"
  let longitudeI ← field toDegreesInt data "longitude"
  let altitude ← field toInt data "altitude"
  let time ← field toInt data "time"
  let precisionBits ← field toInt data "precision_bits"
  rt.position ⟨latitudeI, longitudeI, altitude, time, precisionBits⟩

def encodeNodeinfo (data : Entries F) : Option Bytes := do
  let hwModel ← field toInt data "hw_model"
  let role ← field toInt data "role"
  rt.user ⟨textField rt data "id", textField rt data "long_name", textField rt data "short_name",
    hwModel, role⟩

def encodeTelemetry (data : Entries F) : Option Bytes := do
  let time ← field toInt data "time"
  let batteryLevel ← field toInt data "battery_level"
  let voltage ← field (toFloat rt) data "voltage"
  let channelUtilization ← field (toFloat rt) data "channel_utilization"
  let airUtilTx ← field (toFloat rt) data "air_util_tx"
  let temperature ← field (toFloat rt) data "temperature"
  let relativeHumidity ← field (toFloat rt) data "relative_humidity"
  let barometricPressure ← field (toFloat rt) data "barometric_pressure"
  rt.telemetry ⟨time, batteryLevel, voltage, channelUtilization, airUtilTx, temperature,
    relativeHumidity, barometricPressure⟩

def encodeRouting (data : Entries F) : Option Bytes := do
  let errorReason ← field toInt data "error_reason"
  rt.routing errorReason

def encodeText (data : Entries F) : Option Bytes :=
  match data.get? "text" with
  | some (.str s) => if s = "" then none else some (utf8 s)
  | _ => none

/-- `_encode_portnum_payload`: an encoder that raises yields no payload. -/
def encodePortnumPayload (packet : Packet F) : Option Bytes :=
  match packet.decodedPayload with
  | none => none
  | some data =>
    if data.isEmpty then none
    else
      match packet.packetType with
      | .position => encodePosition rt data
      | .nodeinfo => encodeNodeinfo rt data
      | .telemetry => encodeTelemetry rt data
      | .text => encodeText data
      | .routing => encodeRouting rt data
      | _ => none

end Encoders

def PORTNUM_MAP : PacketType → Option Nat
  | .text => some 1
  | .position => some 3
  | .nodeinfo => some 4
  | .routing => some 5
  | .telemetry => some 67
  | .traceroute => some 70
  | .neighborinfo => some 71
  | .mapReport => some 73
  | .waypoint => some 8
  | .detectionSensor => some 49
  | .paxcounter => some 51
  | .rangeTest => some 69
  | .storeForward => some 56
  | .admin => some 6
  | _ => none

/-! ### Identifiers and topics -/

/-- `_is_hex`. -/
def isHex (value : String) : Bool :=
  let digits := if value = "" ∨ value.toList.head? = some '!' then
    String.ofList (value.toList.drop 1) else value
  (intOfText 16 digits).isSome

/-- `n & 0xFFFFFFFF`. -/
def mask32 (n : Int) : Nat := (n % 2 ^ 32).toNat

/-- `_parse_packet_id`; `none` when it raises. -/
def parsePacketId (rt : Runtime F) (packetId : String) : Option Nat :=
  if isHex packetId then (intOfText 16 packetId).map mask32
  else some (mask32 (rt.strHash packetId))

/-- `int(node_id, 16) & 0xFFFFFFFF` where the id is set and hexadecimal; the outer
    `none` is a conversion that raises. -/
def nodeNumber (nodeId : String) : Option (Option Nat) :=
  if nodeId ≠ "" ∧ isHex nodeId then (intOfText 16 nodeId).map fun n => some (mask32 n)
  else some none

def stripSlashes (s : String) : String := stripWhere (· = '/') (strip s)

/-- `_build_topic_prefix`. -/
def buildTopicPrefix (lower : String → String) (topicRoot region : String) : String :=
  let root := stripSlashes topicRoot
  let reg := stripSlashes region
  if root = "" ∧ reg = "" then "msh/US"
  else if reg = "" then root
  else if root = "" then reg
  else if lower root = lower reg ∨ ('/' :: (lower reg).toList).isSuffixOf (lower root).toList then
    root
  else root ++ "/" ++ reg

/-- What a formatter is built with. -/
structure Topics where
  topicPrefix : String
  gatewayId : String
  hashToName : OrderedDict Nat String

/-! ### The formatters -/

section Format

variable [PyFloat F] (rt : Runtime F) (topics : Topics)

def hasCoordinates (packet : Packet F) : Bool :=
  match packet.decodedPayload with
  | none => false
  | some data =>
    !data.isEmpty && !isNull (getValue data "latitude") && !isNull (getValue data "longitude")

/-- `int(packet.signal.rssi)` when there is a signal; the outer `none` is a
    conversion that raises. -/
def rssiField : Option (SignalMetrics F) → Option (Option Int)
  | some signal => (PyFloat.toInt signal.rssi).map some
  | none => some none

/-- The common part of the two protobuf variants; `none` when it raises. -/
def envelope (packet : Packet F) (channel : Nat) (withSignal : Bool) (variant : Variant) :
    Option MqttMessage := do
  let channelName := ChannelResolver.resolve topics.hashToName packet.channelHash packet.protocol
  let id ← parsePacketId rt packet.packetId
  let source ← nodeNumber packet.sourceId
  let dest ← nodeNumber packet.destinationId
  let rxRssi ← rssiField (if withSignal then packet.signal else none)
  let rxSnr := (if withSignal then packet.signal else none).map SignalMetrics.snr
  let payload ← rt.serviceEnvelope
    ⟨id, packet.hopLimit, packet.hopStart, packet.wantAck, channel, source, dest, rxRssi, rxSnr,
      variant⟩ channelName topics.gatewayId
  return ⟨topics.topicPrefix ++ "/2/e/" ++ channelName ++ "/" ++ topics.gatewayId, payload⟩

/-- `MeshtasticMqttFormatter.format`; the outer `none` is a formatter that raises. -/
def format (packet : Packet F) : Option (Option MqttMessage) :=
  if packet.packetType = .position ∧ hasCoordinates packet = false then some none
  else
    match PORTNUM_MAP packet.packetType with
    | none => some none
    | some portnum =>
      match encodePortnumPayload rt packet with
      | some inner =>
        (envelope rt topics packet 0 true (.decoded portnum inner)).map some
      | none =>
        match packet.encryptedPayload with
        | some (b :: bs) =>
          -- `_format_encrypted`
          (envelope rt topics packet packet.channelHash false (.encrypted (b :: bs))).map some
        | _ => some none

/-- The payload entry of a JSON message.  Both formatters are built with precision
    `exact`, so the coordinates are written back as they are. -/
def jsonPayloadCopy (data : Entries F) : Entries F :=
  if isNull (getValue data "latitude") = false then
    (data.set "latitude" (getValue data "latitude")).set "longitude" (getValue data "longitude")
  else if (data.get? "latitude").isSome then
    data.filterKeys fun key => key ≠ "latitude" && key ≠ "longitude"
  else data

/-- The JSON object both JSON formatters write; `hops` are the Meshtastic entries. -/
def jsonObject (packet : Packet F) (hops : List (String × Value F)) : Value F :=
  .dict (Entries.ofList
    ([("id", .str packet.packetId), ("from", .str packet.sourceId),
        ("to", .str packet.destinationId), ("type", .str packet.packetType.value),
        ("sender", .str topics.gatewayId), ("timestamp", .int (packet.timestamp.tdiv 1000000))] ++
      hops ++
      (match packet.signal with
        | some signal => [("rssi", .float signal.rssi), ("snr", .float signal.snr)]
        | none => []) ++
      (match packet.decodedPayload with
        | some data => if data.isEmpty then [] else [("payload", .dict (jsonPayloadCopy data))]
        | none => [])))

/-- `MeshtasticMqttFormatter.format_json`. -/
def formatJson (packet : Packet F) : MqttMessage :=
  let channelName := ChannelResolver.resolve topics.hashToName packet.channelHash packet.protocol
  ⟨topics.topicPrefix ++ "/2/json/" ++ channelName ++ "/" ++ topics.gatewayId,
    utf8Chars (dumps (jsonObject topics packet
      [("hop_limit", .int packet.hopLimit), ("hop_start", .int packet.hopStart)]))⟩

/-- `MeshCoreMqttFormatter.format`. -/
def formatMeshCore (packet : Packet F) : MqttMessage :=
  ⟨topics.topicPrefix ++ "/2/c/MeshCore/" ++ topics.gatewayId,
    utf8Chars (dumps (jsonObject topics packet []))⟩

end Format

end Meshpoint.MqttFormatter
