import Meshpoint.MqttPrivacy
import Meshpoint.MqttFormatter

/-!
# The MQTT publisher

Model of `MqttPublisher.publish` with its two safety gates and of the Home
Assistant discovery outputs (`src/relay/mqtt_publisher.py`).  `publish` returns
the calls it makes to the client, in order, and the new publisher state; where
the source raises on the way, no call has been made yet.

`delivered` stands for the client: whether a call returned success.
-/

namespace Meshpoint.MqttPublisher

open JsonText ByteCodec MqttPrivacy MqttFormatter

variable {F : Type}

structure MqttConfig where
  enabled : Bool
  publishChannels : List String
  publishJson : Bool
  locationPrecision : String

/-- One `client.publish(topic, payload, qos=1, retain=retain)`. -/
structure PublishCall where
  topic : String
  payload : Bytes
  retain : Bool
deriving DecidableEq

/-- `announced` is the discovery object's set of announced nodes, when it exists. -/
structure Publisher where
  config : MqttConfig
  topics : Topics
  connected : Bool
  announced : Option (List String)
  publishCount : Nat := 0
  blockedDestinationCount : Nat := 0

/-! ### Home Assistant discovery -/

section HomeAssistant

variable [PyFloat F]

/-- A retained call whose payload is a JSON object. -/
def retained (topic : String) (entries : List (String × Value F)) : PublishCall :=
  ⟨topic, utf8Chars (dumps (.dict (Entries.ofList entries))), true⟩

/-- `_device_block`. -/
def deviceBlock (gatewayId nodeId : String) : Value F :=
  .dict (Entries.ofList
    [("identifiers", .list (Values.ofList [.str ("meshpoint_" ++ nodeId)])),
      ("name", .str ("Mesh Node " ++ String.ofList (nodeId.toList.drop (nodeId.length - 4)))),
      ("manufacturer", .str "Meshtastic"),
      ("via_device", .str gatewayId)])

/-- The sensor configurations; battery and temperature differ in their texts only. -/
def sensorConfig (F : Type) [PyFloat F] (gatewayId nodeId name kind template unit : String) :
    PublishCall :=
  retained (F := F) ("homeassistant/sensor/meshpoint_" ++ nodeId ++ "/" ++ kind ++ "/config")
    [("name", .str name), ("unique_id", .str ("meshpoint_" ++ nodeId ++ "_" ++ kind)),
      ("device", deviceBlock gatewayId nodeId),
      ("state_topic", .str ("meshpoint/" ++ nodeId ++ "/telemetry")),
      ("value_template", .str template), ("unit_of_measurement", .str unit),
      ("device_class", .str kind)]

def batteryConfig (F : Type) [PyFloat F] (gatewayId nodeId : String) : PublishCall :=
  sensorConfig F gatewayId nodeId "Battery" "battery"
    "\x7b\x7b value_json.battery_level \x7d\x7d" "%"

def temperatureConfig (F : Type) [PyFloat F] (gatewayId nodeId : String) : PublishCall :=
  sensorConfig F gatewayId nodeId "Temperature" "temperature"
    "\x7b\x7b value_json.temperature \x7d\x7d" "°C"

def gpsTrackerConfig (F : Type) [PyFloat F] (gatewayId nodeId : String) : PublishCall :=
  retained (F := F) ("homeassistant/device_tracker/meshpoint_" ++ nodeId ++ "/config")
    [("name", .str "Location"), ("unique_id", .str ("meshpoint_" ++ nodeId ++ "_tracker")),
      ("device", deviceBlock gatewayId nodeId),
      ("json_attributes_topic", .str ("meshpoint/" ++ nodeId ++ "/position")),
      ("source_type", .str "gps")]

/-- `announce_node`: the calls and the announced set after it. -/
def announceNode (gatewayId : String) (announced : List String) (packet : Packet F) :
    List PublishCall × List String :=
  match packet.decodedPayload with
  | none => ([], announced)
  | some payload =>
    if payload.isEmpty ∨ packet.sourceId ∈ announced then ([], announced)
    else
      let present := fun key => !isNull (getValue payload key)
      let sensors :=
        (if present "battery_level" then [batteryConfig F gatewayId packet.sourceId] else []) ++
        (if present "temperature" then [temperatureConfig F gatewayId packet.sourceId] else []) ++
        (if present "latitude" then [gpsTrackerConfig F gatewayId packet.sourceId] else [])
      (sensors, if sensors.isEmpty then announced else announced ++ [packet.sourceId])

/-- The telemetry entries mirrored to Home Assistant. -/
def TELEMETRY_STATE : List String :=
  ["battery_level", "temperature", "voltage", "humidity", "barometric_pressure",
    "channel_utilization", "air_util_tx"]

/-- `publish_state`. -/
def publishState (packet : Packet F) : List PublishCall :=
  match packet.decodedPayload with
  | none => []
  | some payload =>
    if payload.isEmpty ∨ packet.sourceId = "" then []
    else
      match packet.packetType with
      | .telemetry =>
        let state := TELEMETRY_STATE.filterMap fun key =>
          if isNull (getValue payload key) then none else some (key, getValue payload key)
        if state.isEmpty then []
        else [retained ("meshpoint/" ++ packet.sourceId ++ "/telemetry") state]
      | .position =>
        let lat := getValue payload "latitude"
        let lon := getValue payload "longitude"
        let alt := getValue payload "altitude"
        if isNull lat || isNull lon then []
        else [retained ("meshpoint/" ++ packet.sourceId ++ "/position")
          ([("latitude", lat), ("longitude", lon)] ++
            (if isNull alt then [] else [("altitude", alt)]))]
      | _ => []

/-- `clear_position`. -/
def clearPosition (nodeId : String) : List PublishCall :=
  if nodeId = "" then [] else [⟨"meshpoint/" ++ nodeId ++ "/position", [], true⟩]

end HomeAssistant

/-! ### The safety gates -/

section Publish

variable [PyFloat F] (rt : Runtime F) (delivered : PublishCall → Bool)

/-- `_resolve_channel_name`. -/
def resolveChannelName (pub : Publisher) (packet : Packet F) : String :=
  ChannelResolver.resolve pub.topics.hashToName packet.channelHash packet.protocol

/-- `name.lower() in self._allowed_channels`. -/
def channelAllowed (pub : Publisher) (name : String) : Bool :=
  (pub.config.publishChannels.map rt.lower).contains (rt.lower name)

def eligible (pub : Publisher) (packet : Packet F) : Bool :=
  pub.config.enabled && isBroadcast rt.lower packet && packet.packetType ≠ .encrypted &&
    !(!packet.decrypted && packet.encryptedPayload.any fun body => !body.isEmpty)

/-- `_passes_safety_gates`, without its counter. -/
def passesSafetyGates (pub : Publisher) (packet : Packet F) : Bool :=
  eligible rt pub packet && channelAllowed rt pub (resolveChannelName pub packet)

/-- `_format_packet`; `none` when a formatter raises. -/
def formatPacket (pub : Publisher) (packet : Packet F) : Option (List MqttMessage) :=
  match packet.protocol with
  | .meshtastic => do
    let message ← format rt pub.topics packet
    return message.toList ++ if pub.config.publishJson then [formatJson pub.topics packet] else []
  | .meshcore => some [formatMeshCore pub.topics packet]
  | _ => some []

def discoveryOutputs (pub : Publisher) (packet : Packet F) (published : Bool) :
    List PublishCall × Option (List String) :=
  match pub.announced with
  | none => ([], none)
  | some announced =>
    let (announcements, announced') :=
      if published then announceNode pub.topics.gatewayId announced packet else ([], announced)
    (announcements ++ (if published then publishState packet else []) ++
      (if packet.packetType = .position ∧ hasCoordinates packet = false then
        clearPosition packet.sourceId else []), some announced')

/-- What `publish` does with a packet that passed the gates. -/
def publishPrepared (pub : Publisher) (packet : Packet F) : Publisher × List PublishCall × Bool :=
  match formatPacket rt pub packet with
  | none => (pub, [], false)
  | some messages =>
    let calls := messages.map fun m => (⟨m.topic, m.payload, false⟩ : PublishCall)
    let published := calls.any delivered
    let (discovery, announced) := discoveryOutputs pub packet published
    ({ pub with
        announced := announced
        publishCount := if published then pub.publishCount + 1 else pub.publishCount },
      calls ++ discovery, published)

/-- `MqttPublisher.publish`: the new state, the calls to the client, the result. -/
def publish (pub : Publisher) (packet : Packet F) : Publisher × List PublishCall × Bool :=
  if pub.connected = false then (pub, [], false)
  else if passesSafetyGates rt pub packet then
    match preparePacket packet pub.config.locationPrecision with
    | none => (pub, [], false)
    | some prepared => publishPrepared rt delivered pub prepared
  else
    ({ pub with
        blockedDestinationCount :=
          if pub.config.enabled && !isBroadcast rt.lower packet then
            pub.blockedDestinationCount + 1
          else pub.blockedDestinationCount }, [], false)

end Publish

end Meshpoint.MqttPublisher
