import Meshpoint.AcceptedSettings
import Meshpoint.AuthService
import Meshpoint.ChannelUpdates
import Meshpoint.DutyCycle
import Meshpoint.JsonText

/-!
# The configuration as a session sees it

Model of `get_config` (`src/api/routes/config_routes.py`) with `enrich_config_payload`
(`src/api/routes/config_enrichment.py`) and `build_mqtt_status`
(`src/api/routes/mqtt_config_routes.py`), and of `get_lorawan_config`
(`src/api/routes/lorawan_config_routes.py`).

A response is a record with the keys of the dictionary.  Where a part of the dictionary copies
the fields of a section, the section itself stands for it.  The constant tables of presets and
regions are left out.  What the handlers read from running objects is in `Live`.
-/

namespace Meshpoint.ConfigResponse

open ByteCodec ChannelKeys AcceptedSettings RadioSettings ChannelPlan ChannelUpdates JsonText

/-- The numbers of a response. -/
class ResponseFloat (F : Type) extends RadioFloat F where
  /-- `round(hz / 1e6, 4)`. -/
  megahertz : Int → F
  /-- `round(x, 4)`. -/
  round4 : F → F

/-- What the runtime provides: lower-casing, and the gateway id of a device name. -/
structure Platform where
  casing : PyText.Casing
  generateGatewayId : String → String

/-! ### The configuration -/

structure RadioSection (F : Type) extends RadioConfig F where
  syncWord : Int
  preambleLength : Int
  spectralScanIntervalSeconds : F
  sx1261SpiPath : String
  captureRamSpectrum : Bool
  pager : PagerConfig F
deriving DecidableEq

structure BroadcastConfig where
  intervalMinutes : Int
  startupDelaySeconds : Int
deriving DecidableEq, Repr

structure PositionConfig extends BroadcastConfig where
  coordinateSource : String
  locationPrecision : String
deriving DecidableEq, Repr

structure TransmitConfig (F : Type) where
  enabled : Bool
  nodeId : Option Int
  txPowerDbm : Int
  maxDutyCyclePercent : Option F
  longName : String
  shortName : String
  hopLimit : Int
  nodeinfo : BroadcastConfig
  telemetry : BroadcastConfig
  position : PositionConfig
deriving DecidableEq

structure MeshtasticConfig where
  defaultKeyB64 : String
  primaryChannelName : String
  channelKeys : List (String × String)
deriving DecidableEq, Repr

structure MeshcoreConfig where
  channelKeys : List (String × String)
  privateChannels : Option (List String)
deriving DecidableEq, Repr

/-- The dictionary of a device in `lorawan.devices`; a key may be missing. -/
structure LorawanDevice (F : Type) where
  appKey : Option String
  nwkKey : Option String
  payloadFields : Option (List (Value F))

structure MeshcoreUsbConfig where
  serialPort : Option String := none
  baudRate : Int := 115200
  autoDetect : Bool := true
  label : String := ""
  companionName : Option String := none
deriving DecidableEq, Repr

structure SerialDeviceConfig where
  serialPort : Option String
  serialBaud : Int
  label : String
  longName : Option String
  shortName : Option String
deriving DecidableEq, Repr

structure CaptureConfig where
  sources : List String
  concentratorSpiDevice : String
  meshcoreUsb : List MeshcoreUsbConfig
  serial : List SerialDeviceConfig
deriving DecidableEq, Repr

structure StorageConfig where
  databasePath : String
  maxPacketsRetained : Int
  maxTelemetryRetained : Int
  cleanupIntervalSeconds : Int
deriving DecidableEq, Repr

/-- The fields of `dashboard` that the response copies. -/
structure DashboardConfig where
  webTerminalEnabled : Bool
  webTerminalToggle : Bool
  mapTileUrl : String
  landingPage : String
deriving DecidableEq, Repr

structure UpstreamConfig where
  url : String
  reconnectIntervalSeconds : Int
  bufferMaxSize : Int
  authToken : Option String
deriving DecidableEq, Repr

structure DeviceConfig (F : Type) where
  deviceName : String
  latitude : Option F
  longitude : Option F
  altitude : Option F
  hardwareDescription : String
deriving DecidableEq

structure MqttConfig where
  enabled : Bool
  broker : String
  port : Int
  username : String
  password : Option String
  topicRoot : String
  region : String
  tlsEnabled : Bool
  tlsCaCert : String
  gatewayId : Option String
  publishChannels : List String
  publishJson : Bool
  locationPrecision : String
  homeassistantDiscovery : Bool
  mapReportingEnabled : Bool
  mapReportIntervalSeconds : Int
  mapReportPositionPrecision : Int
deriving DecidableEq, Repr

structure LocationConfig where
  source : String
  gpsdHost : String
  gpsdPort : Int
  updateIntervalSeconds : Int
  minFixQuality : Int
deriving DecidableEq, Repr

structure FanConfig (F : Type) where
  enabled : Bool
  gpioPin : Int
  minTempC : F
  maxTempC : F
  minDuty : F
  hysteresisC : F
  pollIntervalS : F
deriving DecidableEq

structure LedConfig where
  enabled : Bool
  gpioPin : Int
  activityBlink : Bool
deriving DecidableEq, Repr

structure ButtonConfig (F : Type) where
  enabled : Bool
  gpioPin : Int
  holdTimeS : F
  advertCooldownS : F
deriving DecidableEq

structure UpdateCheckConfig where
  enabled : Bool
  intervalMinutes : Int
deriving DecidableEq, Repr

structure RepeaterConfig where
  key : String
  password : Option String
  name : String
deriving DecidableEq, Repr

structure RepeaterPollConfig where
  enabled : Bool
  intervalMinutes : Int
  repeaters : List RepeaterConfig
deriving DecidableEq, Repr

structure MetricsApiKey where
  id : String
  label : String
  keyHash : String
  createdAt : String
  lastUsedAt : Option String
deriving DecidableEq, Repr

structure MetricsConfig where
  enabled : Bool
  requireAuth : Bool
  apiKeys : List MetricsApiKey
deriving DecidableEq, Repr

structure AppConfig (F : Type) where
  radio : RadioSection F
  lorawan : List (String × LorawanDevice F)
  meshtastic : MeshtasticConfig
  meshcore : MeshcoreConfig
  capture : CaptureConfig
  storage : StorageConfig
  dashboard : DashboardConfig
  upstream : UpstreamConfig
  device : DeviceConfig F
  relay : RelayConfig F
  mqtt : MqttConfig
  transmit : TransmitConfig F
  location : LocationConfig
  metrics : MetricsConfig
  fan : FanConfig F
  led : LedConfig
  button : ButtonConfig F
  updateCheck : UpdateCheckConfig
  repeaterPoll : RepeaterPollConfig

/-! ### What runs -/

/-- A broadcaster, with its times as they are printed. -/
structure Broadcaster where
  running : Bool
  lastSentAt : Option String
  nextDueAt : Option String
deriving DecidableEq, Repr

/-- The companion that sends: the read-outs, where they can be had. -/
structure Companion (F : Type) where
  name : String
  radio : Value F
  device : Value F

/-- The objects that the handlers read besides the configuration. -/
structure Live (F : Type) where
  /-- `_crypto` is there. -/
  hasCrypto : Bool
  /-- `_tx_service`: its node id, where that comes from, and its duty cycle. -/
  txService : Option (Int × String × Value F)
  /-- The companion of `_tx_service`, while it is connected. -/
  companion : Option (Companion F)
  /-- The entries of the attached sticks and companions. -/
  serial : List (Value F)
  companions : List (Value F)
  nodeinfo : Option Broadcaster
  position : Option Broadcaster
  telemetry : Option Broadcaster

/-! ### The parts of a response -/

section

variable {F : Type} [ResponseFloat F]

/-- `s or default`. -/
def orElse (s default : String) : String := if s = "" then default else s

/-- `bool((s or "").strip())`. -/
def isSet (s : Option String) : Bool := decide (PyText.strip (s.getD "") ≠ "")

/-- `f"{n:0wX}"`. -/
def formatHexUpper (w : Nat) (n : Int) : String :=
  String.ofList ((PyText.formatHex w n).toList.map Char.toUpper)

structure RadioBlock (F : Type) where
  region : String
  frequencyMhz : F
  spreadingFactor : Int
  bandwidthKhz : F
  codingRate : String
  syncWord : String
  preambleLength : Int
  currentPreset : Option String

/-- `preset_from_params`, where the bandwidth is a finite number. -/
def presetFromParams (spreadingFactor : Int) (bandwidthKhz : F) (codingRate : String) :
    Option String :=
  (MODEM_PRESETS.find? fun (preset : ModemPreset F) =>
    decide (preset.spreadingFactor = spreadingFactor) &&
      !RadioFloat.ne preset.bandwidthKhz bandwidthKhz &&
      decide (preset.codingRate = codingRate)).map ModemPreset.name

def radioBlock (radio : RadioSection F) : RadioBlock F where
  region := radio.region
  frequencyMhz := radio.frequencyMhz
  spreadingFactor := radio.spreadingFactor
  bandwidthKhz := radio.bandwidthKhz
  codingRate := radio.codingRate
  syncWord := "0x" ++ formatHexUpper 2 radio.syncWord
  preambleLength := radio.preambleLength
  currentPreset := presetFromParams radio.spreadingFactor radio.bandwidthKhz radio.codingRate

/-- The relay settings inside `transmit`. -/
structure RelayBlock (F : Type) where
  enabled : Bool
  maxRelayPerMinute : Int
  burstSize : Int
  minRelayRssi : F
  maxRelayRssi : F

structure TransmitBlock (F : Type) where
  enabled : Bool
  nodeId : Int
  nodeIdHex : String
  nodeIdSource : String
  txPowerDbm : Int
  maxDutyCyclePercent : F
  maxDutyCycleSource : String
  longName : String
  shortName : String
  hopLimit : Int
  relay : RelayBlock F
  position : PositionConfig
  telemetry : BroadcastConfig

/-- `resolve_max_duty_percent`. -/
def resolveMaxDutyPercent (region : String) (configured : Option F) : F :=
  configured.getD
    (RadioFloat.decimal (((DutyCycle.MESHPOINT_DUTY_DEFAULTS.get? region).getD 1) * 10000).num)

def resolvedNodeId (tx : TransmitConfig F) (live : Live F) : Int × String :=
  if tx.nodeId.getD 0 ≠ 0 then (tx.nodeId.getD 0, "config")
  else
    match live.txService with
    | some (nodeId, source, _) => if nodeId ≠ 0 then (nodeId, source) else (0, "unset")
    | none => (0, "unset")

def transmitBlock (cfg : AppConfig F) (live : Live F) : TransmitBlock F where
  enabled := cfg.transmit.enabled
  nodeId := (resolvedNodeId cfg.transmit live).1
  nodeIdHex := if (resolvedNodeId cfg.transmit live).1 ≠ 0 then
      "!" ++ PyText.formatHex 8 (resolvedNodeId cfg.transmit live).1
    else ""
  nodeIdSource := (resolvedNodeId cfg.transmit live).2
  txPowerDbm := cfg.transmit.txPowerDbm
  maxDutyCyclePercent :=
    resolveMaxDutyPercent cfg.radio.region cfg.transmit.maxDutyCyclePercent
  maxDutyCycleSource := if cfg.transmit.maxDutyCyclePercent.isSome then "config" else "auto"
  longName := cfg.transmit.longName
  shortName := cfg.transmit.shortName
  hopLimit := cfg.transmit.hopLimit
  relay := ⟨cfg.relay.enabled, cfg.relay.maxRelayPerMinute, cfg.relay.burstSize,
    cfg.relay.minRelayRssi, cfg.relay.maxRelayRssi⟩
  position := cfg.transmit.position
  telemetry := cfg.transmit.telemetry

structure ConcentratorChannel (F : Type) where
  ch : Nat
  frequencyMhz : F
  bandwidthKhz : F
  spreadingFactor : Option Int
  datarateBps : Option Int
  syncword : String
  protocol : String
  rfChain : Int
  enabled : Bool

structure ConcentratorStatus (F : Type) where
  active : Bool
  /-- `radio_0_mhz` and `radio_1_mhz`. -/
  radios : Option (F × F)
  channels : List (ConcentratorChannel F)

def planChannel (plan : ConcentratorChannelPlan) (index : Nat) (syncword protocol : String)
    (ch : ChannelPlan.ChannelConfig) : ConcentratorChannel F where
  ch := index
  frequencyMhz := ResponseFloat.megahertz ch.frequencyHz
  bandwidthKhz := RadioFloat.decimal (ch.bandwidthKhz * 10000)
  spreadingFactor := some ch.spreadingFactor
  datarateBps := none
  syncword := syncword
  protocol := protocol
  rfChain := if ch.frequencyHz ≤ plan.radio0FreqHz + 500000 then 0 else 1
  enabled := ch.enabled

def pagerChannel (pager : PagerConfig F) : ConcentratorChannel F where
  ch := 9
  frequencyMhz := ResponseFloat.round4 pager.frequencyMhz
  bandwidthKhz := RadioFloat.decimal 1250000
  spreadingFactor := none
  datarateBps := some 4800
  syncword := "0x" ++ formatHexUpper (pager.syncWordSize * 2).toNat pager.syncWord
  protocol := "pager"
  rfChain := pager.rfChain
  enabled := pager.enabled

/-- `_concentrator_status`.  An infinite frequency, with which the request fails, is not told
    apart from one that is no number. -/
def concentratorStatus (radio : RadioSection F) (sources : List String) :
    ConcentratorStatus F :=
  let active := sources.contains "concentrator"
  match fromRadioConfig radio.region radio.frequencyMhz radio.spreadingFactor
      radio.bandwidthKhz with
  | .error _ => ⟨active, none, []⟩
  | .ok plan =>
    { active := active
      radios := some (ResponseFloat.megahertz plan.radio0FreqHz,
        ResponseFloat.megahertz plan.radio1FreqHz)
      channels :=
        (plan.multiSfChannels.zipIdx.map fun entry =>
          planChannel plan entry.2 "0x34" "lorawan" entry.1) ++
        (plan.singleSfChannel.toList.map (planChannel plan 8 "0x2B" "meshtastic")) ++
        [pagerChannel radio.pager] }

/-- `build_nodeinfo_status` and `build_broadcast_status`. -/
structure BroadcastStatus where
  config : BroadcastConfig
  broadcaster : Broadcaster

def broadcastStatus (broadcaster : Option Broadcaster) (config : BroadcastConfig) :
    BroadcastStatus :=
  ⟨config, broadcaster.getD ⟨false, none, none⟩⟩

structure MqttStatus where
  enabled : Bool
  brokerHost : String
  brokerPort : Int
  username : String
  passwordSet : Bool
  topicRoot : String
  regionSegment : String
  gatewayId : String
  publishChannels : List String
  publishJson : Bool
  locationPrecision : String
  homeassistantDiscovery : Bool
  mapReportingEnabled : Bool
  mapReportIntervalSeconds : Int
  mapReportPositionPrecision : Int
  tlsEnabled : Bool
  tlsCaCert : String
  topicPreviewMeshtastic : String
  topicPreviewMeshcore : String
  topicPreviewJson : String

/-- `_topic_example`. -/
def topicExample (topicRoot region segment channel gateway : String) : String :=
  let root := PyText.stripWhere (· = '/') (orElse topicRoot "msh")
  let reg := PyText.stripWhere (· = '/') (orElse region "US")
  root ++ "/" ++ reg ++ "/2/" ++ segment ++ "/" ++ channel ++ "/" ++ gateway

/-- `_resolve_gateway_id`. -/
def resolveGatewayId (platform : Platform) (override : Option String) (deviceName : String) :
    String :=
  match override with
  | some override =>
    if override = "" then platform.generateGatewayId deviceName
    else
      let raw := PyText.strip override
      if "!".toList <+: raw.toList then platform.casing.lower raw
      else "!" ++ platform.casing.lower raw
  | none => platform.generateGatewayId deviceName

/-- `build_mqtt_status`. -/
def buildMqttStatus (platform : Platform) (mqtt : MqttConfig) (deviceName : String) : MqttStatus :=
  let gateway := resolveGatewayId platform mqtt.gatewayId (orElse deviceName "meshpoint")
  { enabled := mqtt.enabled
    brokerHost := mqtt.broker
    brokerPort := mqtt.port
    username := mqtt.username
    passwordSet := isSet mqtt.password
    topicRoot := mqtt.topicRoot
    regionSegment := mqtt.region
    gatewayId := gateway
    publishChannels := mqtt.publishChannels
    publishJson := mqtt.publishJson
    locationPrecision := mqtt.locationPrecision
    homeassistantDiscovery := mqtt.homeassistantDiscovery
    mapReportingEnabled := mqtt.mapReportingEnabled
    mapReportIntervalSeconds := mqtt.mapReportIntervalSeconds
    mapReportPositionPrecision := mqtt.mapReportPositionPrecision
    tlsEnabled := mqtt.tlsEnabled
    tlsCaCert := mqtt.tlsCaCert
    topicPreviewMeshtastic := topicExample mqtt.topicRoot mqtt.region "e" "LongFast" gateway
    topicPreviewMeshcore := topicExample mqtt.topicRoot mqtt.region "c" "MeshCore" gateway
    topicPreviewJson := topicExample mqtt.topicRoot mqtt.region "json" "LongFast" gateway }

/-! ### Channels -/

structure ChannelBlock where
  index : Nat
  name : String
  /-- Only the primary channel has it. -/
  hashName : Option String
  pskB64 : String
  hash : String
  enabled : Bool
deriving DecidableEq, Repr

/-- `_compute_hash_safe`. -/
def computeHashSafe (hasCrypto : Bool) (name keyB64 : String) : String :=
  if hasCrypto then
    match b64decode keyB64 with
    | some raw => "0x" ++ formatHexUpper 2 (computeChannelHash name (expandKey raw)).toNat
    | none => "--"
  else "--"

/-- `PRESET_DISPLAY_NAMES`. -/
def PRESET_DISPLAY_NAMES : List ((Int × Int) × String) :=
  [((7, 250), "ShortFast"), ((7, 500), "ShortTurbo"), ((8, 250), "ShortSlow"),
    ((9, 250), "MediumFast"), ((10, 250), "MediumSlow"), ((11, 250), "LongFast"),
    ((11, 500), "LongTurbo"), ((11, 125), "LongMod"), ((12, 125), "LongSlow"),
    ((12, 62), "VLongSlow")]

def primaryName (mt : MeshtasticConfig) (spreadingFactor bandwidth : Int) : String :=
  if mt.primaryChannelName = "" then
    (PRESET_DISPLAY_NAMES.lookup (spreadingFactor, bandwidth)).getD "LongFast"
  else mt.primaryChannelName

/-- `_build_channel_list`, with the bandwidth as an integer. -/
def buildChannelList (hasCrypto : Bool) (mt : MeshtasticConfig) (spreadingFactor bandwidth : Int) :
    List ChannelBlock :=
  let ch0Name := primaryName mt spreadingFactor bandwidth
  { index := 0
    name := ch0Name
    hashName := some ch0Name
    pskB64 := mt.defaultKeyB64
    hash := computeHashSafe hasCrypto ch0Name mt.defaultKeyB64
    enabled := true } ::
  (mt.channelKeys.zipIdx 1).map fun entry =>
    { index := entry.2
      name := entry.1.1
      hashName := none
      pskB64 := entry.1.2
      hash := computeHashSafe hasCrypto entry.1.1 entry.1.2
      enabled := true }

/-- `_meshcore_key_hex_for_response`. -/
def meshcoreKeyHexForResponse (casing : PyText.Casing) (keyHex : String) : String :=
  let raw := casing.lower (PyText.strip keyHex)
  if raw = "" ∨ raw = MESHCORE_LEGACY_ZERO_KEY_HEX then MESHCORE_ZERO_KEY_HEX
  else if raw.length = MESHCORE_CHANNEL_KEY_BYTES * 4 ∧ raw.toList.all (· = '0') then
    MESHCORE_ZERO_KEY_HEX
  else PyText.strip keyHex

structure MeshcoreKeyBlock where
  name : String
  keyHex : String
deriving DecidableEq, Repr

structure MeshcoreStatus (F : Type) where
  connected : Bool
  companionName : String
  radio : Value F
  device : Value F
  companionExpected : Bool
  statusNote : String
  channelKeys : List MeshcoreKeyBlock
  privateChannels : List String
  companions : List (Value F)

def meshcoreStatus (platform : Platform) (cfg : AppConfig F) (live : Live F) :
    MeshcoreStatus F where
  connected := live.companion.isSome
  companionName := (live.companion.map Companion.name).getD ""
  radio := (live.companion.map Companion.radio).getD (.dict .nil)
  device := (live.companion.map Companion.device).getD (.dict .nil)
  companionExpected := cfg.capture.sources.contains "meshcore_usb"
  statusNote := if live.companion.isNone && !cfg.transmit.enabled then "transmit_disabled" else ""
  channelKeys := cfg.meshcore.channelKeys.map fun entry =>
    ⟨entry.1, meshcoreKeyHexForResponse platform.casing entry.2⟩
  privateChannels := cfg.meshcore.privateChannels.getD []
  companions := live.companions

/-! ### The additions -/

structure UpstreamBlock where
  url : String
  reconnectIntervalSeconds : Int
  bufferMaxSize : Int
  authTokenSet : Bool

structure CaptureBlock where
  sources : List String
  concentratorSpiDevice : String
  meshcoreUsb : List MeshcoreUsbConfig
  meshcoreUsbPrimary : MeshcoreUsbConfig
  serial : List SerialDeviceConfig

structure RadioAdvancedBlock (F : Type) where
  spectralScanIntervalSeconds : F
  sx1261SpiPath : String
  captureRamSpectrum : Bool

structure RadioPagerBlock (F : Type) where
  pagerEnabled : Bool
  pagerFrequencyMhz : F
  pagerSyncWordHex : String
  pagerSyncWordSize : Int
  pagerRfChain : Int
  pagerCapcode : Option Int

structure RepeaterBlock where
  key : String
  name : String
  passwordSet : Bool

structure RepeaterPollBlock where
  enabled : Bool
  intervalMinutes : Int
  repeaters : List RepeaterBlock

structure ApiKeyBlock where
  id : String
  label : String
  createdAt : String
  lastUsedAt : Option String

structure MetricsBlock where
  enabled : Bool
  requireAuth : Bool
  apiKeys : List ApiKeyBlock

/-- What `enrich_config_payload` adds to the payload. -/
structure Enrichment (F : Type) where
  device : DeviceConfig F
  upstream : UpstreamBlock
  storage : StorageConfig
  capture : CaptureBlock
  relay : RelayConfig F
  radioAdvanced : RadioAdvancedBlock F
  radioPager : RadioPagerBlock F
  location : LocationConfig
  fan : FanConfig F
  led : LedConfig
  button : ButtonConfig F
  updateCheck : UpdateCheckConfig
  repeaterPoll : RepeaterPollBlock
  metrics : MetricsBlock

/-- `enrich_config_payload`; its parts of `transmit` are in `transmitBlock`. -/
def enrich (cfg : AppConfig F) : Enrichment F where
  device := cfg.device
  upstream := ⟨cfg.upstream.url, cfg.upstream.reconnectIntervalSeconds,
    cfg.upstream.bufferMaxSize, isSet cfg.upstream.authToken⟩
  storage := cfg.storage
  capture := ⟨cfg.capture.sources, cfg.capture.concentratorSpiDevice, cfg.capture.meshcoreUsb,
    cfg.capture.meshcoreUsb.head?.getD {}, cfg.capture.serial⟩
  relay := cfg.relay
  radioAdvanced := ⟨cfg.radio.spectralScanIntervalSeconds, cfg.radio.sx1261SpiPath,
    cfg.radio.captureRamSpectrum⟩
  radioPager := ⟨cfg.radio.pager.enabled, cfg.radio.pager.frequencyMhz,
    formatHexUpper (cfg.radio.pager.syncWordSize * 2).toNat cfg.radio.pager.syncWord,
    cfg.radio.pager.syncWordSize, cfg.radio.pager.rfChain,
    if cfg.radio.pager.capcode = 0 then none else some cfg.radio.pager.capcode⟩
  location := cfg.location
  fan := cfg.fan
  led := cfg.led
  button := cfg.button
  updateCheck := cfg.updateCheck
  repeaterPoll := ⟨cfg.repeaterPoll.enabled, cfg.repeaterPoll.intervalMinutes,
    cfg.repeaterPoll.repeaters.map fun r => ⟨r.key, r.name, isSet r.password⟩⟩
  metrics := ⟨cfg.metrics.enabled, cfg.metrics.requireAuth,
    cfg.metrics.apiKeys.map fun k => ⟨k.id, k.label, k.createdAt, k.lastUsedAt⟩⟩

/-! ### The responses -/

structure Payload (F : Type) extends Enrichment F where
  radio : RadioBlock F
  transmit : TransmitBlock F
  concentrator : ConcentratorStatus F
  nodeinfo : BroadcastStatus
  position : BroadcastStatus
  telemetry : BroadcastStatus
  mqtt : MqttStatus
  channels : List ChannelBlock
  meshcore : MeshcoreStatus F
  serial : List (Value F)
  dashboard : DashboardConfig
  /-- `used_percent` and `remaining_ms` of the tracker. -/
  dutyCycle : Value F

/-- `_redact_channel_secrets`. -/
def redactChannelSecrets (payload : Payload F) : Payload F :=
  { payload with
    channels := payload.channels.map fun ch => { ch with pskB64 := "" }
    meshcore :=
      { payload.meshcore with
        channelKeys := payload.meshcore.channelKeys.map fun ck => { ck with keyHex := "" } } }

def noDuty : Value F :=
  .dict (Entries.ofList [("used_percent", .float (RadioFloat.decimal 0)), ("remaining_ms", .int 0)])

/-- The payload before it is redacted; `none` when the bandwidth is no finite number and the
    request fails. -/
def buildPayload (platform : Platform) (cfg : AppConfig F) (live : Live F) : Option (Payload F) := do
  let bandwidth ← RadioFloat.kilohertz cfg.radio.bandwidthKhz
  return {
    toEnrichment := enrich cfg
    radio := radioBlock cfg.radio
    transmit := transmitBlock cfg live
    concentrator := concentratorStatus cfg.radio cfg.capture.sources
    nodeinfo := broadcastStatus live.nodeinfo cfg.transmit.nodeinfo
    position := broadcastStatus live.position cfg.transmit.position.toBroadcastConfig
    telemetry := broadcastStatus live.telemetry cfg.transmit.telemetry
    mqtt := buildMqttStatus platform cfg.mqtt (orElse cfg.device.deviceName "meshpoint")
    channels := buildChannelList live.hasCrypto cfg.meshtastic cfg.radio.spreadingFactor bandwidth
    meshcore := meshcoreStatus platform cfg live
    serial := live.serial
    dashboard := cfg.dashboard
    dutyCycle := (live.txService.map fun tx => tx.2.2).getD noDuty }

/-- `get_config`. -/
def getConfig (platform : Platform) (cfg : AppConfig F) (live : Live F)
    (claims : AuthService.SessionClaims) : Option (Payload F) :=
  (buildPayload platform cfg live).map fun payload =>
    if claims.role ≠ AuthService.ROLE_ADMIN then redactChannelSecrets payload else payload

structure LorawanDeviceBlock (F : Type) where
  devEui : String
  appKey : String
  nwkKey : String
  payloadFields : List (Value F)

/-- An entry of `devices`. -/
def lorawanBlock (entry : String × LorawanDevice F) : LorawanDeviceBlock F where
  devEui := entry.1
  appKey := entry.2.appKey.getD ""
  nwkKey := entry.2.nwkKey.getD ""
  payloadFields := entry.2.payloadFields.getD []

/-- `get_lorawan_config`; the router asks for a session of any role, and the handler for
    nothing more. -/
def getLorawanConfig (cfg : AppConfig F) (_ : AuthService.SessionClaims) :
    List (LorawanDeviceBlock F) :=
  cfg.lorawan.map lorawanBlock

end

end Meshpoint.ConfigResponse
