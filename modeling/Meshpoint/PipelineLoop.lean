import Meshpoint.CapturePipeline
import Meshpoint.LorawanFrames
import Meshpoint.MeshcoreDecoder
import Meshpoint.PagerEventAdapter
import Meshpoint.RelayManager
import Meshpoint.StatsReporter

/-!
# The pipeline loop

Model of `_run_pipeline` and `_process_capture` of `PipelineCoordinator`
(`src/coordinator.py`) with the exceptions they let through.  The loop's handler stands
outside of it, so a capture whose processing raises is the last one that is taken.

The database, the MQTT publisher, the packet callbacks and the transmit function run under
handlers of their own and may fail at any capture; what the loop reads of them is whether a
node's row was written.  `runPipeline_takes_all_iff` says of every run when all captures are
taken.
-/

namespace Meshpoint.PipelineLoop

open JsonText ByteCodec PyText MqttFormatter PortnumHandlers MeshtasticHeader Raising
open CapturePipeline (startsWith)
open LorawanFrames (FieldTables FrameDecodes IsDataUp LoRaWANDeviceEntry SessionKeysFit dataFrame)
open MeshcoreEventAdapter (EventLoads)
open PagerEventAdapter (PageLoads)

/-! ### Captures that are decoded already -/

/-- A value of a dictionary that is no JSON: bytes, or a value of one. -/
inductive PreField (F : Type) where
  | bytes (b : Bytes)
  | value (v : Value F)

/-- `pre_decoded`: any dictionary. -/
abbrev PreDict (F : Type) := OrderedDict String (PreField F)

section PreDecoded

variable {F : Type} [StationFloat F]

def PreField.truthy : PreField F → Bool
  | .bytes b => b ≠ []
  | .value v => MqttFormatter.truthy v

/-- What a payload shows of the field; bytes show as `None` and keep it out of JSON. -/
def PreField.shown : PreField F → Value F
  | .bytes _ => .null
  | .value v => v

def PreField.isBytes : PreField F → Bool
  | .bytes _ => true
  | .value _ => false

/-- `payload.hex()`; `none` when there is no such method. -/
def PreField.hex : PreField F → Option String
  | .bytes b => some (hexlify b)
  | .value (.float x) => some (StationFloat.hex x)
  | .value _ => none

/-- The portnum that a field equals; the outer `none` is a field without a hash. -/
def PreField.portnum : PreField F → Option (Option Int)
  | .bytes _ => some none
  | .value v =>
    match dictKey v with
    | none => none
    | some (.number n) => some (some n)
    | some _ => some none

def portnumField (pre : PreDict F) : PreField F := (pre.get? "portnum").getD (.value (.int (-1)))
def payloadField (pre : PreDict F) : PreField F := (pre.get? "payload").getD (.bytes [])
def requestField (pre : PreDict F) : PreField F := (pre.get? "request_id").getD (.value (.int 0))

def TEXT_PORTNUMS : List Int := [1, 10, 66]

/-- Handlers that answer `None` when the payload is no bytes. -/
def PARSED_PORTNUMS : List Int := [3, 4, 8, 67]

def PORTNUM_ADMIN : Int := 6

variable (pb : AppProtobuf F)

/-- `_HANDLERS.get(portnum)` finds one. -/
def isHandled (n : Int) : Bool := (HANDLERS pb).any fun entry => decide (entry.1 = n)

/-- The entries with `payload.hex()` after them. -/
def withRawHex (entries : List (String × Value F)) (packetType : PacketType)
    (payload : PreField F) : Except PyException (Result F) :=
  match payload.hex with
  | some text => .ok (some (Entries.ofList (entries ++ [("raw_hex", .str text)])), packetType)
  | none => .error .attributeError

/-- The handler of a number on a payload that is no bytes. -/
def handleValue (n : Int) (payload : PreField F) : Except PyException (Result F) :=
  if n ∈ TEXT_PORTNUMS then .error .attributeError
  else if n ∈ PARSED_PORTNUMS then .ok (none, (dispatchPortnum pb n []).2)
  else if n = PORTNUM_ADMIN then .ok (dispatchPortnum pb n [])
  else withRawHex [] (dispatchPortnum pb n []).2 payload

/-- `dispatch_portnum` of any two values. -/
def dispatchPreDecoded (portnum payload : PreField F) : Except PyException (Result F) :=
  match portnum.portnum with
  | none => .error .typeError
  | some number =>
    match number.filter (isHandled pb), payload with
    | none, payload => withRawHex [("portnum", portnum.shown)] .unknown payload
    | some n, .bytes b => .ok (dispatchPortnum pb n b)
    | some n, payload => handleValue pb n payload

/-- The portnum has a hash, and its handler takes the payload: bytes, or what it does not look
    at, or a float where only `hex` is asked of it. -/
def Dispatches (portnum payload : PreField F) : Prop :=
  ∃ number ∈ portnum.portnum, payload.isBytes = true ∨
    (∃ n ∈ number, n ∈ PARSED_PORTNUMS ∨ n = PORTNUM_ADMIN) ∨
    ((∀ n ∈ number, n ∉ TEXT_PORTNUMS) ∧ payload.hex.isSome = true)

theorem withRawHex_returns_iff (entries : List (String × Value F)) (packetType : PacketType)
    (payload : PreField F) :
    Returns (withRawHex entries packetType payload) ↔ payload.hex.isSome = true := by
  unfold withRawHex
  cases payload.hex with
  | none => exact iff_of_false (not_returns_error _) Bool.false_ne_true
  | some text => exact iff_of_true (returns_ok _) rfl

theorem handleValue_returns_iff (n : Int) (payload : PreField F) :
    Returns (handleValue pb n payload) ↔ (n ∈ PARSED_PORTNUMS ∨ n = PORTNUM_ADMIN) ∨
      (n ∉ TEXT_PORTNUMS ∧ payload.hex.isSome = true) := by
  have hapart : n ∈ TEXT_PORTNUMS → ¬ (n ∈ PARSED_PORTNUMS ∨ n = PORTNUM_ADMIN) := by
    simp only [TEXT_PORTNUMS, PARSED_PORTNUMS, PORTNUM_ADMIN, List.mem_cons, List.not_mem_nil,
      or_false]
    omega
  unfold handleValue
  by_cases htext : n ∈ TEXT_PORTNUMS
  · rw [if_pos htext]
    refine iff_of_false (not_returns_error _) ?_
    rintro (hother | ⟨hnot, -⟩)
    · exact hapart htext hother
    · exact hnot htext
  rw [if_neg htext]
  by_cases hparsed : n ∈ PARSED_PORTNUMS
  · rw [if_pos hparsed]
    exact iff_of_true (returns_ok _) (Or.inl (Or.inl hparsed))
  rw [if_neg hparsed]
  by_cases hadmin : n = PORTNUM_ADMIN
  · rw [if_pos hadmin]
    exact iff_of_true (returns_ok _) (Or.inl (Or.inr hadmin))
  rw [if_neg hadmin, withRawHex_returns_iff]
  constructor
  · intro h
    exact Or.inr ⟨htext, h⟩
  · rintro ((h | h) | ⟨-, h⟩)
    · exact absurd h hparsed
    · exact absurd h hadmin
    · exact h

theorem isHandled_of_listed {n : Int}
    (h : n ∈ TEXT_PORTNUMS ∨ n ∈ PARSED_PORTNUMS ∨ n = PORTNUM_ADMIN) : isHandled pb n = true := by
  simp only [TEXT_PORTNUMS, PARSED_PORTNUMS, PORTNUM_ADMIN, List.mem_cons, List.not_mem_nil,
    or_false] at h
  rcases h with (rfl | rfl | rfl) | (rfl | rfl | rfl | rfl) | rfl <;> rfl

/-- **Captures that are decoded already** are dispatched without raising exactly under
    `Dispatches`: a number without a handler is none of the listed ones, and `hex` is all that is
    asked of its payload. -/
theorem dispatchPreDecoded_returns_iff (portnum payload : PreField F) :
    Returns (dispatchPreDecoded pb portnum payload) ↔ Dispatches portnum payload := by
  unfold dispatchPreDecoded Dispatches
  cases portnum.portnum with
  | none =>
    refine iff_of_false (not_returns_error _) ?_
    rintro ⟨number, hmem, -⟩
    cases hmem
  | some number =>
    simp only [Option.mem_def, Option.some.injEq, exists_eq_left']
    cases hfilter : number.filter (isHandled pb) with
    | none =>
      have hunlisted : ∀ n, number = some n →
          ¬ (n ∈ TEXT_PORTNUMS ∨ n ∈ PARSED_PORTNUMS ∨ n = PORTNUM_ADMIN) := by
        rintro n rfl hlisted
        exact absurd (isHandled_of_listed pb hlisted) (by simpa using hfilter)
      dsimp only
      rw [withRawHex_returns_iff]
      constructor
      · intro h
        exact Or.inr (Or.inr ⟨fun n hn htext => hunlisted n hn (Or.inl htext), h⟩)
      · rintro (h | ⟨n, hn, h⟩ | ⟨-, h⟩)
        · cases payload with
          | bytes b => rfl
          | value v => cases h
        · exact absurd (Or.inr h) (hunlisted n hn)
        · exact h
    | some n =>
      obtain ⟨rfl, -⟩ := Option.filter_eq_some_iff.mp hfilter
      cases payload with
      | bytes b => exact iff_of_true (returns_ok _) (Or.inl rfl)
      | value v =>
        simpa [PreField.isBytes] using handleValue_returns_iff pb n (.value v)

/-- The dictionary a decoded frame shows, with its request id if that is not falsy. -/
def withRequest (pre : PreDict F) (decoded : Option (Entries F)) : Option (Entries F) :=
  if (requestField pre).truthy then
    decoded.map fun entries => entries.set "request_id" (requestField pre).shown
  else decoded

/-- A field that is bytes and is shown keeps the dictionary out of JSON. -/
def showsBytes (pre : PreDict F) (decoded : Option (Entries F)) : Bool :=
  (portnumField pre).isBytes ||
    ((requestField pre).truthy && (requestField pre).isBytes && decoded.isSome)

/-- The packet of a frame that its capture source decoded already. -/
def preDecodedPacket (raw : Bytes) (header : Header) (pre : PreDict F) (result : Result F)
    (signal : Option (SignalMetrics F)) (timestamp : Int) : Heard F :=
  let attempt : MeshtasticDecoder.Attempt F :=
    { decodedPayload := result.1
      packetType := result.2
      rawAppPayload := match payloadField pre with
        | .bytes b => MeshtasticDecoder.bytesOrNone b
        | .value _ => none }
  let channelName := match pre.get? "channel_name" with
    | some (.value (.str name)) => some name
    | _ => none
  let packet := MeshtasticDecoder.assemble raw header attempt result.1.isSome none channelName
    signal timestamp
  { Heard.ofPacket { packet with decodedPayload := withRequest pre packet.decodedPayload } with
    dumps := !showsBytes pre packet.decodedPayload }

/-- The header of a frame that is long enough and passes `_parse_header`. -/
def frameHeader (raw : Bytes) : Option Header :=
  if raw.length < MESHTASTIC_HEADER_SIZE then none
  else parseHeader (raw.take MESHTASTIC_HEADER_SIZE)

/-- `MeshtasticDecoder.decode` of a frame that its capture source decoded already. -/
def decodePreDecoded (raw : Bytes) (pre : PreDict F) (signal : Option (SignalMetrics F))
    (timestamp : Int) : Except PyException (Option (Heard F)) :=
  match frameHeader raw with
  | none => .ok none
  | some header =>
    (fun result => some (preDecodedPacket raw header pre result signal timestamp)) <$>
      dispatchPreDecoded pb (portnumField pre) (payloadField pre)

theorem decodePreDecoded_returns_iff (raw : Bytes) (pre : PreDict F)
    (signal : Option (SignalMetrics F)) (timestamp : Int) :
    Returns (decodePreDecoded pb raw pre signal timestamp) ↔
      ((frameHeader raw).isSome = true → Dispatches (portnumField pre) (payloadField pre)) := by
  unfold decodePreDecoded
  cases frameHeader raw with
  | none => exact iff_of_true (returns_ok _) (fun h => absurd h Bool.false_ne_true)
  | some header =>
    dsimp only
    rw [returns_map_iff, dispatchPreDecoded_returns_iff, Option.isSome_some, imp_iff_right rfl]

end PreDecoded

/-! ### The station -/

/-- A raw frame as received from a capture source. -/
structure Capture (F : Type) where
  payload : Bytes
  signal : SignalMetrics F
  captureSource : String
  protocolHint : Option Protocol := none
  preDecoded : Option (PreDict F) := none

/-- `ProtocolSpec`: what a plugin does with the captures of its sources. -/
structure PluginSpec (F : Type) where
  protocol : String
  capturePrefix : String
  adapt : Capture F → Except PyException (Option (Heard F))
  tier : Option (Heard F → Except PyException (Option String)) := none

/-- `for_capture_source`. -/
def forCaptureSource {F : Type} (plugins : List (PluginSpec F)) (source : String) :
    Option (PluginSpec F) :=
  plugins.find? fun spec => startsWith source spec.capturePrefix

/-- `for_protocol`: the last one registered. -/
def forProtocol {F : Type} (plugins : List (PluginSpec F)) (protocol : String) :
    Option (PluginSpec F) :=
  plugins.reverse.find? fun spec => decide (spec.protocol = protocol)

/-- A capture with what the loop reads around it: the keys, the plugins and the settings at
    that moment, the clocks, a fresh message id, and whether the database takes the packet, its
    node and the status of an acknowledged page. -/
structure Reception (F : Type) where
  capture : Capture F
  crypto : CryptoService
  ourNodeId : Option Nat := none
  plugins : List (PluginSpec F) := []
  deviceLocation : Option (F × F) := none
  pagerCapcode : Int := 0
  now : ℚ
  timestamp : Int
  freshId : String
  relayClock : RelayClock
  packetStored : Bool
  nodeStored : Bool
  statusStored : Bool

/-- An entry of `StrayFrameLog`. -/
structure StrayFrame (F : Type) where
  captureSource : String
  protocolHint : Option String
  byteLength : Nat
  rssi : F
  snr : F
  rawHex : String

/-- `_MAX_ENTRIES` and `_MAX_RAW_BYTES` of the log. -/
def MAX_ENTRIES : Nat := 500
def MAX_RAW_BYTES : Nat := 512

/-- `StrayFrameLog.record`: a full log drops its oldest entry. -/
def record {F : Type} (strays : List (StrayFrame F)) (raw : Capture F) : List (StrayFrame F) :=
  let entries := strays ++
    [{ captureSource := raw.captureSource
       protocolHint := raw.protocolHint.map Protocol.value
       byteLength := raw.payload.length
       rssi := raw.signal.rssi
       snr := raw.signal.snr
       rawHex := hexlify (raw.payload.take MAX_RAW_BYTES) }]
  entries.drop (entries.length - MAX_ENTRIES)

/-- What the loop changes.  `lastNodeUpdate` holds the coordinates of each node's last update;
    the session keys were derived from joins, so each is a block of the cipher. -/
structure Station (F : Type) where
  lorawan : LorawanJoin.Decoder
  sessionKeysFit : SessionKeysFit lorawan
  tables : FieldTables F := .empty
  relay : RelayManager F
  lastNodeUpdate : OrderedDict DictKey (Value F × Value F) := .empty
  stats : StatsReporter F
  strays : List (StrayFrame F) := []

/-- What the pipeline uses of its libraries. -/
structure Libraries (F : Type) where
  prim : CryptoPrimitives
  pb : AppProtobuf F
  rt : EventRuntime F
  casing : Casing
  upper : String → String

section Processing

variable {F : Type} [StationFloat F] (lib : Libraries F)

/-! ### From a capture to a packet -/

def decodeMeshtastic (r : Reception F) : Except PyException (Option (Heard F)) :=
  match r.capture.preDecoded with
  | some pre => decodePreDecoded lib.pb r.capture.payload pre (some r.capture.signal) r.timestamp
  | none => .ok ((MeshtasticDecoder.decode lib.prim lib.pb r.crypto r.ourNodeId r.capture.payload
      (some r.capture.signal) none r.timestamp).1.map Heard.ofPacket)

def decodeMeshcore (r : Reception F) : Option (Heard F) :=
  (MeshcoreDecoder.decode lib.prim r.crypto r.capture.payload (some r.capture.signal)
    r.timestamp).map Heard.ofPacket

/-- The packet of whichever decoder decrypts, Meshtastic first. -/
def firstDecrypted (packet meshcorePacket : Option (Heard F)) : Option (Heard F) :=
  if packet.any (·.packet.decrypted) then packet
  else if meshcorePacket.any (·.packet.decrypted) then meshcorePacket
  else packet.or meshcorePacket

/-- `PacketRouter.decode`, with the LoRaWAN decoder it leaves. -/
def routeDecode (d : LorawanJoin.Decoder) (tables : FieldTables F) (r : Reception F) :
    Except PyException (LorawanJoin.Decoder × Option (Heard F)) :=
  match r.capture.protocolHint with
  | some .lorawan =>
    (fun result => (result.1, result.2.map Heard.ofPacket)) <$>
      LorawanFrames.decode lib.prim d tables r.capture.payload (some r.capture.signal) r.now
        r.timestamp
  | some .meshtastic => (fun packet => (d, packet)) <$> decodeMeshtastic lib r
  | some .meshcore => .ok (d, decodeMeshcore lib r)
  | _ => (fun packet => (d, firstDecrypted packet (decodeMeshcore lib r))) <$>
      decodeMeshtastic lib r

/-- The packet of a capture, with the LoRaWAN decoder it leaves. -/
def adaptCapture (d : LorawanJoin.Decoder) (tables : FieldTables F) (r : Reception F) :
    Except PyException (LorawanJoin.Decoder × Option (Heard F)) :=
  if startsWith r.capture.captureSource "meshcore_usb" then
    (fun packet => (d, packet)) <$> MeshcoreEventAdapter.adaptEvent lib.rt r.freshId r.timestamp
      r.capture.payload (some r.capture.signal)
  else
    match forCaptureSource r.plugins r.capture.captureSource with
    | some spec => (fun packet => (d, packet)) <$> spec.adapt r.capture
    | none =>
      if r.capture.protocolHint = some .pager then
        (fun packet => (d, packet.map Heard.ofPacket)) <$> PagerEventAdapter.adaptEvent lib.rt
          r.freshId r.timestamp r.capture.payload (some r.capture.signal)
      else routeDecode lib d tables r

/-! ### What becomes of a packet -/

/-- `proto_spec.tier(packet)`. -/
def tierOf (r : Reception F) (heard : Heard F) : Except PyException (Option String) :=
  match (forProtocol r.plugins heard.packet.protocol.value).bind PluginSpec.tier with
  | some tier => tier heard
  | none => .ok none

/-- What `_process_capture` does with a packet: nothing more, write the status of the page it
    acknowledges, or handle it. -/
inductive Course where
  | leave
  | acknowledge
  | handle
deriving DecidableEq

def pagerCourse (r : Reception F) (heard : Heard F) : Course :=
  let pagerPayload := heard.packet.decodedPayload.getD .nil
  if r.pagerCapcode ≠ 0 ∧ equalsInt r.pagerCapcode (getValue pagerPayload "from") = true then .leave
  else if (pagerPayload.get? "ack_id").isSome then .acknowledge
  else .handle

def courseOf (r : Reception F) (heard : Heard F) (tier : Option String) : Course :=
  if tier = some "ignore" ∨ tier = some "blacklist" then .leave
  else if heard.packet.protocol.value = Protocol.pager.value then pagerCourse r heard
  else .handle

/-- The coordinates that `extract_node_update` takes from a packet, if it makes an update; the
    outer `none` is an exception. -/
def extractNodeUpdate (packet : Packet F) : Option (Option (Value F × Value F)) :=
  let payload := packet.decodedPayload.getD .nil
  let lat := getValue payload "latitude"
  let lon := getValue payload "longitude"
  let both := if isNull lat || isNull lon then (.null, .null) else (lat, lon)
  if payload.isEmpty then some none
  else if packet.protocol.value = Protocol.meshtastic.value then
    some (some (if packet.packetType = .position then (lat, lon) else (.null, .null)))
  else if packet.protocol.value = Protocol.meshcore.value then
    match packet.packetType with
    | .nodeinfo => if hashable (getValue payload "node_type") then some (some both) else none
    | .position => some (some both)
    | _ => some (some (.null, .null))
  else some none

def Insertable (heard : Heard F) : Prop :=
  heard.dumps = true ∧ bindableNotNull heard.sourceId = true ∧ bindable heard.channelHash = true ∧
    -2 ^ 63 ≤ heard.hopStart ∧ heard.hopStart < 2 ^ 63

instance (heard : Heard F) : Decidable (Insertable heard) := inferInstanceAs (Decidable (_ ∧ _))

/-- `_store_packet`: every failure is caught, and the node's update is remembered once its row
    is written. -/
def storePacket (r : Reception F) (heard : Heard F)
    (lastNodeUpdate : OrderedDict DictKey (Value F × Value F)) :
    OrderedDict DictKey (Value F × Value F) :=
  if r.packetStored = true ∧ Insertable heard then
    match extractNodeUpdate heard.packet, dictKey heard.sourceId with
    | some (some (lat, lon)), some key =>
      if r.nodeStored && bindable lat && bindable lon then lastNodeUpdate.set key (lat, lon)
      else lastNodeUpdate
    | _, _ => lastNodeUpdate
  else lastNodeUpdate

/-- The part of `_record_stats` that measures the distance to the packet's source. -/
def recordDistance (r : Reception F) (heard : Heard F)
    (lastNodeUpdate : OrderedDict DictKey (Value F × Value F)) (stats : StatsReporter F) :
    Except PyException (StatsReporter F) :=
  match heard.packet.signal, r.deviceLocation with
  | some signal, some device =>
    if truthy heard.sourceId then
      match dictKey heard.sourceId with
      | none => .error .typeError
      | some key =>
        match lastNodeUpdate.get? key with
        | some (lat, lon) =>
          if isNull lat || isNull lon then .ok stats
          else stats.recordFarthestDirect heard.sourceId signal.rssi device lat lon heard.hopStart
            heard.packet.hopLimit
        | none => .ok stats
    else .ok stats
  | _, _ => .ok stats

/-- `_record_stats`. -/
def recordStats (r : Reception F) (heard : Heard F)
    (lastNodeUpdate : OrderedDict DictKey (Value F × Value F)) (stats : StatsReporter F) :
    Except PyException (StatsReporter F) :=
  recordDistance r heard lastNodeUpdate
    (stats.recordPacket heard.packet.protocol.value heard.packet.packetType.value
      heard.packet.signal heard.hopStart heard.packet.hopLimit)

/-- The rest of `_process_capture` for a packet that is handled. -/
def handlePacket (s : Station F) (r : Reception F) (heard : Heard F) :
    Except PyException (Station F) :=
  let lastNodeUpdate := storePacket r heard s.lastNodeUpdate
  let relay := (s.relay.processPacket lib.casing r.relayClock heard.packet).2
  (fun stats => { s with lastNodeUpdate := lastNodeUpdate, relay := relay, stats := stats }) <$>
    recordStats r heard lastNodeUpdate s.stats

/-- `_process_capture` from the packet on. -/
def processPacket (s : Station F) (r : Reception F) (heard : Heard F) :
    Except PyException (Station F) :=
  tierOf r heard >>= fun tier =>
    match courseOf r heard tier with
    | .leave => .ok s
    | .acknowledge => if r.statusStored = false then .error .other else .ok s
    | .handle => handlePacket lib s r heard

theorem sessionKeysFit_adaptCapture {d d' : LorawanJoin.Decoder} (hkeys : SessionKeysFit d)
    {tables : FieldTables F} {r : Reception F} {heard : Option (Heard F)}
    (h : adaptCapture lib d tables r = .ok (d', heard)) : SessionKeysFit d' := by
  have hkeep : ∀ {α : Type} {x : Except PyException α} {f : α → Option (Heard F)},
      (fun a => (d, f a)) <$> x = .ok (d', heard) → SessionKeysFit d' := by
    intro α x f hx
    cases x with
    | error e => cases hx
    | ok a =>
      cases hx
      exact hkeys
  unfold adaptCapture at h
  split at h
  · exact hkeep h
  · split at h
    · exact hkeep h
    · split at h
      · exact hkeep h
      · unfold routeDecode at h
        split at h
        · cases hdecode : LorawanFrames.decode lib.prim d tables r.capture.payload
              (some r.capture.signal) r.now r.timestamp with
          | error e =>
            rw [hdecode] at h
            cases h
          | ok result =>
            rw [hdecode] at h
            cases h
            rw [LorawanFrames.decoder_of_decode lib.prim hdecode]
            exact LorawanFrames.sessionKeysFit_receive lib.prim hkeys _
        · exact hkeep h
        · cases h
          exact hkeys
        · exact hkeep h

/-- The station with the LoRaWAN decoder a capture left. -/
def Station.withLorawan (s : Station F) (d : LorawanJoin.Decoder) (hkeys : SessionKeysFit d) :
    Station F :=
  { s with lorawan := d, sessionKeysFit := hkeys }

/-- `_process_capture` after the decoders: a capture without a packet is a stray frame. -/
def finishCapture (s : Station F) (r : Reception F) :
    Option (Heard F) → Except PyException (Station F)
  | none => .ok { s with strays := record s.strays r.capture }
  | some heard => processPacket lib s r (heard.withSource r.capture.captureSource)

/-- `_process_capture`. -/
def processCapture (s : Station F) (r : Reception F) : Except PyException (Station F) :=
  match h : adaptCapture lib s.lorawan s.tables r with
  | .error e => .error e
  | .ok (d, heard) =>
    finishCapture lib (s.withLorawan d (sessionKeysFit_adaptCapture lib s.sessionKeysFit h)) r heard

/-! ### The loop -/

/-- What happens to the station: the loop takes a capture, or `PUT /config/lorawan` is served
    between two captures. -/
inductive Event (F : Type) where
  | capture (r : Reception F)
  | putLorawan (devices : List (LoRaWANDeviceEntry F))

def step (s : Station F) : Event F → Except PyException (Station F)
  | .capture r => processCapture lib s r
  | .putLorawan devices =>
    let stored := LorawanFrames.updateLorawanConfig lib.upper devices s.lorawan s.tables
    .ok { s with
      lorawan := stored.1
      tables := stored.2
      sessionKeysFit :=
        LorawanFrames.sessionKeysFit_updateLorawanConfig lib.upper s.sessionKeysFit devices s.tables }

/-- `_run_pipeline`: the last state and the number of events the loop was there for. -/
def runPipeline (s : Station F) (events : List (Event F)) : Station F × Nat :=
  drain (step lib) s events

/-! ### When a capture is harmless -/

/-- The decoder or adapter that a capture goes to takes it. -/
def Decodes (d : LorawanJoin.Decoder) (tables : FieldTables F) (r : Reception F) : Prop :=
  if startsWith r.capture.captureSource "meshcore_usb" then EventLoads lib.rt r.capture.payload
  else
    match forCaptureSource r.plugins r.capture.captureSource with
    | some spec => Returns (spec.adapt r.capture)
    | none =>
      match r.capture.protocolHint with
      | some .pager => PageLoads lib.rt r.capture.payload
      | some .lorawan => IsDataUp r.capture.payload →
          ∀ frame ∈ dataFrame r.capture.payload, FrameDecodes d tables frame
      | some .meshcore => True
      | _ => ∀ pre ∈ r.capture.preDecoded, (frameHeader r.capture.payload).isSome = true →
          Dispatches (portnumField pre) (payloadField pre)

/-- Where the distance to the source of a packet is looked at, the source has a hash and the
    coordinates of its last update are measurable. -/
def Placeable (r : Reception F) (heard : Heard F)
    (lastNodeUpdate : OrderedDict DictKey (Value F × Value F)) (stats : StatsReporter F) : Prop :=
  ∀ signal ∈ heard.packet.signal, ∀ device ∈ r.deviceLocation, truthy heard.sourceId = true →
    ∃ key ∈ dictKey heard.sourceId, ∀ lat lon, lastNodeUpdate.get? key = some (lat, lon) →
      isNull lat = false → isNull lon = false →
        stats.Measurable signal.rssi device lat lon heard.hopStart heard.packet.hopLimit

def Allowed (s : Station F) (r : Reception F) (heard : Heard F) : Course → Prop
  | .leave => True
  | .acknowledge => r.statusStored = true
  | .handle => Placeable r heard (storePacket r heard s.lastNodeUpdate) s.stats

/-- The capture's decoder takes it, and its packet has a tier and is allowed its course. -/
def Harmless (s : Station F) (r : Reception F) : Prop :=
  Decodes lib s.lorawan s.tables r ∧
    ∀ d heard, adaptCapture lib s.lorawan s.tables r = .ok (d, some heard) →
      let heard := heard.withSource r.capture.captureSource
      ∃ tier, tierOf r heard = .ok tier ∧ Allowed s r heard (courseOf r heard tier)

def Acceptable (s : Station F) : Event F → Prop
  | .capture r => Harmless lib s r
  | .putLorawan _ => True

theorem decodeMeshtastic_returns_iff (r : Reception F) :
    Returns (decodeMeshtastic lib r) ↔ ∀ pre ∈ r.capture.preDecoded,
      (frameHeader r.capture.payload).isSome = true →
        Dispatches (portnumField pre) (payloadField pre) := by
  unfold decodeMeshtastic
  cases r.capture.preDecoded with
  | none =>
    refine iff_of_true (returns_ok _) ?_
    intro pre h
    cases h
  | some pre =>
    dsimp only
    rw [decodePreDecoded_returns_iff]
    constructor
    · intro h pre' hmem
      cases hmem
      exact h
    · intro h
      exact h pre rfl

theorem adaptCapture_returns_iff {d : LorawanJoin.Decoder} (hkeys : SessionKeysFit d)
    (tables : FieldTables F) (r : Reception F) :
    Returns (adaptCapture lib d tables r) ↔ Decodes lib d tables r := by
  unfold adaptCapture Decodes
  by_cases hcompanion : startsWith r.capture.captureSource "meshcore_usb" = true
  · rw [if_pos hcompanion, if_pos hcompanion, returns_map_iff,
      MeshcoreEventAdapter.adaptEvent_returns_iff]
  rw [if_neg hcompanion, if_neg hcompanion]
  cases forCaptureSource r.plugins r.capture.captureSource with
  | some spec => exact returns_map_iff
  | none =>
    dsimp only
    by_cases hpager : r.capture.protocolHint = some .pager
    · rw [if_pos hpager, hpager, returns_map_iff, PagerEventAdapter.adaptEvent_returns_iff]
    rw [if_neg hpager]
    unfold routeDecode
    split
    · rename_i hhint
      rw [returns_map_iff, LorawanFrames.decode_returns_iff lib.prim hkeys, hhint]
    · rename_i hhint
      rw [returns_map_iff, decodeMeshtastic_returns_iff, hhint]
    · rename_i hhint
      rw [hhint]
      exact iff_of_true (returns_ok _) trivial
    · rename_i hlorawan _ hmeshcore
      rw [returns_map_iff, decodeMeshtastic_returns_iff]
      split
      · rename_i h
        exact absurd h hpager
      · rename_i h
        exact absurd h hlorawan
      · rename_i h
        exact absurd h hmeshcore
      · exact Iff.rfl

theorem recordDistance_returns_iff (r : Reception F) (heard : Heard F)
    (lastNodeUpdate : OrderedDict DictKey (Value F × Value F)) (stats : StatsReporter F) :
    Returns (recordDistance r heard lastNodeUpdate stats) ↔
      Placeable r heard lastNodeUpdate stats := by
  unfold recordDistance Placeable
  cases heard.packet.signal with
  | none => exact iff_of_true (returns_ok _) (fun signal h => by cases h)
  | some signal =>
    cases r.deviceLocation with
    | none => exact iff_of_true (returns_ok _) (fun _ _ device h => by cases h)
    | some device =>
      simp only [Option.mem_def, Option.some.injEq, forall_eq']
      by_cases hsource : truthy heard.sourceId = true
      swap
      · rw [if_neg hsource]
        exact iff_of_true (returns_ok _) (fun h => absurd h hsource)
      rw [if_pos hsource, imp_iff_right hsource]
      cases dictKey heard.sourceId with
      | none =>
        refine iff_of_false (not_returns_error _) ?_
        rintro ⟨key, hkey, -⟩
        cases hkey
      | some key =>
        simp only [Option.some.injEq, exists_eq_left']
        cases lastNodeUpdate.get? key with
        | none => exact iff_of_true (returns_ok _) (fun lat lon h => by cases h)
        | some position =>
          obtain ⟨lat, lon⟩ := position
          dsimp only
          by_cases hnull : isNull lat = true ∨ isNull lon = true
          · rw [if_pos (by simpa using hnull)]
            refine iff_of_true (returns_ok _) ?_
            intro lat' lon' h hlat hlon
            cases h
            rcases hnull with hnull | hnull
            · exact absurd (hnull.symm.trans hlat) (by decide)
            · exact absurd (hnull.symm.trans hlon) (by decide)
          · rw [if_neg (by simpa using hnull), StatsReporter.recordFarthestDirect_returns_iff]
            obtain ⟨hlat, hlon⟩ := not_or.mp hnull
            constructor
            · intro h lat' lon' hpair _ _
              cases hpair
              exact h
            · intro h
              exact h lat lon rfl (Bool.eq_false_of_not_eq_true hlat)
                (Bool.eq_false_of_not_eq_true hlon)

theorem recordStats_returns_iff (r : Reception F) (heard : Heard F)
    (lastNodeUpdate : OrderedDict DictKey (Value F × Value F)) (stats : StatsReporter F) :
    Returns (recordStats r heard lastNodeUpdate stats) ↔
      Placeable r heard lastNodeUpdate stats := by
  rw [recordStats, recordDistance_returns_iff]
  simp only [Placeable, StatsReporter.measurable_recordPacket_iff]

theorem processPacket_returns_iff (s : Station F) (r : Reception F) (heard : Heard F) :
    Returns (processPacket lib s r heard) ↔
      ∃ tier, tierOf r heard = .ok tier ∧ Allowed s r heard (courseOf r heard tier) := by
  rw [processPacket, returns_bind_iff]
  refine exists_congr fun tier => and_congr_right fun _ => ?_
  cases courseOf r heard tier with
  | leave => exact iff_of_true (returns_ok _) trivial
  | acknowledge =>
    dsimp only [Allowed]
    rw [returns_ite_error, Bool.not_eq_false]
    exact and_iff_left (returns_ok s)
  | handle =>
    dsimp only [Allowed, handlePacket]
    rw [returns_map_iff, recordStats_returns_iff]

/-- **One capture.**  Processing a capture returns exactly when the capture is harmless. -/
theorem processCapture_returns_iff (s : Station F) (r : Reception F) :
    Returns (processCapture lib s r) ↔ Harmless lib s r := by
  rw [Harmless, ← adaptCapture_returns_iff lib s.sessionKeysFit]
  unfold processCapture
  split
  · rename_i e hadapt
    refine iff_of_false (not_returns_error e) ?_
    rintro ⟨⟨result, hok⟩, -⟩
    cases hadapt.symm.trans hok
  · rename_i d heard hadapt
    have hreturns : Returns (adaptCapture lib s.lorawan s.tables r) := ⟨_, hadapt⟩
    rw [and_iff_right hreturns]
    cases heard with
    | none =>
      refine iff_of_true (returns_ok _) ?_
      intro d' heard' h
      cases hadapt.symm.trans h
    | some heard =>
      rw [finishCapture, processPacket_returns_iff]
      constructor
      · intro h d' heard' hok
        cases hadapt.symm.trans hok
        exact h
      · intro h
        exact h d heard hadapt

theorem step_returns_iff (s : Station F) (event : Event F) :
    Returns (step lib s event) ↔ Acceptable lib s event := by
  cases event with
  | capture r => exact processCapture_returns_iff lib s r
  | putLorawan devices => exact iff_of_true (returns_ok _) trivial

/-- **When the loop takes everything.**  Over any run of captures and requests, the pipeline
    takes all of them exactly when each capture is harmless in the state it is taken in. -/
theorem runPipeline_takes_all_iff (s : Station F) (events : List (Event F)) :
    (runPipeline lib s events).2 = events.length ↔ Meets (step lib) (Acceptable lib) s events :=
  drain_eq_length_iff (step_returns_iff lib) s events

end Processing

/-! ### A field without an offset -/

/-- The AES blocks of device A's join and of its first data frame; no protobuf and no JSON. -/
def fieldLibraries : Libraries WholeFloat where
  prim := .ofTable
    [(List.replicate 16 0xA2, ofHex "47baec51bf96c12cd15c6b29d617d58a",
        ofHex "010000130000030201260005deadbeef"),
      (List.replicate 16 0xA1, ofHex "02010000000000000000000001000000",
        ofHex "ccf917486018e88dabf920e8817a57aa"),
      (ofHex "ccf917486018e88dabf920e8817a57aa", ofHex "01000000000003020126010000000001",
        ofHex "52c89ea3068581b3be981e11ca7d0479")] [] []
  pb := default
  rt := { asciiRuntime WholeFloat with
    loads := fun _ => .malformed
    fromTimestampInt := some
    fromTimestampFloat := fun x => some x.value }
  casing := Casing.ascii
  upper := id

/-- A station at start, with the keys of two devices. -/
def freshStation : Station WholeFloat where
  lorawan := .fresh LorawanJoin.twoDevices
  sessionKeysFit := by
    intro store devAddr key hstore hkey
    cases hstore
    cases hkey
  relay := { minRssi := ⟨-115⟩, maxRssi := ⟨-50⟩ }
  stats := .fresh

def lorawanCapture (payload : String) (now : ℚ) : Reception WholeFloat where
  capture :=
    { payload := ofHex payload
      signal := ⟨⟨-90⟩, ⟨7⟩⟩
      captureSource := "concentrator"
      protocolHint := some .lorawan }
  crypto := { defaultKey := none, keys := .empty }
  now := now
  timestamp := 0
  freshId := ""
  relayClock := ⟨now, now⟩
  packetStored := true
  nodeStored := true
  statusStored := true

/-- Device A with one sensor field, whose offset is left out: it is that of the cursor. -/
def temperatureDevice : LoRaWANDeviceEntry WholeFloat where
  devEui := "70:B3:D5:7E:D0:00:00:0A"
  appKey := LorawanJoin.repeatedKey 0xA1
  nwkKey := LorawanJoin.repeatedKey 0xA2
  keys_length := ⟨rfl, rfl⟩
  payloadFields := [{ name := "temperature_c", type := "int16_be", type_known := rfl, scale := ⟨1⟩ }]

/-- Device A joins, its field is configured, it sends a reading, and it joins again. -/
def temperatureEvents : List (Event WholeFloat) :=
  [.capture (lorawanCapture "0000000000000000000a0000d07ed5b370010001020304" 0),
    .capture (lorawanCapture "2047baec51bf96c12cd15c6b29d617d58a" 5),
    .putLorawan [temperatureDevice],
    .capture (lorawanCapture "400302012600010002521f00000000" 60),
    .capture (lorawanCapture "0000000000000000000a0000d07ed5b370010001020304" 61)]

/-- The reading of a field without an offset ends the loop, and the frame after it is not
    taken. -/
theorem runPipeline_stops_at_reading :
    (runPipeline fieldLibraries freshStation temperatureEvents).2 = 3 ∧
      temperatureEvents.length = 5 := by
  decide +kernel

end Meshpoint.PipelineLoop
