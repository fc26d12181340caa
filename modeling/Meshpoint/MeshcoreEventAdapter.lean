import Meshpoint.HeardPacket

/-!
# MeshCore companion events

Model of `src/decode/meshcore_event_adapter.py`, which turns the JSON events of the
companion into packets.  The builders run under a handler of their own: a builder that
raises gives no packet, and `none` stands for that.  What precedes them does not, so
`adaptEvent` may raise; `adaptEvent_returns_iff` says when it does not.
-/

namespace Meshpoint.MeshcoreEventAdapter

open JsonText PyText MqttFormatter Raising

/-! ### Advertisements -/

section Advertisement

variable {F : Type} [PyFloat F] (rt : Runtime F)

/-- `str(value)`. -/
def textOf : Value F → String
  | .str s => s
  | v => rt.pyStr v

/-- `_first_payload_value`. -/
def firstPayloadValue (payload : Entries F) (keys : List String) (default : String) : String :=
  match keys with
  | [] => default
  | key :: rest =>
    let value := getValue payload key
    if isNull value then firstPayloadValue payload rest default
    else if strip (textOf rt value) = "" then firstPayloadValue payload rest default
    else strip (textOf rt value)

/-- Scan one dictionary for a wanted key: the name found, or the containers to
    visit next, pushed onto `stack`. -/
def scanNames (wanted : List String) : Entries F → List (Value F) → String ⊕ List (Value F)
  | .nil, stack => .inr stack
  | .cons k v es, stack =>
    if wanted.contains (rt.lower k) && !isNull v then
      if strip (textOf rt v) = "" then scanNames wanted es stack else .inl (strip (textOf rt v))
    else
      match v with
      | .dict _ => scanNames wanted es (v :: stack)
      | .list _ => scanNames wanted es (v :: stack)
      | _ => scanNames wanted es stack

def pushItems : Values F → List (Value F) → List (Value F)
  | .nil, stack => stack
  | .cons v vs, stack => pushItems vs (v :: stack)

/-- Push the values of a dictionary, last one on top. -/
def pushValues : Entries F → List (Value F) → List (Value F)
  | .nil, stack => stack
  | .cons _ v es, stack => pushValues es (v :: stack)

mutual

/-- Number of values in a tree: an upper bound on the loop below. -/
def nodes : Value F → Nat
  | .list vs => nodesItems vs + 1
  | .dict es => nodesEntries es + 1
  | _ => 1

def nodesItems : Values F → Nat
  | .nil => 0
  | .cons v vs => nodes v + nodesItems vs

def nodesEntries : Entries F → Nat
  | .nil => 0
  | .cons _ v es => nodes v + nodesEntries es

end

/-- The depth-first search of `_find_payload_name`; the top of the stack is the
    head of the list. -/
def searchNames (wanted : List String) : Nat → List (Value F) → String
  | 0, _ => ""
  | _, [] => ""
  | fuel + 1, .dict es :: stack =>
    match scanNames rt wanted es stack with
    | .inl name => name
    | .inr stack' => searchNames wanted fuel stack'
  | fuel + 1, .list vs :: stack => searchNames wanted fuel (pushItems vs stack)
  | fuel + 1, _ :: stack => searchNames wanted fuel stack

/-- `_find_payload_name`. -/
def findPayloadName (payload : Entries F) (keys : List String) : String :=
  let direct := firstPayloadValue rt payload keys ""
  if direct = "" then
    searchNames rt (keys.map rt.lower) (nodesEntries payload + 1) (pushValues payload [])
  else direct

/-- `int(value)` with the exceptions the adapter catches: `none` when another one
    is raised (an infinite float). -/
def intOrSkip : Value F → Option (Option Int)
  | .float x => if PyFloat.isFinite x || PyFloat.isNaN x then some (PyFloat.toInt x) else none
  | v => some (toInt v)

/-- The first acceptable type under the given keys of one dictionary. -/
def typeAt (candidate : Entries F) : List String → Option (Option Int)
  | [] => some none
  | key :: rest =>
    if isNull (getValue candidate key) then typeAt candidate rest
    else
      match intOrSkip (getValue candidate key) with
      | none => none
      | some (some n) => if 0 ≤ n ∧ n ≤ 15 then some (some n) else typeAt candidate rest
      | some none => typeAt candidate rest

/-- The dictionaries among the values of a dictionary. -/
def innerDicts : Entries F → List (Entries F)
  | .nil => []
  | .cons _ (.dict inner) es => inner :: innerDicts es
  | .cons _ _ es => innerDicts es

/-- The first acceptable type of several dictionaries. -/
def typeAmong : List (Entries F) → Option (Option Int)
  | [] => some none
  | candidate :: rest =>
    match typeAt candidate ["type", "adv_type", "node_type"] with
    | some none => typeAmong rest
    | answer => answer

/-- `_find_payload_type`; the outer `none` is an exception. -/
def findPayloadType (payload : Entries F) : Option (Option Int) :=
  typeAmong (payload :: innerDicts payload)

/-- `s.lower().lstrip("!")`. -/
def bareLower (s : String) : String := lstripWhere (· = '!') (rt.lower s)

/-- `_looks_like_identifier`. -/
def looksLikeIdentifier (name sourceId pubkey : String) : Bool :=
  let lowered := bareLower rt name
  [bareLower rt sourceId, bareLower rt pubkey, bareLower rt (clip 12 pubkey)].contains lowered ||
    ((intOfText 16 lowered).isSome && 8 ≤ lowered.length)

def PUBKEY_FIELDS : List String := ["public_key", "pubkey", "pub_key", "pubkey_prefix"]

def NAME_FIELDS : List String :=
  ["adv_name", "advName", "name", "long_name", "longName", "display_name", "displayName",
    "node_name", "nodeName", "repeater_name", "repeaterName"]

/-- The decoded payload of an advertisement; `none` when the builder raises. -/
def advertisementPayload (payload : Entries F) : Option (Entries F) := do
  let pubkey := firstPayloadValue rt payload PUBKEY_FIELDS "unknown"
  let sourceId := clip 12 pubkey
  let name := findPayloadName rt payload NAME_FIELDS
  let nodeType ← findPayloadType payload
  let lat := getValue payload "adv_lat"
  let lon := getValue payload "adv_lon"
  return Entries.ofList
    ([("public_key", .str pubkey), ("advertisement", .dict payload)] ++
      (match nodeType with
        | some n => [("node_type", .int n)]
        | none => []) ++
      (if name ≠ "" ∧ looksLikeIdentifier rt name sourceId pubkey = false then
        [("long_name", .str name), ("short_name", .str (clip 4 name))] else []) ++
      (if truthy lat && truthy lon then [("latitude", lat), ("longitude", lon)] else []))

/-- `_build_advertisement`, with the generated packet id and the parsed timestamp. -/
def buildAdvertisement (packetId : String) (timestamp : Int) (payload : Entries F)
    (signal : Option (SignalMetrics F)) : Option (Packet F) :=
  (advertisementPayload rt payload).map fun decoded =>
    { packetId := packetId
      sourceId := clip 12 (firstPayloadValue rt payload PUBKEY_FIELDS "unknown")
      destinationId := "broadcast"
      protocol := .meshcore
      packetType := .nodeinfo
      decodedPayload := some decoded
      signal := signal
      timestamp := timestamp }

end Advertisement

/-! ### The other events -/

section Events

variable {F : Type} [StationFloat F] (rt : EventRuntime F)

/-- `float(value)`; `none` when it raises. -/
def floatOrRaise : Value F → Option F
  | .bool b => some (PyFloat.ofInt (if b then 1 else 0))
  | .int n => StationFloat.ofIntOrRaise n
  | .float x => some x
  | .str s => rt.floatOfText s
  | _ => none

/-- `_parse_timestamp`; `none` when it raises. -/
def parseTimestamp (now : Int) : Value F → Option Int
  | .bool b => rt.fromTimestampInt (if b then 1 else 0)
  | .int n => rt.fromTimestampInt n
  | .float x => rt.fromTimestampFloat x
  | _ => some now

/-- `_hop_start_from_payload`; `none` when it raises. -/
def hopStartFromPayload (payload : Entries F) : Option Int :=
  let pathLen := getValue payload "path_len"
  if isNull pathLen || equalsInt 255 pathLen then some 0 else toInt pathLen

/-- `_rf_signal_from_payload`; the outer `none` is an exception. -/
def rfSignalFromPayload (payload : Entries F) (fallback : Option (SignalMetrics F)) :
    Option (Option (SignalMetrics F)) :=
  let rssi := getOr payload "rssi" (getValue payload "RSSI")
  let snr := getOr payload "snr" (getValue payload "SNR")
  if isNull rssi && isNull snr then some fallback
  else do
    let rssi ← if isNull rssi then some (PyFloat.ofInt (-120)) else floatOrRaise rt rssi
    let snr ← if isNull snr then some (PyFloat.ofInt 0) else floatOrRaise rt snr
    return some ⟨rssi, snr⟩

/-- The sender's name: the first of three entries that is not empty. -/
def senderName (payload : Entries F) : Value F :=
  let first := fun (key : String) (other : Value F) =>
    if truthy (getValue payload key) then getValue payload key else other
  first "sender_name" (first "contact_name" (first "name" (.str "")))

/-- `{..., "long_name": sender}` where there is one. -/
def withSender (entries : List (String × Value F)) (sender : Value F) : Entries F :=
  Entries.ofList (entries ++ if truthy sender then [("long_name", sender)] else [])

/-- A packet of an event; what is no text or number is read through `str`. -/
def eventPacket (packetId : String) (source : Value F) (destinationId : String)
    (packetType : PacketType) (decoded : Entries F) (channel : Value F) (hopStart : Int)
    (decrypted : Bool) (signal : Option (SignalMetrics F)) (timestamp : Int) : Heard F where
  packet :=
    { packetId := packetId
      sourceId := textOf rt.toRuntime source
      destinationId := destinationId
      protocol := .meshcore
      packetType := packetType
      hopStart := hopStart.toNat
      decodedPayload := some decoded
      decrypted := decrypted
      signal := signal
      timestamp := timestamp }
  sourceId := source
  channelHash := channel
  hopStart := hopStart

/-- `_build_contact_message`. -/
def buildContactMessage (packetId : String) (now : Int) (payload : Entries F)
    (signal : Option (SignalMetrics F)) : Option (Heard F) := do
  let hopStart ← hopStartFromPayload payload
  let signal ← rfSignalFromPayload rt payload signal
  let timestamp ← parseTimestamp rt now (getValue payload "timestamp")
  return eventPacket rt packetId (getOr payload "pubkey_prefix" (.str "unknown")) "self" .text
    (withSender [("text", getOr payload "text" (.str ""))] (senderName payload)) (.int 0) hopStart
    true signal timestamp

/-- `s.split(": ", 1)` where `": "` is in `s`. -/
def splitSender : List Char → Option (List Char × List Char)
  | ':' :: ' ' :: rest => some ([], rest)
  | c :: rest => (splitSender rest).map fun halves => (c :: halves.1, halves.2)
  | [] => none

def containsItem (text : String) : Values F → Bool
  | .nil => false
  | .cons (.str s) rest => s = text || containsItem text rest
  | .cons _ rest => containsItem text rest

/-- The sender and the text of a channel message; `none` when it raises. -/
def channelSender (payload : Entries F) : Option (Value F × Value F) :=
  let rawText := getOr payload "text" (.str "")
  let sender := senderName payload
  if truthy sender then some (sender, rawText)
  else
    match rawText with
    | .str s =>
      match splitSender s.toList with
      | some (name, text) => some (.str (String.ofList name), .str (String.ofList text))
      | none => some (sender, rawText)
    -- a list or dictionary that holds ": " has no split
    | .list items => if containsItem ": " items then none else some (sender, rawText)
    | .dict entries => if (entries.get? ": ").isSome then none else some (sender, rawText)
    | _ => none

/-- `_build_channel_message`. -/
def buildChannelMessage (packetId : String) (now : Int) (payload : Entries F)
    (signal : Option (SignalMetrics F)) : Option (Heard F) := do
  let channel := getOr payload "channel_idx" (.int 0)
  let (sender, text) ← channelSender payload
  let pubkey := getOr payload "pubkey_prefix" (.str "")
  let source := if truthy pubkey then pubkey
    else if truthy sender then .str ("mc:" ++ textOf rt.toRuntime sender)
    else .str "mc:channel"
  let hopStart ← hopStartFromPayload payload
  let signal ← rfSignalFromPayload rt payload signal
  let timestamp ← parseTimestamp rt now (getValue payload "timestamp")
  return eventPacket rt packetId source "broadcast" .text
    (withSender [("text", text), ("channel", channel)] sender) channel hopStart true signal
    timestamp

/-- `_build_advertisement` as a builder of the table. -/
def buildAdvertisementEvent (packetId : String) (now : Int) (payload : Entries F)
    (signal : Option (SignalMetrics F)) : Option (Heard F) := do
  let timestamp ← parseTimestamp rt now (getValue payload "timestamp")
  let packet ← buildAdvertisement rt.toRuntime packetId timestamp payload signal
  return Heard.ofPacket packet

/-- `_build_raw_data`. -/
def buildRawData (packetId : String) (now : Int) (payload : Entries F)
    (signal : Option (SignalMetrics F)) : Option (Heard F) := do
  let timestamp ← parseTimestamp rt now (getValue payload "timestamp")
  return eventPacket rt packetId (.str "raw") "unknown" .unknown
    (Entries.ofList [("raw_hex", getOr payload "payload" (.str ""))]) (.int 0) 0 false signal
    timestamp

/-- `_build_rx_log_data`. -/
def buildRxLogData (packetId : String) (now : Int) (payload : Entries F)
    (signal : Option (SignalMetrics F)) : Option (Heard F) := do
  let signal ← rfSignalFromPayload rt payload signal
  let timestamp ← parseTimestamp rt now (getValue payload "timestamp")
  return eventPacket rt packetId (.str "rf_log") "unknown" .unknown
    (Entries.ofList
      [("raw_hex", getOr payload "payload" (getOr payload "raw_hex" (.str ""))),
        ("payload_length", getValue payload "payload_length")]) (.int 0) 0 false signal timestamp

/-- `_BUILDERS`. -/
def BUILDERS : List (String × (String → Int → Entries F → Option (SignalMetrics F) →
    Option (Heard F))) :=
  [("contact_message", buildContactMessage rt), ("channel_message", buildChannelMessage rt),
    ("advertisement", buildAdvertisementEvent rt), ("new_contact", buildAdvertisementEvent rt),
    ("raw_data", buildRawData rt), ("rx_log_data", buildRxLogData rt)]

/-- What the builder of an event makes of its payload; one that is no dictionary makes every
    builder raise. -/
def buildEvent (packetId : String) (now : Int) (eventType : String) (payload : Value F)
    (signal : Option (SignalMetrics F)) : Option (Heard F) :=
  match (BUILDERS rt).find? fun entry => decide (entry.1 = eventType), payload with
  | some entry, .dict payload => entry.2 packetId now payload signal
  | _, _ => none

/-- `adapt_event`, with the packet id it generates and the time it may read. -/
def adaptEvent (packetId : String) (now : Int) (raw : Bytes) (signal : Option (SignalMetrics F)) :
    Except PyException (Option (Heard F)) :=
  match rt.loads raw with
  | .malformed => .ok none
  | .refused e => .error e
  | .value (.dict envelope) =>
    match getOr envelope "event_type" (.str "") with
    | .str eventType =>
      .ok (buildEvent rt packetId now eventType (getOr envelope "payload" (.dict .nil)) signal)
    | eventType => if hashable eventType then .ok none else .error .typeError
  | .value _ => .error .attributeError

/-- The payload of a companion capture is no JSON, or an object whose event type is hashable. -/
def EventLoads (raw : Bytes) : Prop :=
  match rt.loads raw with
  | .malformed => True
  | .refused _ => False
  | .value (.dict envelope) => hashable (getOr envelope "event_type" (.str "")) = true
  | .value _ => False

theorem adaptEvent_returns_iff (packetId : String) (now : Int) (raw : Bytes)
    (signal : Option (SignalMetrics F)) :
    Returns (adaptEvent rt packetId now raw signal) ↔ EventLoads rt raw := by
  unfold adaptEvent EventLoads
  cases rt.loads raw with
  | malformed => exact iff_of_true (returns_ok _) trivial
  | refused e => exact iff_of_false (not_returns_error e) id
  | value v =>
    cases v with
    | dict envelope =>
      dsimp only
      generalize getOr envelope "event_type" (.str "") = eventType
      cases eventType with
      | list items => exact iff_of_false (not_returns_error _) Bool.false_ne_true
      | dict entries => exact iff_of_false (not_returns_error _) Bool.false_ne_true
      | _ => exact iff_of_true (returns_ok _) rfl
    | _ => exact iff_of_false (not_returns_error _) id

end Events

end Meshpoint.MeshcoreEventAdapter
