import Meshpoint.TextSending
import Meshpoint.MessageRepository
import Meshpoint.MqttFormatter

/-!
# Conversations

A message is filed under a conversation id twice: when it is sent, by
`_resolve_node_id` of `src/api/routes/messages.py`, which reads the destination
string of the request; and when it is received, by `on_text_packet` of
`src/api/server.py`, which reads the decoded packet.

`destination_resolution` relates the two to each other and to the address of the
frame: what is filed as a broadcast is sent as one, a node's own id is filed as
that node on both sides, and a destination that is neither a broadcast word nor a
number is sent to everyone.
-/

namespace Meshpoint.MessageFiling

open JsonText ByteCodec PyText MeshtasticHeader TextSending
open MessageRepository (Direction)

variable {F : Type} [PyFloat F]

/-! ### Sent messages -/

/-- The conversation of a channel; a hash to echo has its own. -/
def broadcastConversation (protocol : String) (channel : Int) : Option Int → String
  | some hash =>
    "broadcast:" ++ protocol ++ ":keyed:" ++ toString channel ++ ":0x" ++ formatHex 2 hash
  | none => "broadcast:" ++ protocol ++ ":" ++ toString channel

/-- The words `_resolve_node_id` files under a channel. -/
def FILED_BROADCAST_WORDS : List String := ["broadcast", "all", "0", "ffffffff", "ffff"]

/-- `_resolve_node_id`. -/
def resolveNodeId (py : Casing) (destination protocol : String) (channel : Int)
    (echoHash : Option Int) : String :=
  if FILED_BROADCAST_WORDS.contains (py.lower destination) then
    broadcastConversation protocol channel echoHash
  else destination

/-- The body of `POST /messages/send`. -/
structure SendRequest where
  text : String
  destination : String := "broadcast"
  protocol : String := "meshtastic"
  channel : Int := 0
  wantAck : Bool := false
  echoHash : Option Int := none

def SendRequest.nodeId (py : Casing) (req : SendRequest) : String :=
  resolveNodeId py req.destination req.protocol req.channel req.echoHash

/-- `send_message`: what is handed to the radios and the conversation the message is
    filed under, or the status and text of the error. -/
def sendMessage (py : Casing) (prim : CryptoPrimitives) (tx : TxService) (req : SendRequest)
    (draws : Draws) : Except (Nat × String) (List Outgoing × String) :=
  if strip req.text = "" then .error (400, "Message text cannot be empty")
  else if 228 < req.text.length then .error (400, "Message too long (max 228 bytes)")
  else
    .ok (tx.sendText py prim req.text (.text req.destination) req.protocol req.channel req.wantAck
      req.echoHash draws, req.nodeId py)

/-! ### Received messages -/

/-- What the handler of received texts keeps: this node's id, the channel index of every
    hash and of every name, and the known MeshCore contacts, each under its own id. -/
structure Inbox where
  ourNodeHex : String
  hashToIndex : OrderedDict UInt8 Nat
  nameToChannelIndex : OrderedDict String Nat
  pubkeyCanon : OrderedDict String String
  canon_self : ∀ {key canonical}, pubkeyCanon.get? key = some canonical → canonical = key

/-- `f"{our_node_id:08x}" if our_node_id else ""`. -/
def ourNodeHex : Option Int → String
  | none => ""
  | some id => if id = 0 then "" else formatHex 8 id

/-- The setup of `_setup_message_interception`. -/
def Inbox.setup (config : ChannelConfig) (table : KeyTable) (ourNodeId : Option Int) : Inbox where
  ourNodeHex := MessageFiling.ourNodeHex ourNodeId
  hashToIndex :=
    ChannelHashResolver.rebuild table config.primaryChannelName config.meshtasticKeys.keys
  nameToChannelIndex :=
    (config.meshtasticKeys.keys.zipIdx 1).foldl (fun acc entry => acc.set entry.1 entry.2)
      (if config.primaryChannelName = "" then .empty
        else OrderedDict.empty.set config.primaryChannelName 0)
  pubkeyCanon := .empty
  canon_self := by simp

/-- The id of a contact: the first twelve characters of its public key. -/
def canonicalContact (py : Casing) (publicKey : String) : String :=
  if 12 ≤ publicKey.length then py.lower (clip 12 publicKey) else py.lower publicKey

/-- One contact of `_refresh_mc_contacts`. -/
def Inbox.addContact (py : Casing) (inbox : Inbox) (publicKey : String) : Inbox :=
  if publicKey = "" then inbox
  else
    { inbox with
      pubkeyCanon :=
        inbox.pubkeyCanon.set (canonicalContact py publicKey) (canonicalContact py publicKey)
      canon_self := by
        intro key canonical h
        rw [OrderedDict.get?_set] at h
        split at h
        · rename_i heq
          rw [← Option.some.inj h, heq]
        · exact inbox.canon_self h }

/-- `_refresh_mc_contacts`. -/
def Inbox.refreshContacts (py : Casing) (inbox : Inbox) (publicKeys : List String) : Inbox :=
  publicKeys.foldl (Inbox.addContact py) inbox

/-- `_normalize_mc_node_id`. -/
def Inbox.normalizeMcNodeId (py : Casing) (inbox : Inbox) (source : String) : String :=
  match (inbox.pubkeyCanon.get? (clip 12 (py.lower source))).filter (· ≠ "") with
  | some canonical => canonical
  | none => py.lower source

def Inbox.broadcastNodeId (inbox : Inbox) (packet : Packet F) : String :=
  let base := "broadcast:" ++ packet.protocol.value ++ ":"
  if packet.protocol = .meshcore then base ++ toString packet.channelHash
  else
    match packet.remoteChannelName.filter (· ≠ "") with
    | some name =>
      match inbox.nameToChannelIndex.get? name with
      | some index => base ++ toString index
      | none => base ++ "named:" ++ name
    | none =>
      let known := if packet.channelHash < 256 then
        ChannelHashResolver.lookup inbox.hashToIndex (UInt8.ofNat packet.channelHash) else none
      match known, packet.matchedChannelIndex with
      | some index, _ => base ++ toString index
      | none, some index =>
        base ++ "keyed:" ++ toString index ++ ":0x" ++ formatHex 2 packet.channelHash
      | none, none => base ++ "unmapped:0x" ++ formatHex 2 packet.channelHash

/-- A conversation id and a direction. -/
structure Filing where
  nodeId : String
  direction : Direction
deriving DecidableEq, Repr

/-- `decoded_payload.get("text", "")` is there and not empty. -/
def hasText (packet : Packet F) : Bool :=
  (packet.decodedPayload.bind fun payload => payload.get? "text").any MqttFormatter.truthy

/-- `is_broadcast` of `on_text_packet`, for a lower-case destination. -/
def isBroadcastDest (dest : String) : Bool :=
  dest = "ffffffff" || dest = "ffff" || dest = "broadcast" ||
    "channel:".toList.isPrefixOf dest.toList

/-- `id or "unknown"`. -/
def orUnknown (id : String) : String := if id = "" then "unknown" else id

/-- `on_text_packet`: where a received packet is filed, with the contacts as they are
    after its refresh. -/
def Inbox.onTextPacket (py : Casing) (inbox : Inbox) (packet : Packet F) : Option Filing :=
  if packet.packetType ≠ .text ∨ hasText packet = false then none
  else
    let dest := py.lower packet.destinationId
    let source := py.lower packet.sourceId
    let isOurs (id : String) : Bool := inbox.ourNodeHex ≠ "" && id = inbox.ourNodeHex
    if isBroadcastDest dest then
      if isOurs source then none else some ⟨inbox.broadcastNodeId packet, .received⟩
    else if isOurs dest || dest = "self" then
      if packet.protocol = .meshcore then
        some ⟨inbox.normalizeMcNodeId py (orUnknown packet.sourceId), .received⟩
      else some ⟨orUnknown packet.sourceId, .received⟩
    else if isOurs source then some ⟨orUnknown packet.destinationId, .sent⟩
    else some ⟨orUnknown packet.sourceId, .overheard⟩

/-! ### Node ids -/

section

variable (py : Casing)

theorem lower_hex8 (n : Nat) : py.lower (hex8 n) = hex8 n := by
  have hspec : ∀ c ∈ hexFixed 8 n, c.toNat < 128 ∧ c.toLower = c := by
    intro c hc
    obtain ⟨d, hd, rfl⟩ := mem_hexFixed hc
    exact (digitChar_spec d hd).2.2.2
  unfold hex8
  rw [py.lower_ascii _ (by simpa using fun c hc => (hspec c hc).1), asciiLower,
    String.toList_ofList, List.map_congr_left (fun c hc => (hspec c hc).2), List.map_id']

theorem nodeNumber_hex8 {n : Nat} (hn : n < 2 ^ 32) : nodeNumber (hex8 n) = some (n : Int) := by
  obtain ⟨d, rest, hd, hcons⟩ := hexFixed_eq_cons (show 0 < 8 by decide) n
  have hbang : Nat.digitChar d ≠ '!' := by
    intro h
    exact (digitChar_spec d hd).2.2.1 (by simp [h])
  have hstrip : lstripWhere (· = '!') (hex8 n) = hex8 n := by
    unfold lstripWhere hex8
    rw [String.toList_ofList, hcons, List.dropWhile_cons_of_neg (by simp [hbang])]
  rw [nodeNumber, hstrip, hex8, intOfText_hexFixed (by decide) (by simpa using hn)]

theorem hex8_injective {n m : Nat} (hn : n < 2 ^ 32) (hm : m < 2 ^ 32) (h : hex8 n = hex8 m) :
    n = m := by
  have hvalue := nodeNumber_hex8 hn
  rw [h, nodeNumber_hex8 hm] at hvalue
  exact (Int.ofNat.inj (Option.some.inj hvalue)).symm

theorem ourNodeHex_eq {n : Nat} (hpos : n ≠ 0) (hn : n < 2 ^ 32) :
    ourNodeHex (some (n : Int)) = hex8 n := by
  simp only [ourNodeHex]
  rw [if_neg (by omega), formatHex_eq_hexFixed (by decide) (by simpa using hn), hex8]

theorem hex8_length (n : Nat) : (hex8 n).length = 8 := by
  simp [hex8, ← String.length_toList, hexFixed_length]

theorem hex8_not_mem_words {n : Nat} (hn : n < 2 ^ 32) (hne : n ≠ BROADCAST_ADDR) :
    hex8 n ≠ "broadcast" ∧ hex8 n ≠ "all" ∧ hex8 n ≠ "ffff" ∧ hex8 n ≠ "ffffffff" ∧
      hex8 n ≠ "0" := by
  have hlen := hex8_length n
  have hff : hex8 n ≠ "ffffffff" := by
    intro h
    exact hne (hex8_injective hn (by decide) (h.trans (by decide)))
  refine ⟨?_, ?_, ?_, hff, ?_⟩ <;>
  · intro h
    rw [h] at hlen
    revert hlen
    decide

theorem isBroadcastWord_hex8 {n : Nat} (hn : n < 2 ^ 32) (hne : n ≠ BROADCAST_ADDR) :
    isBroadcastWord py (hex8 n) = false := by
  obtain ⟨h1, h2, h3, h4, h5⟩ := hex8_not_mem_words hn hne
  simp [isBroadcastWord, BROADCAST_WORDS, lower_hex8, h1, h2, h3, h4, h5]

theorem isBroadcastDest_hex8 {n : Nat} (hn : n < 2 ^ 32) (hne : n ≠ BROADCAST_ADDR) :
    isBroadcastDest (hex8 n) = false := by
  obtain ⟨h1, -, h3, h4, -⟩ := hex8_not_mem_words hn hne
  have hstart : "channel:".toList.isPrefixOf (hex8 n).toList = false := by
    rw [Bool.eq_false_iff]
    intro h
    obtain ⟨rest, hrest⟩ := List.isPrefixOf_iff_prefix.mp h
    have hmem : 'h' ∈ hexFixed 8 n := by
      have : 'h' ∈ (hex8 n).toList := by
        rw [← hrest]
        exact List.mem_append_left _ (by decide)
      simpa [hex8] using this
    obtain ⟨d, hd, hc⟩ := mem_hexFixed hmem
    have : ∀ d < 16, 'h' ≠ Nat.digitChar d := by decide
    exact this d hd hc
  simpa [isBroadcastDest, h1, h3, h4] using hstart

end

/-! ### Direct messages -/

section

variable {py : Casing} {inbox : Inbox}

theorem onTextPacket_received {packet : Packet F} (htype : packet.packetType = .text)
    (htext : hasText packet = true) (hdm : isBroadcastDest (py.lower packet.destinationId) = false)
    (hours : py.lower packet.destinationId = "self" ∨
      inbox.ourNodeHex ≠ "" ∧ py.lower packet.destinationId = inbox.ourNodeHex) :
    inbox.onTextPacket py packet =
      some ⟨if packet.protocol = .meshcore then inbox.normalizeMcNodeId py (orUnknown packet.sourceId)
        else orUnknown packet.sourceId, .received⟩ := by
  unfold Inbox.onTextPacket
  rw [if_neg (by simp [htype, htext])]
  have hmine : (decide (inbox.ourNodeHex ≠ "") &&
      decide (py.lower packet.destinationId = inbox.ourNodeHex) ||
      decide (py.lower packet.destinationId = "self")) = true := by
    rcases hours with h | ⟨h, h'⟩
    · simp [h]
    · simp [h, h']
  simp only [hdm, hmine, Bool.false_eq_true, if_false, if_true]
  split <;> rfl

theorem normalizeMcNodeId_of_length_le {source : String} (h : (py.lower source).length ≤ 12) :
    inbox.normalizeMcNodeId py source = py.lower source := by
  have hclip : clip 12 (py.lower source) = py.lower source := by
    unfold clip
    rw [List.take_of_length_le (by rwa [String.length_toList]), String.ofList_toList]
  unfold Inbox.normalizeMcNodeId
  rw [hclip]
  cases hget : (inbox.pubkeyCanon.get? (py.lower source)).filter (· ≠ "") with
  | none => rfl
  | some canonical =>
    obtain ⟨hcanon, -⟩ := Option.filter_eq_some_iff.mp hget
    exact inbox.canon_self hcanon

variable (prim : CryptoPrimitives) (pb : PortnumHandlers.AppProtobuf F)

theorem decode_ids {crypto : CryptoService} {ourNodeId : Option Nat} {raw : Bytes}
    {signal : Option (SignalMetrics F)} {preDecoded : Option PreDecoded} {now : Int}
    {packet : Packet F} {header : Header}
    (h : (MeshtasticDecoder.decode prim pb crypto ourNodeId raw signal preDecoded now).1 =
      some packet) (hheader : parseHeader (raw.take MESHTASTIC_HEADER_SIZE) = some header) :
    packet.protocol = .meshtastic ∧ packet.sourceId = hex8 header.sourceId ∧
      packet.destinationId = hex8 header.destId := by
  obtain ⟨header', attempt, decrypted, matched, name, hheader', rfl⟩ :=
    MeshtasticDecoder.decode_eq_assemble prim pb h
  obtain rfl : header' = header := Option.some.inj (hheader'.symm.trans hheader)
  exact ⟨rfl, rfl, rfl⟩

theorem onTextPacket_decode {crypto : CryptoService} {ourNodeId : Option Nat} {raw : Bytes}
    {signal : Option (SignalMetrics F)} {preDecoded : Option PreDecoded} {now : Int}
    {packet : Packet F} {header : Header}
    (h : (MeshtasticDecoder.decode prim pb crypto ourNodeId raw signal preDecoded now).1 =
      some packet) (hheader : parseHeader (raw.take MESHTASTIC_HEADER_SIZE) = some header)
    (htype : packet.packetType = .text) (htext : hasText packet = true)
    (hnode : header.destId ≠ 0) (hdm : header.destId ≠ BROADCAST_ADDR)
    (hours : inbox.ourNodeHex = ourNodeHex (some (header.destId : Int))) :
    inbox.onTextPacket py packet = some ⟨hex8 header.sourceId, .received⟩ := by
  obtain ⟨hprotocol, hsource, hdestination⟩ := decode_ids prim pb h hheader
  have hdest := (parseHeader_ids_lt hheader).1
  have hnonempty : ∀ n, hex8 n ≠ "" := by
    intro n hempty
    have hlen := hex8_length n
    rw [hempty] at hlen
    cases hlen
  rw [ourNodeHex_eq hnode hdest] at hours
  have hlower : py.lower packet.destinationId = hex8 header.destId := by
    rw [hdestination, lower_hex8]
  rw [onTextPacket_received htype htext (by rw [hlower, isBroadcastDest_hex8 hdest hdm])
    (.inr ⟨hours ▸ hnonempty _, hlower.trans hours.symm⟩), hprotocol, hsource]
  simp [orUnknown, hnonempty]

end

/-! ### Routing and filing -/

/-- How one request is addressed and filed, and how that relates to the filing of
    received messages. -/
structure ResolvesDestination (py : Casing) (prim : CryptoPrimitives)
    (pb : PortnumHandlers.AppProtobuf F) (tx : TxService) (inbox : Inbox) (req : SendRequest)
    (draws : Draws) : Prop where
  /-- A frame goes to everyone for a broadcast word, for a text that is no number and
      for the broadcast address itself, and to the number otherwise. -/
  address : ∀ outs nodeId, sendMessage py prim tx req draws = .ok (outs, nodeId) →
    ∀ out ∈ outs, ∀ address, out.address = some address →
      (address = BROADCAST_ADDR_MT ↔ isBroadcastWord py req.destination = true ∨
        nodeNumber req.destination = none ∨
        nodeNumber req.destination = some BROADCAST_ADDR_MT) ∧
      (address ≠ BROADCAST_ADDR_MT → nodeNumber req.destination = some address)
  /-- A broadcast word is sent to the broadcast address and filed under a channel. -/
  word : isBroadcastWord py req.destination = true →
    resolveDestination py (.text req.destination) = BROADCAST_ADDR_MT ∧
      req.nodeId py = broadcastConversation req.protocol req.channel req.echoHash
  /-- Any other text is filed under itself; a number is sent to that node, and MeshCore
      sends a direct message. -/
  other : isBroadcastWord py req.destination = false →
    req.nodeId py = req.destination ∧
      isMeshcoreBroadcast py (.text req.destination) = false ∧
      ∀ n, nodeNumber req.destination = some n →
        resolveDestination py (.text req.destination) = n
  /-- The words MeshCore knows are sent as broadcasts too. -/
  meshcore : py.lower req.destination ≠ "all" → py.lower req.destination ≠ "ffffffff" →
    isMeshcoreBroadcast py (.text req.destination) = isBroadcastWord py req.destination
  /-- A message to a Meshtastic node's id is filed with the messages from that node. -/
  meshtasticDm : ∀ n < 2 ^ 32, n ≠ BROADCAST_ADDR → req.destination = hex8 n →
    resolveDestination py (.text req.destination) = n ∧
    ∀ (crypto : CryptoService) (ourNodeId : Option Nat) (raw : Bytes)
      (signal : Option (SignalMetrics F)) (preDecoded : Option PreDecoded) (now : Int)
      (packet : Packet F) (header : Header),
      (MeshtasticDecoder.decode prim pb crypto ourNodeId raw signal preDecoded now).1 =
        some packet →
      parseHeader (raw.take MESHTASTIC_HEADER_SIZE) = some header → header.sourceId = n →
      header.destId ≠ 0 → header.destId ≠ BROADCAST_ADDR →
      inbox.ourNodeHex = ourNodeHex (some (header.destId : Int)) →
      packet.packetType = .text → hasText packet = true →
      inbox.onTextPacket py packet = some ⟨req.nodeId py, .received⟩
  /-- A message to a MeshCore contact's id is filed with the messages from that contact. -/
  meshcoreDm : ∀ packet : Packet F, packet.protocol = .meshcore → packet.packetType = .text →
    hasText packet = true → packet.destinationId = "self" → packet.sourceId ≠ "" →
    (py.lower packet.sourceId).length ≤ 12 → req.destination = py.lower packet.sourceId →
    isBroadcastWord py req.destination = false →
    inbox.onTextPacket py packet = some ⟨req.nodeId py, .received⟩

section

variable (py : Casing)

theorem filed_iff_isBroadcastWord (s : String) :
    FILED_BROADCAST_WORDS.contains (py.lower s) = isBroadcastWord py s := by
  simp only [FILED_BROADCAST_WORDS, isBroadcastWord, BROADCAST_WORDS, List.contains_eq_mem,
    List.mem_cons, List.not_mem_nil, or_false, decide_eq_decide]
  tauto

theorem nodeId_of_isBroadcastWord {req : SendRequest}
    (h : isBroadcastWord py req.destination = true) :
    req.nodeId py = broadcastConversation req.protocol req.channel req.echoHash := by
  rw [SendRequest.nodeId, resolveNodeId, filed_iff_isBroadcastWord, if_pos h]

theorem nodeId_of_not_isBroadcastWord {req : SendRequest}
    (h : isBroadcastWord py req.destination = false) : req.nodeId py = req.destination := by
  rw [SendRequest.nodeId, resolveNodeId, filed_iff_isBroadcastWord, if_neg (by simp [h])]

theorem isBroadcastWord_of_isMeshcoreBroadcast {s : String}
    (h : isMeshcoreBroadcast py (.text s) = true) : isBroadcastWord py s = true := by
  simp only [isMeshcoreBroadcast, MESHCORE_BROADCAST_WORDS, Destination.str, isBroadcastWord,
    BROADCAST_WORDS, List.contains_eq_mem, List.mem_cons, List.not_mem_nil, or_false,
    Bool.or_eq_true, decide_eq_true_eq, reduceCtorEq, false_or] at h ⊢
  tauto

/-- **Destination resolution.**  Every request is addressed, routed and filed as
    described, whatever the service, the contacts and the cipher are. -/
theorem destination_resolution (prim : CryptoPrimitives) (pb : PortnumHandlers.AppProtobuf F)
    (tx : TxService) (inbox : Inbox) (req : SendRequest) (draws : Draws) :
    ResolvesDestination py prim pb tx inbox req draws where
  address := by
    intro outs nodeId hsend out hout address haddress
    have hmem : out ∈ tx.sendText py prim req.text (.text req.destination) req.protocol req.channel
        req.wantAck req.echoHash draws := by
      unfold sendMessage at hsend
      split at hsend
      · cases hsend
      · split at hsend
        · cases hsend
        · obtain ⟨rfl, -⟩ := Prod.mk.inj (Except.ok.inj hsend)
          exact hout
    obtain rfl := sendText_address hmem haddress
    refine ⟨resolveDestination_text_eq_broadcast_iff _, ?_⟩
    intro hne
    have hparts := mt (resolveDestination_text_eq_broadcast_iff req.destination).mpr hne
    rw [not_or, not_or, Bool.not_eq_true] at hparts
    obtain ⟨n, hn⟩ := Option.ne_none_iff_exists'.mp hparts.2.1
    rw [hn, resolveDestination_of_number hparts.1 hn]
  word h :=
    ⟨(resolveDestination_text_eq_broadcast_iff _).mpr (.inl h), nodeId_of_isBroadcastWord py h⟩
  other h := by
    refine ⟨nodeId_of_not_isBroadcastWord py h, ?_, ?_⟩
    · by_contra hmc
      rw [Bool.not_eq_false] at hmc
      rw [isBroadcastWord_of_isMeshcoreBroadcast py hmc] at h
      cases h
    · intro n hn
      exact resolveDestination_of_number h hn
  meshcore hall hff := by
    simp only [isMeshcoreBroadcast, MESHCORE_BROADCAST_WORDS, Destination.str, isBroadcastWord,
      BROADCAST_WORDS, List.contains_eq_mem, List.mem_cons, List.not_mem_nil, or_false,
      reduceCtorEq, decide_false, Bool.false_or, hall, hff, false_or]
  meshtasticDm := by
    intro n hn hne hdest
    have hword : isBroadcastWord py req.destination = false := by
      rw [hdest, isBroadcastWord_hex8 py hn hne]
    refine ⟨?_, ?_⟩
    · exact resolveDestination_of_number hword (hdest ▸ nodeNumber_hex8 hn)
    · intro crypto ourNodeId raw signal preDecoded now packet header hdecode hheader hsource hnode
        hdm hours htype htext
      rw [onTextPacket_decode prim pb hdecode hheader htype htext hnode hdm hours, hsource,
        nodeId_of_not_isBroadcastWord py hword, hdest]
  meshcoreDm := by
    intro packet hprotocol htype htext hself hsource hlength hdest hword
    have hlower : py.lower packet.destinationId = "self" := by
      rw [hself, py.lower_ascii _ (by simp)]
      decide
    rw [onTextPacket_received htype htext (by rw [hlower]; decide) (.inl hlower), if_pos hprotocol,
      nodeId_of_not_isBroadcastWord py hword, hdest, orUnknown, if_neg hsource,
      normalizeMcNodeId_of_length_le hlength]

end

/-! ### One station -/

/-- AES with the default channel key, at the counter blocks of message 42 of node
    aaaa0001 and of node bbbb0002. -/
def deskPrimitives : CryptoPrimitives :=
  .ofTable
    [(MESHTASTIC_DEFAULT_PSK, ofHex "2a000000000000000100aaaa00000000",
      ofHex "40b14f2262c2aa64cfb13408cfa9d7e5"),
      (MESHTASTIC_DEFAULT_PSK, ofHex "2a000000000000000200bbbb00000000",
      ofHex "7293609252e978e721fe64d02d79bb42")] [] []

/-- Node bbbb0002 with the default channel and a concentrator. -/
def desk : TxService where
  crypto := { defaultKey := some (ChannelKeys.expandKey [1]), keys := .empty }
  primaryChannelName := "LongFast"
  presetName := "LongFast"
  sourceNodeId := 0xbbbb0002
  hopLimit := 3
  enabled := true
  hasWrapper := true
  meshcoreEnabled := false
  companions := []
  sticks := []
  latestCaptureSource := fun _ => none

def deskInbox : Inbox :=
  .setup ⟨"AQ==", "LongFast", .empty, .empty⟩ desk.crypto.toKeyTable (some 0xbbbb0002)

def deskFrame : Bytes :=
  (MeshtasticBuilder.buildTextMessage deskPrimitives desk.crypto "meet at nine" 0xbbbb0002
    0xaaaa0001 42 none 0x08 3 3 false none 0).get (by decide +kernel)

def deskPacket : Packet WholeFloat :=
  (MeshtasticDecoder.decode deskPrimitives default desk.crypto (some 0xbbbb0002) deskFrame none none
    0).1.get (by decide +kernel)

def deskAnswer : SendRequest := { text := "meet at nine", destination := "aaaa0001" }

/-- The answer is sent to that node and filed with its message. -/
theorem destination_resolution_desk :
    resolveDestination .ascii (.text deskAnswer.destination) = 0xaaaa0001 ∧
      deskInbox.onTextPacket .ascii deskPacket = some ⟨deskAnswer.nodeId .ascii, .received⟩ := by
  have hresolves := (destination_resolution Casing.ascii deskPrimitives
    (default : PortnumHandlers.AppProtobuf WholeFloat) desk deskInbox deskAnswer
    ⟨42, 0, true⟩).meshtasticDm 0xaaaa0001 (by decide) (by decide) (by decide +kernel)
  have hheader : (parseHeader (deskFrame.take MESHTASTIC_HEADER_SIZE)).map
      (fun header => (header.sourceId, header.destId)) = some (0xaaaa0001, 0xbbbb0002) := by
    decide +kernel
  obtain ⟨header, hparse, hids⟩ := Option.map_eq_some_iff.mp hheader
  obtain ⟨hsource, hdest⟩ := Prod.mk.inj hids
  refine ⟨hresolves.1, hresolves.2 desk.crypto (some 0xbbbb0002) deskFrame none none 0 deskPacket
    header (Option.some_get _).symm hparse hsource ?_ ?_ ?_ ?_ ?_⟩
  · rw [hdest]
    decide
  · rw [hdest]
    decide
  · rw [hdest]
    rfl
  · decide +kernel
  · decide +kernel

def deskBroadcast : Bytes :=
  (desk.buildFrame deskPrimitives "meet at nine" BROADCAST_ADDR_MT 0 false none ⟨42, 0, true⟩).get
    (by decide +kernel)

/-- A text to a destination that is no number goes to everyone, and is filed as if it
    were private. -/
theorem private_text_sent_to_everyone :
    sendMessage .ascii deskPrimitives desk
        { text := "meet at nine", destination := "not-a-node" } ⟨42, 0, true⟩ =
          .ok ([.frame deskBroadcast], "not-a-node") ∧
      (Outgoing.frame deskBroadcast).address = some BROADCAST_ADDR_MT ∧
      isBroadcastWord .ascii "not-a-node" = false := by
  exact ⟨by decide +kernel, buildFrame_address (Option.some_get _).symm, by decide +kernel⟩

end Meshpoint.MessageFiling
