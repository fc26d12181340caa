import Meshpoint.TextSending

/-!
# Automatic replies

Model of `src/transmit/meshtastic_inbound_handler.py`, of `send_routing_ack`,
`send_traceroute_reply` and `send_telemetry_reply` of `src/transmit/tx_service.py` with
the builders they call, and of `src/transmit/reply_hop_policy.py`.

The three replies resolve key, recipient key and hops in the same way (`replyArgs`) and
differ in the message they carry.  The Meshtastic protobuf package serialises two of the
messages; it is the parameter `ReplyProtobuf`.
-/

namespace Meshpoint.InboundReplies

open JsonText ByteCodec PyText MeshtasticBuilder ChannelAgreement TextSending PortnumHandlers

def PORTNUM_ROUTING : Nat := 5
def PORTNUM_TELEMETRY : Nat := 67
def PORTNUM_TRACEROUTE : Nat := 70

/-! ### Frames -/

/-- What every builder of the packet builder is told. -/
structure FrameArgs where
  dest : Nat
  sourceId : Nat
  packetId : Nat
  channelKey : Option AesKey
  channelHash : Nat
  hopLimit : Nat
  hopStart : Nat
  wantAck : Bool := false
  recipientPublicKey : Option Bytes := none
deriving DecidableEq

/-- The common end of the builders: encryption and header. -/
def buildFrame (prim : CryptoPrimitives) (crypto : CryptoService) (args : FrameArgs)
    (inner : Bytes) (extraNonce : Nat) : Option Bytes := do
  let ciphertext ← encryptPayload prim crypto inner args.packetId args.sourceId args.dest
    args.channelKey args.recipientPublicKey extraNonce
  let onAirHash := if args.recipientPublicKey.any fun key => key ≠ [] then 0 else args.channelHash
  let header ← buildHeader args.dest args.sourceId args.packetId args.hopLimit args.hopStart
    args.wantAck false onAirHash
  return header ++ ciphertext

/-- The key a frame is encrypted with. -/
inductive Encryption where
  | channel (key : AesKey)
  | pki (recipientKey : Bytes)
deriving DecidableEq

/-- The branch `_encrypt_payload` takes; `none` without any key. -/
def FrameArgs.encryption (crypto : CryptoService) (args : FrameArgs) : Option Encryption :=
  match args.recipientPublicKey with
  | some key =>
    if key ≠ [] ∧ args.dest ≠ MeshtasticHeader.BROADCAST_ADDR ∧ crypto.hasPki then some (.pki key)
    else (args.channelKey.or crypto.defaultKey).map .channel
  | none => (args.channelKey.or crypto.defaultKey).map .channel

def Encryption.encrypt (prim : CryptoPrimitives) (crypto : CryptoService) (args : FrameArgs)
    (inner : Bytes) (extraNonce : Nat) : Encryption → Option Bytes
  | .channel key => crypto.encryptMeshtastic prim inner args.packetId args.sourceId (some key)
  | .pki key =>
    crypto.encryptMeshtasticPki prim inner args.packetId args.sourceId key extraNonce

theorem encryptPayload_eq (prim : CryptoPrimitives) (crypto : CryptoService) (args : FrameArgs)
    (inner : Bytes) (extraNonce : Nat) :
    encryptPayload prim crypto inner args.packetId args.sourceId args.dest args.channelKey
        args.recipientPublicKey extraNonce =
      (args.encryption crypto).bind (Encryption.encrypt prim crypto args inner extraNonce) := by
  have hchannel : crypto.encryptMeshtastic prim inner args.packetId args.sourceId args.channelKey =
      ((args.channelKey.or crypto.defaultKey).map Encryption.channel).bind
        (Encryption.encrypt prim crypto args inner extraNonce) := by
    unfold CryptoService.encryptMeshtastic
    cases hkey : args.channelKey.or crypto.defaultKey with
    | none => rfl
    | some key => rfl
  unfold encryptPayload FrameArgs.encryption
  cases args.recipientPublicKey with
  | none => exact hchannel
  | some key =>
    simp only
    split
    · rfl
    · exact hchannel

/-- What a send hands the builder once it has drawn a packet id; `failed` when it gives up
    after that, `unavailable` when it does before. -/
inductive Prepared where
  | unavailable
  | failed
  | ready (args : FrameArgs) (inner : Bytes)
deriving DecidableEq

/-! ### Messages -/

/-- The fields of a `Telemetry` message that a reply sets. -/
inductive TelemetryMessage (F : Type) where
  | deviceMetrics (time : Nat) (metrics : DeviceMetrics F)
  | localStats (time : Nat) (stats : LocalStats F)
      (numPacketsRxBad numOnlineNodes numTotalNodes numTxRelay : Int) (noiseFloor : Option Int)

/-- The fields of a `RouteDiscovery` message that a reply sets. -/
structure RouteMessage where
  route : List Int
  snrTowards : List Int
  routeBack : List Int
  snrBack : List Int

/-- `SerializeToString` of the two messages; `none` when building them raises. -/
structure ReplyProtobuf (F : Type) where
  telemetry : TelemetryMessage F → Option Bytes
  routeDiscovery : RouteMessage → Option Bytes

/-- The snapshot of `local_stats`. -/
structure LocalStatsSnapshot (F : Type) where
  stats : LocalStats F
  numPacketsRxBad : Int := 0
  numOnlineNodes : Int := 0
  numTotalNodes : Int := 0
  numTxRelay : Int := 0
  noiseFloor : Option Int := none

/-- What a reply draws from its surroundings: the packet id and the nonce, the clock, the
    snapshots of the telemetry providers where they are set, `int(round(x * 4))` of the
    received signal, which may raise, the duty-cycle budget and the answer of the radio. -/
structure ReplyDraws (F : Type) where
  packetId : Nat
  extraNonce : Nat := 0
  time : Nat := 0
  deviceMetrics : Option (DeviceMetrics F) := none
  localStats : Option (LocalStatsSnapshot F) := none
  encodedSnr : F → Option Int
  withinBudget : Bool := true
  sent : Bool := true

section

variable {F : Type} [PyFloat F]

/-- `build_routing_ack`: the message is empty but for the request id. -/
def routingAckMessage (requestId : Nat) : Option Bytes :=
  some (serializeData PORTNUM_ROUTING [] requestId)

/-- `build_telemetry_reply`. -/
def telemetryReplyMessage (proto : ReplyProtobuf F) (message : TelemetryMessage F)
    (requestId : Nat) : Option Bytes :=
  (proto.telemetry message).map fun payload => serializeData PORTNUM_TELEMETRY payload requestId

/-- `build_traceroute_reply`. -/
def tracerouteReplyMessage (proto : ReplyProtobuf F) (message : RouteMessage) (requestId : Nat) :
    Option Bytes :=
  (proto.routeDiscovery message).map fun payload =>
    serializeData PORTNUM_TRACEROUTE payload requestId

/-- The metrics of a telemetry reply, with the defaults of a provider that is not set. -/
def telemetryMessage (draws : ReplyDraws F) (variant : Option (Value F)) : TelemetryMessage F :=
  match variant with
  | some (.str "local_stats") =>
    let snapshot := draws.localStats.getD
      { stats := ⟨0, PyFloat.ofInt 0, PyFloat.ofInt 0, 0, 0⟩ }
    .localStats draws.time snapshot.stats snapshot.numPacketsRxBad snapshot.numOnlineNodes
      snapshot.numTotalNodes snapshot.numTxRelay snapshot.noiseFloor
  | _ =>
    .deviceMetrics draws.time (draws.deviceMetrics.getD
      ⟨101, PyFloat.ofInt 5, PyFloat.ofInt 0, PyFloat.ofInt 0, 0⟩)

/-- The items of a list in the payload that convert; the decoder writes only texts into
    `route` and only numbers into `snr_towards`. -/
def convertedItems (convert : Value F → Option Int) : Values F → List Int
  | .nil => []
  | .cons item rest =>
    match convert item with
    | some n => n :: convertedItems convert rest
    | none => convertedItems convert rest

def listAt (convert : Value F → Option Int) (payload : Entries F) (key : String) : List Int :=
  match payload.get? key with
  | some (.list items) => convertedItems convert items
  | _ => []

def hexItem : Value F → Option Int
  | .str s => intOfText 16 s
  | _ => none

def intItem : Value F → Option Int
  | .int n => some n
  | _ => none

/-- `_build_traceroute_reply_data`; `none` when the signal does not convert. -/
def buildTracerouteReplyData (draws : ReplyDraws F) (original : Packet F) (requester : Nat) :
    Option RouteMessage :=
  let payload := original.decodedPayload.getD .nil
  let snr : Option (List Int) :=
    match original.signal with
    | some signal => (draws.encodedSnr signal.snr).map fun n => [n]
    | none => some []
  snr.map fun snr =>
    { route := listAt hexItem payload "route"
      snrTowards := listAt intItem payload "snr_towards" ++ snr
      routeBack := [(requester : Int)]
      snrBack := snr }

/-! ### Hops -/

/-- `hops_away`; `none` when the header is not consistent. -/
def hopsAway (hopLimit hopStart : Nat) : Option Nat :=
  if hopStart < hopLimit then none else some (hopStart - hopLimit)

/-- `hop_limit_for_response`. -/
def hopLimitForResponse (hopLimit hopStart configuredHopLimit : Nat) : Nat :=
  match hopsAway hopLimit hopStart with
  | some hopsUsed =>
    if configuredHopLimit < hopsUsed then hopsUsed
    else if hopStart = 0 then 0
    else if hopsUsed + 2 < configuredHopLimit then hopsUsed + 2
    else configuredHopLimit
  | none => configuredHopLimit

/-! ### Sending -/

/-- `int(s, 16)` of an id, which the decoder has written with eight digits. -/
def idNumber (s : String) : Option Nat := (intOfText 16 s).map Int.toNat

/-- `_recipient_pubkey_for_reply`. -/
def recipientPubkeyForReply (original : Packet F) (requester : Nat) (crypto : CryptoService) :
    Option Bytes × CryptoService :=
  if original.channelHash ≠ 0 then (none, crypto)
  else
    match crypto.lookupPublicKey requester with
    | (some key, crypto) => (some key, crypto)
    | (none, crypto) => crypto.refreshPublicKeyFromDb requester

/-- What the replies tell the builder; `none` when a reply to hash 0 has no recipient key. -/
def replyArgs (tx : TxService) (original : Packet F) (dest packetId : Nat) :
    Option FrameArgs × CryptoService :=
  let (recipient, crypto) := recipientPubkeyForReply original dest tx.crypto
  let hops := hopLimitForResponse original.hopLimit original.hopStart tx.hopLimit
  (if original.channelHash = 0 ∧ recipient = none then none
    else some
      { dest := dest
        sourceId := tx.sourceNodeId
        packetId := packetId
        channelKey := (resolveChannelByHash tx.crypto.toKeyTable tx.primaryChannelName
          (UInt8.ofNat original.channelHash)).2
        channelHash := original.channelHash
        hopLimit := hops
        hopStart := hops
        recipientPublicKey := recipient }, crypto)

/-- The common part of the replies: `message` is told requester and request id. -/
def sendReply (tx : TxService) (original : Packet F) (packetId : Nat)
    (message : (requester requestId : Nat) → Option Bytes) : Prepared × CryptoService :=
  if tx.enabled && tx.hasWrapper then
    match idNumber original.sourceId, idNumber original.packetId with
    | some requester, some requestId =>
      match replyArgs tx original requester packetId with
      | (none, crypto) => (.failed, crypto)
      | (some args, crypto) =>
        match message requester requestId with
        | some inner => (.ready args inner, crypto)
        | none => (.failed, crypto)
    | _, _ => (.unavailable, tx.crypto)
  else (.unavailable, tx.crypto)

/-- `send_routing_ack`. -/
def sendRoutingAck (tx : TxService) (original : Packet F) (draws : ReplyDraws F) :
    Prepared × CryptoService :=
  sendReply tx original draws.packetId fun _ requestId => routingAckMessage requestId

/-- `send_traceroute_reply`; a signal that does not convert raises before the id is drawn. -/
def sendTracerouteReply (proto : ReplyProtobuf F) (tx : TxService) (original : Packet F)
    (draws : ReplyDraws F) : Prepared × CryptoService :=
  if (buildTracerouteReplyData draws original 0).isNone then (.unavailable, tx.crypto)
  else sendReply tx original draws.packetId fun requester requestId =>
    (buildTracerouteReplyData draws original requester).bind fun message =>
      tracerouteReplyMessage proto message requestId

/-- `send_telemetry_reply`. -/
def sendTelemetryReply (proto : ReplyProtobuf F) (tx : TxService) (original : Packet F)
    (draws : ReplyDraws F) : Prepared × CryptoService :=
  sendReply tx original draws.packetId fun _ requestId =>
    telemetryReplyMessage proto (telemetryMessage draws
      ((original.decodedPayload.getD .nil).get? "telemetry_variant")) requestId

/-! ### The handler -/

inductive Reply where
  | routingAck
  | traceroute
  | telemetry
deriving DecidableEq, Repr

/-- `should_handle_inbound`: a decrypted Meshtastic packet of another node to this one. -/
def shouldHandleInbound (py : Casing) (ourNodeHex : String) (packet : Packet F) : Bool :=
  decide (packet.protocol = .meshtastic) && packet.decrypted &&
    decide (py.lower packet.sourceId ≠ ourNodeHex) &&
    decide (py.lower packet.destinationId = ourNodeHex)

/-- The reply `handle` sends for a packet. -/
def handle (py : Casing) (ourNodeId : Nat) (packet : Packet F) : Option Reply :=
  if shouldHandleInbound py (hex8 ourNodeId) packet then
    if packet.packetType = .traceroute then some .traceroute
    else if packet.packetType = .telemetry then some .telemetry
    else if packet.packetType = .text ∧ packet.wantAck then some .routingAck
    else none
  else none

def send (proto : ReplyProtobuf F) (tx : TxService) (original : Packet F) (draws : ReplyDraws F) :
    Reply → Prepared × CryptoService
  | .routingAck => sendRoutingAck tx original draws
  | .traceroute => sendTracerouteReply proto tx original draws
  | .telemetry => sendTelemetryReply proto tx original draws

/-- `_send_built_packet` of a frame: what goes on the air. -/
def transmit (prim : CryptoPrimitives) (crypto : CryptoService) (draws : ReplyDraws F) :
    Prepared → Option Bytes
  | .ready args inner =>
    (buildFrame prim crypto args inner draws.extraNonce).filter fun _ =>
      draws.withinBudget && draws.sent
  | _ => none

/-! ### What a reply is sent with -/

omit [PyFloat F] in
theorem sendReply_ready {tx : TxService} {original : Packet F} {packetId : Nat}
    {message : Nat → Nat → Option Bytes} {args : FrameArgs} {inner : Bytes} {crypto : CryptoService}
    (h : sendReply tx original packetId message = (.ready args inner, crypto)) :
    ∃ requester, idNumber original.sourceId = some requester ∧
      replyArgs tx original requester packetId = (some args, crypto) := by
  unfold sendReply at h
  split at h
  · split at h
    · rename_i requester requestId hrequester hrequestId
      split at h
      · cases h
      · rename_i args' crypto' hargs
        split at h
        · cases h
          exact ⟨requester, hrequester, hargs⟩
        · cases h
    · cases h
  · cases h

theorem send_ready {proto : ReplyProtobuf F} {tx : TxService} {original : Packet F}
    {draws : ReplyDraws F} {reply : Reply} {args : FrameArgs} {inner : Bytes}
    {crypto : CryptoService}
    (h : send proto tx original draws reply = (.ready args inner, crypto)) :
    ∃ requester, idNumber original.sourceId = some requester ∧
      replyArgs tx original requester draws.packetId = (some args, crypto) := by
  cases reply with
  | routingAck =>
    change sendRoutingAck tx original draws = _ at h
    unfold sendRoutingAck at h
    exact sendReply_ready h
  | telemetry =>
    change sendTelemetryReply proto tx original draws = _ at h
    unfold sendTelemetryReply at h
    exact sendReply_ready h
  | traceroute =>
    change sendTracerouteReply proto tx original draws = _ at h
    unfold sendTracerouteReply at h
    split at h
    · cases h
    · exact sendReply_ready h

end

end Meshpoint.InboundReplies
