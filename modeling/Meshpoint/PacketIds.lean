import Meshpoint.InboundReplies
import Mathlib.Data.Nat.ModEq

/-!
# Packet ids and nonces

Model of `_next_packet_id` of `src/transmit/tx_service.py` over runs with restarts.  The
counter starts from a random number of 16 bits whenever the service starts, every send of
a frame of its own takes the next number, and the number and the node id are the nonce of
the encryption.  The calls here are the seven that take a number.

`slots` reads from the events which number of which session a send takes, and
`WellSeeded` says about these when nonces do not repeat.
-/

namespace Meshpoint.PacketIds

open JsonText ByteCodec PyText ProtoWire MeshtasticBuilder ChannelAgreement TextSending
  PortnumHandlers InboundReplies

def PORTNUM_POSITION : Nat := 3
def PORTNUM_NODEINFO : Nat := 4

/-! ### The calls -/

/-- `SerializeToString` of the messages of the broadcasts; `none` when it raises. -/
structure BroadcastProtobuf (F : Type) where
  deviceMetrics : DeviceMetrics F → Option Bytes
  position : (latitudeI longitudeI : Int) → (altitude : Option Int) → Option Bytes

/-- `_serialize_user`. -/
def serializeUser (nodeIdStr longName shortName : String) (hwModel : Nat)
    (publicKey : Option Bytes) : Bytes :=
  let field (tag : UInt8) (value : Bytes) := tag :: (encodeVarint value.length ++ value)
  field 0x0A (utf8 nodeIdStr) ++ field 0x12 (utf8 longName) ++ field 0x1A (utf8 shortName) ++
    0x28 :: encodeVarint hwModel ++
    match publicKey with
    | some key => if key = [] then [] else field 0x42 key
    | none => []

/-- The calls that send a frame of the service. -/
inductive Call (F : Type) where
  | text (message : String) (destination : Destination) (channel : Int) (wantAck : Bool)
      (echoHash : Option Int)
  | nodeinfo (longName shortName : String) (hwModel : Nat)
  | telemetry (metrics : DeviceMetrics F)
  | position (latitude longitude : F) (altitude : Option F)
  | reply (original : Packet F) (answer : Reply)

section

variable {F : Type} [PyFloat F] (py : Casing) (proto : ReplyProtobuf F)
  (broadcasts : BroadcastProtobuf F)

/-- The text part of `_send_meshtastic`. -/
def prepareText (tx : TxService) (packetId : Nat) (text : String) (destination : Destination)
    (channel : Int) (wantAck : Bool) (echoHash : Option Int) : Prepared × CryptoService :=
  let dest := resolveDestination py destination
  match if tx.enabled ∧ dest ≠ BROADCAST_ADDR_MT then tx.resolveSerialSendSource dest else none with
  | some _ => (.unavailable, tx.crypto)
  | none =>
    if tx.enabled && tx.hasWrapper then
      let (channelHash, channelKey) := tx.resolveChannelIndex channel
      let args : FrameArgs :=
        -- a negative address is encrypted for and then does not pack, like one beyond 32 bits
        { dest := match dest with
            | .ofNat node => node
            | .negSucc _ => 2 ^ 32
          sourceId := tx.sourceNodeId
          packetId := packetId
          channelKey := channelKey
          channelHash := TxService.stampedHash channelHash echoHash
          hopLimit := tx.hopLimit
          hopStart := tx.hopLimit
          wantAck := wantAck
          recipientPublicKey := match dest with
            | .ofNat node =>
              if node = MeshtasticHeader.BROADCAST_ADDR then none
              else (tx.crypto.lookupPublicKey node).1
            | .negSucc _ => none }
      (.ready args (serializeData PORTNUM_TEXT_MESSAGE (utf8 text) 0), tx.crypto)
    else (.unavailable, tx.crypto)

/-- The broadcasts on the primary channel: a message that does not build fails the send. -/
def prepareBroadcast (tx : TxService) (packetId : Nat) (inner : Option Bytes) :
    Prepared × CryptoService :=
  if tx.enabled && tx.hasWrapper then
    let (channelHash, channelKey) := tx.resolveChannelIndex 0
    match inner with
    | some inner =>
      (.ready
        { dest := MeshtasticHeader.BROADCAST_ADDR
          sourceId := tx.sourceNodeId
          packetId := packetId
          channelKey := channelKey
          channelHash := channelHash.toNat
          hopLimit := tx.hopLimit
          hopStart := tx.hopLimit } inner, tx.crypto)
    | none => (.failed, tx.crypto)
  else (.unavailable, tx.crypto)

/-- What a call hands the builder with the packet id of `draws`. -/
def Call.prepare (tx : TxService) (draws : ReplyDraws F) : Call F → Prepared × CryptoService
  | .text message destination channel wantAck echoHash =>
    prepareText py tx draws.packetId message destination channel wantAck echoHash
  | .nodeinfo longName shortName hwModel =>
    prepareBroadcast tx draws.packetId <| some <|
      serializeData PORTNUM_NODEINFO
        (serializeUser ("!" ++ hex8 tx.sourceNodeId) longName shortName hwModel
          tx.crypto.publicKey) 0
  | .telemetry metrics =>
    prepareBroadcast tx draws.packetId <|
      (broadcasts.deviceMetrics metrics).map fun payload =>
        serializeData PORTNUM_TELEMETRY payload 0
  | .position latitude longitude altitude =>
    prepareBroadcast tx draws.packetId <| do
      let latitudeI ← PyFloat.degreesInt latitude
      let longitudeI ← PyFloat.degreesInt longitude
      let altitude ← match altitude with
        | some altitude => (PyFloat.toInt altitude).map some
        | none => some none
      let payload ← broadcasts.position latitudeI longitudeI altitude
      return serializeData PORTNUM_POSITION payload 0
  | .reply original answer => send proto tx original draws answer

end

/-! ### Runs -/

/-- What `random.randint(1, 0xFFFF)` returns. -/
structure Seed where
  value : Nat
  pos : 1 ≤ value
  le : value ≤ 0xFFFF

/-- `_next_packet_id`. -/
def nextPacketId (packetCounter : Nat) : Nat := (packetCounter + 1) % 2 ^ 32

/-- One encryption under a channel key. -/
structure Sealed where
  key : AesKey
  nonce : Bytes
  plaintext : Bytes
deriving DecidableEq

/-- The encryption under a channel key that building a frame makes, if it makes one; a node
    id beyond 32 bits has no nonce. -/
def channelSeal (crypto : CryptoService) : Prepared → Option Sealed
  | .ready args inner =>
    match args.encryption crypto with
    | some (.channel key) =>
      if args.sourceId < 2 ^ 32 then
        some ⟨key, CryptoService.buildMeshtasticNonce args.packetId args.sourceId, inner⟩
      else none
    | _ => none
  | _ => none

/-- The two fields of a running service that the ids depend on. -/
structure Session where
  packetCounter : Nat
  sourceNodeId : Nat

/-- The running service, all encryptions under channel keys and the ids of all frames that
    went on the air. -/
structure State where
  session : Option Session := none
  sealed : List Sealed := []
  sentIds : List Nat := []

/-- The service starts, or a call is made; everything but the node id may have changed from
    one call to the next. -/
inductive Event (F : Type) where
  | start (seed : Seed) (sourceNodeId : Nat)
  | send (tx : TxService) (draws : ReplyDraws F) (call : Call F)

section

variable {F : Type} [PyFloat F] (py : Casing) (prim : CryptoPrimitives) (proto : ReplyProtobuf F)
  (broadcasts : BroadcastProtobuf F)

def step (s : State) : Event F → State
  | .start seed sourceNodeId => { s with session := some ⟨seed.value, sourceNodeId⟩ }
  | .send tx draws call =>
    match s.session with
    | none => s
    | some session =>
      let packetId := nextPacketId session.packetCounter
      let draws := { draws with packetId := packetId }
      match call.prepare py proto broadcasts { tx with sourceNodeId := session.sourceNodeId }
          draws with
      | (.unavailable, _) => s
      | (prepared, crypto) =>
        { session := some { session with packetCounter := packetId }
          sealed := s.sealed ++ (channelSeal crypto prepared).toList
          sentIds := s.sentIds ++ ((transmit prim crypto draws prepared).map fun _ =>
            packetId).toList }

def run (events : List (Event F)) : State := events.foldl (step py prim proto broadcasts) {}

end

/-- No two plaintexts under one key with one nonce, and no frame with the id 0. -/
structure State.NoncesUnique (s : State) : Prop where
  unique : ∀ a ∈ s.sealed, ∀ b ∈ s.sealed, a.key = b.key → a.nonce = b.nonce →
    a.plaintext = b.plaintext
  nonzero : 0 ∉ s.sentIds

/-! ### Ids do not change what is sent -/

def setPacketId (packetId : Nat) : Prepared → Prepared
  | .ready args inner => .ready { args with packetId := packetId } inner
  | prepared => prepared

section

variable {F : Type} [PyFloat F] {py : Casing} {proto : ReplyProtobuf F}
  {broadcasts : BroadcastProtobuf F}

omit [PyFloat F] in
theorem replyArgs_setPacketId (tx : TxService) (original : Packet F) (dest packetId packetId' : Nat) :
    replyArgs tx original dest packetId' =
      ((replyArgs tx original dest packetId).1.map fun args => { args with packetId := packetId' },
        (replyArgs tx original dest packetId).2) := by
  unfold replyArgs
  apply Prod.ext
  · simp only
    split
    · rfl
    · rfl
  · rfl

omit [PyFloat F] in
theorem sendReply_setPacketId (tx : TxService) (original : Packet F) (packetId packetId' : Nat)
    (message : Nat → Nat → Option Bytes) :
    sendReply tx original packetId' message =
      ((setPacketId packetId' (sendReply tx original packetId message).1),
        (sendReply tx original packetId message).2) := by
  unfold sendReply
  split
  · split
    · rename_i requester requestId _ _
      rw [replyArgs_setPacketId tx original requester packetId packetId']
      rcases replyArgs tx original requester packetId with ⟨_ | args, crypto⟩
      · rfl
      · simp only [Option.map_some]
        cases message requester requestId with
        | none => rfl
        | some inner => rfl
    · rfl
  · rfl

theorem send_setPacketId (tx : TxService) (original : Packet F) (draws : ReplyDraws F)
    (packetId : Nat) (reply : Reply) :
    send proto tx original { draws with packetId := packetId } reply =
      (setPacketId packetId (send proto tx original draws reply).1,
        (send proto tx original draws reply).2) := by
  cases reply with
  | routingAck =>
    exact sendReply_setPacketId tx original draws.packetId packetId fun _ requestId =>
      routingAckMessage requestId
  | telemetry => exact sendReply_setPacketId tx original draws.packetId packetId _
  | traceroute =>
    change sendTracerouteReply proto tx original _ =
      (setPacketId packetId (sendTracerouteReply proto tx original draws).1,
        (sendTracerouteReply proto tx original draws).2)
    unfold sendTracerouteReply
    have hdata : ∀ requester, buildTracerouteReplyData { draws with packetId := packetId } original
        requester = buildTracerouteReplyData draws original requester := fun _ => rfl
    simp only [hdata]
    split
    · rfl
    · exact sendReply_setPacketId tx original draws.packetId packetId _

omit [PyFloat F] in
theorem prepareText_setPacketId (tx : TxService) (packetId packetId' : Nat) (message : String)
    (destination : Destination) (channel : Int) (wantAck : Bool) (echoHash : Option Int) :
    prepareText py tx packetId' message destination channel wantAck echoHash =
      (setPacketId packetId'
          (prepareText py tx packetId message destination channel wantAck echoHash).1,
        (prepareText py tx packetId message destination channel wantAck echoHash).2) := by
  unfold prepareText
  simp only
  split
  · rfl
  · split
    · rfl
    · rfl

theorem prepareBroadcast_setPacketId (tx : TxService) (packetId packetId' : Nat)
    (inner : Option Bytes) :
    prepareBroadcast tx packetId' inner =
      (setPacketId packetId' (prepareBroadcast tx packetId inner).1,
        (prepareBroadcast tx packetId inner).2) := by
  unfold prepareBroadcast
  split
  · cases inner with
    | none => rfl
    | some inner => rfl
  · rfl

theorem prepare_setPacketId (tx : TxService) (draws : ReplyDraws F) (packetId : Nat)
    (call : Call F) :
    call.prepare py proto broadcasts tx { draws with packetId := packetId } =
      (setPacketId packetId (call.prepare py proto broadcasts tx draws).1,
        (call.prepare py proto broadcasts tx draws).2) := by
  cases call with
  | text message destination channel wantAck echoHash => exact prepareText_setPacketId ..
  | nodeinfo longName shortName hwModel =>
    unfold Call.prepare
    exact prepareBroadcast_setPacketId ..
  | telemetry metrics => exact prepareBroadcast_setPacketId ..
  | position latitude longitude altitude => exact prepareBroadcast_setPacketId ..
  | reply original answer => exact send_setPacketId tx original draws packetId answer

end

/-! ### Which id a send takes -/

/-- A send that takes a packet id: the one at `index` of a session started from `seed`. -/
structure Slot (F : Type) where
  seed : Nat
  index : Nat
  tx : TxService
  draws : ReplyDraws F
  call : Call F

/-- The running session: its seed, its node id and how many ids it has taken. -/
structure Current where
  seed : Seed
  sourceNodeId : Nat
  taken : Nat

/-- What is encrypted under a channel key, but for the packet id. -/
structure Plain where
  key : AesKey
  sourceId : Nat
  plaintext : Bytes

def channelPlain (crypto : CryptoService) : Prepared → Option Plain
  | .ready args inner =>
    match args.encryption crypto with
    | some (.channel key) => if args.sourceId < 2 ^ 32 then some ⟨key, args.sourceId, inner⟩ else none
    | _ => none
  | _ => none

theorem channelSeal_setPacketId (crypto : CryptoService) (packetId : Nat) (prepared : Prepared) :
    channelSeal crypto (setPacketId packetId prepared) =
      (channelPlain crypto prepared).map fun plain =>
        ⟨plain.key, CryptoService.buildMeshtasticNonce packetId plain.sourceId, plain.plaintext⟩ := by
  cases prepared with
  | unavailable => rfl
  | failed => rfl
  | ready args inner =>
    have henc : ({ args with packetId := packetId } : FrameArgs).encryption crypto =
        args.encryption crypto := rfl
    unfold channelPlain setPacketId channelSeal
    simp only [henc]
    split
    · split
      · rfl
      · rfl
    · rfl

theorem sourceId_lt_of_channelPlain {crypto : CryptoService} {prepared : Prepared} {plain : Plain}
    (h : channelPlain crypto prepared = some plain) : plain.sourceId < 2 ^ 32 := by
  unfold channelPlain at h
  split at h
  · split at h
    · split at h
      · rename_i hlt
        cases h
        exact hlt
      · cases h
    · cases h
  · cases h

theorem buildMeshtasticNonce_inj {packetId packetId' sourceId sourceId' : Nat}
    (hpacket : packetId < 2 ^ 32) (hpacket' : packetId' < 2 ^ 32)
    (hsource : sourceId < 2 ^ 32) (hsource' : sourceId' < 2 ^ 32)
    (h : CryptoService.buildMeshtasticNonce packetId sourceId =
      CryptoService.buildMeshtasticNonce packetId' sourceId') :
    packetId = packetId' ∧ sourceId = sourceId' := by
  unfold CryptoService.buildMeshtasticNonce at h
  rw [List.append_assoc, List.append_assoc, List.append_assoc, List.append_assoc] at h
  obtain ⟨hfirst, hrest⟩ := List.append_inj h (by rw [length_leBytes, length_leBytes])
  obtain ⟨hsecond, -⟩ :=
    List.append_inj (List.append_cancel_left hrest) (by rw [length_leBytes, length_leBytes])
  have hfour : (2 : Nat) ^ 32 = 256 ^ 4 := by decide
  rw [hfour] at hpacket hpacket' hsource hsource'
  constructor
  · rw [← leValue_leBytes hpacket, hfirst, leValue_leBytes hpacket']
  · rw [← leValue_leBytes hsource, hsecond, leValue_leBytes hsource']

section

variable {F : Type} [PyFloat F] (py : Casing) (prim : CryptoPrimitives) (proto : ReplyProtobuf F)
  (broadcasts : BroadcastProtobuf F)

namespace Slot

def packetId (slot : Slot F) : Nat := (slot.seed + slot.index) % 2 ^ 32

def prepared (slot : Slot F) : Prepared × CryptoService :=
  slot.call.prepare py proto broadcasts slot.tx slot.draws

def plain (slot : Slot F) : Option Plain :=
  channelPlain (slot.prepared py proto broadcasts).2 (slot.prepared py proto broadcasts).1

/-- What the send puts on the air with a packet id. -/
def frame (slot : Slot F) (packetId : Nat) : Option Bytes :=
  transmit prim (slot.prepared py proto broadcasts).2 slot.draws
    (setPacketId packetId (slot.prepared py proto broadcasts).1)

end Slot

def slotsFrom : Option Current → List (Event F) → List (Slot F)
  | _, [] => []
  | _, .start seed sourceNodeId :: rest => slotsFrom (some ⟨seed, sourceNodeId, 0⟩) rest
  | none, .send _ _ _ :: rest => slotsFrom none rest
  | some current, .send tx draws call :: rest =>
    let slot : Slot F := ⟨current.seed.value, current.taken + 1,
      { tx with sourceNodeId := current.sourceNodeId }, draws, call⟩
    if (slot.prepared py proto broadcasts).1 = .unavailable then slotsFrom (some current) rest
    else slot :: slotsFrom (some { current with taken := current.taken + 1 }) rest

def slots (events : List (Event F)) : List (Slot F) := slotsFrom py proto broadcasts none events

/-- Two sends of different plaintexts under one key and node id do not fall on one number
    modulo `2 ^ 32`, and what falls on 0 does not go on the air. -/
structure WellSeeded (slots : List (Slot F)) : Prop where
  apart : ∀ a ∈ slots, ∀ b ∈ slots, a.seed + a.index ≡ b.seed + b.index [MOD 2 ^ 32] →
    ∀ p, a.plain py proto broadcasts = some p → ∀ q, b.plain py proto broadcasts = some q →
      p.key = q.key → p.sourceId = q.sourceId → p.plaintext = q.plaintext
  nonzero : ∀ a ∈ slots, a.seed + a.index ≡ 0 [MOD 2 ^ 32] →
    a.frame py prim proto broadcasts 0 = none

/-! ### The ids of a run -/

/-- The counter of a session is where its seed and its ids have taken it. -/
def Current.session (current : Current) : Session where
  packetCounter := (current.seed.value + current.taken) % 2 ^ 32
  sourceNodeId := current.sourceNodeId

theorem Current.nextPacketId_session (current : Current) :
    nextPacketId current.session.packetCounter =
      (current.seed.value + (current.taken + 1)) % 2 ^ 32 := by
  unfold nextPacketId Current.session
  rw [Nat.mod_add_mod, Nat.add_assoc]

/-- What a send adds to the encryptions and to the ids on the air. -/
def Slot.sealed (slot : Slot F) : Option Sealed :=
  (slot.plain py proto broadcasts).map fun plain =>
    ⟨plain.key, CryptoService.buildMeshtasticNonce slot.packetId plain.sourceId, plain.plaintext⟩

def Slot.sentId (slot : Slot F) : Option Nat :=
  (slot.frame py prim proto broadcasts slot.packetId).map fun _ => slot.packetId

variable {py prim proto broadcasts}

theorem step_start (s : State) (seed : Seed) (sourceNodeId : Nat) :
    step py prim proto broadcasts s (.start seed sourceNodeId) =
      { s with session := some (Current.session ⟨seed, sourceNodeId, 0⟩) } := by
  have hseed : (seed.value + 0) % 2 ^ 32 = seed.value := by
    apply Nat.mod_eq_of_lt
    have := seed.le
    omega
  unfold step Current.session
  simp only [hseed]

theorem step_send {s : State} {current : Current} (hs : s.session = some current.session)
    (tx : TxService) (draws : ReplyDraws F) (call : Call F) {slot : Slot F}
    (hslot : slot = ⟨current.seed.value, current.taken + 1,
      { tx with sourceNodeId := current.sourceNodeId }, draws, call⟩) :
    step py prim proto broadcasts s (.send tx draws call) =
      if (slot.prepared py proto broadcasts).1 = .unavailable then s
      else
        { session := some ({ current with taken := current.taken + 1 } : Current).session
          sealed := s.sealed ++ (slot.sealed py proto broadcasts).toList
          sentIds := s.sentIds ++ (slot.sentId py prim proto broadcasts).toList } := by
  have hid : nextPacketId current.session.packetCounter = slot.packetId := by
    rw [hslot, current.nextPacketId_session]
    rfl
  have hprepare : call.prepare py proto broadcasts
      { tx with sourceNodeId := current.session.sourceNodeId }
        { draws with packetId := slot.packetId } =
      (setPacketId slot.packetId (slot.prepared py proto broadcasts).1,
        (slot.prepared py proto broadcasts).2) := by
    rw [prepare_setPacketId, hslot]
    rfl
  have hsession : ({ current with taken := current.taken + 1 } : Current).session =
      { current.session with packetCounter := slot.packetId } := by
    rw [hslot]
    rfl
  have hdraws : slot.draws = draws := by rw [hslot]
  unfold step
  simp only [hs, hid, hprepare, hsession]
  unfold Slot.sealed Slot.plain Slot.sentId Slot.frame
  rw [← channelSeal_setPacketId, hdraws]
  cases (slot.prepared py proto broadcasts).1 with
  | unavailable => rfl
  | failed => rfl
  | ready args inner => rfl

theorem foldl_step (events : List (Event F)) (s : State) (current : Option Current)
    (hs : s.session = current.map Current.session) :
    (events.foldl (step py prim proto broadcasts) s).sealed =
        s.sealed ++ (slotsFrom py proto broadcasts current events).filterMap
          (Slot.sealed py proto broadcasts) ∧
      (events.foldl (step py prim proto broadcasts) s).sentIds =
        s.sentIds ++ (slotsFrom py proto broadcasts current events).filterMap
          (Slot.sentId py prim proto broadcasts) := by
  induction events generalizing s current with
  | nil =>
    unfold slotsFrom
    simp
  | cons event rest ih =>
    rw [List.foldl_cons]
    cases event with
    | start seed sourceNodeId =>
      rw [step_start]
      have hrest := ih { s with session := some (Current.session ⟨seed, sourceNodeId, 0⟩) }
        (some ⟨seed, sourceNodeId, 0⟩) rfl
      unfold slotsFrom
      exact hrest
    | send tx draws call =>
      cases current with
      | none =>
        have hstep : step py prim proto broadcasts s (.send tx draws call) = s := by
          unfold step
          rw [hs]
          rfl
        rw [hstep]
        unfold slotsFrom
        exact ih s none hs
      | some current =>
        rw [step_send hs tx draws call rfl]
        unfold slotsFrom
        simp only
        split
        · exact ih s (some current) hs
        · rw [List.filterMap_cons, List.filterMap_cons]
          constructor
          · refine (ih _ (some { current with taken := current.taken + 1 }) rfl).1.trans ?_
            rw [List.append_assoc]
            cases Slot.sealed py proto broadcasts _ with
            | none => rfl
            | some sealed => rfl
          · refine (ih _ (some { current with taken := current.taken + 1 }) rfl).2.trans ?_
            rw [List.append_assoc]
            cases Slot.sentId py prim proto broadcasts _ with
            | none => rfl
            | some sentId => rfl

theorem sealed_run (events : List (Event F)) :
    (run py prim proto broadcasts events).sealed =
      (slots py proto broadcasts events).filterMap (Slot.sealed py proto broadcasts) := by
  unfold run
  rw [(foldl_step events {} none rfl).1, List.nil_append]
  rfl

theorem sentIds_run (events : List (Event F)) :
    (run py prim proto broadcasts events).sentIds =
      (slots py proto broadcasts events).filterMap (Slot.sentId py prim proto broadcasts) := by
  unfold run
  rw [(foldl_step events {} none rfl).2, List.nil_append]
  rfl

omit [PyFloat F] in
theorem Slot.packetId_lt (slot : Slot F) : slot.packetId < 2 ^ 32 :=
  Nat.mod_lt _ (Nat.two_pow_pos 32)

/-- Two channel encryptions have the same nonce when node id and number are the same. -/
theorem sealed_nonce_eq_iff {a b : Slot F} {p q : Plain}
    (ha : a.plain py proto broadcasts = some p) (hb : b.plain py proto broadcasts = some q) :
    CryptoService.buildMeshtasticNonce a.packetId p.sourceId =
        CryptoService.buildMeshtasticNonce b.packetId q.sourceId ↔
      a.seed + a.index ≡ b.seed + b.index [MOD 2 ^ 32] ∧ p.sourceId = q.sourceId := by
  constructor
  · intro h
    exact buildMeshtasticNonce_inj a.packetId_lt b.packetId_lt (sourceId_lt_of_channelPlain ha)
      (sourceId_lt_of_channelPlain hb) h
  · rintro ⟨hmod, hsource⟩
    have hid : a.packetId = b.packetId := hmod
    rw [hid, hsource]

/-- **Nonces over all runs.**  In a run with any restarts, no nonce repeats under a key and no
    frame has the id 0, exactly when the seeds keep the sends apart. -/
theorem noncesUnique_run_iff (events : List (Event F)) :
    (run py prim proto broadcasts events).NoncesUnique ↔
      WellSeeded py prim proto broadcasts (slots py proto broadcasts events) := by
  constructor
  · rintro ⟨hunique, hnonzero⟩
    rw [sealed_run] at hunique
    rw [sentIds_run] at hnonzero
    constructor
    · intro a ha b hb hmod p hp q hq hkey hsource
      have hsealed : ∀ {slot : Slot F} {plain : Plain}, slot ∈ slots py proto broadcasts events →
          slot.plain py proto broadcasts = some plain → (⟨plain.key,
            CryptoService.buildMeshtasticNonce slot.packetId plain.sourceId, plain.plaintext⟩ :
              Sealed) ∈
            (slots py proto broadcasts events).filterMap (Slot.sealed py proto broadcasts) := by
        intro slot plain hslot hplain
        apply List.mem_filterMap.mpr
        refine ⟨slot, hslot, ?_⟩
        unfold Slot.sealed
        rw [hplain]
        rfl
      exact hunique _ (hsealed ha hp) _ (hsealed hb hq) hkey
        ((sealed_nonce_eq_iff hp hq).mpr ⟨hmod, hsource⟩)
    · intro a ha hmod
      have hzero : a.packetId = 0 := hmod
      by_contra hframe
      obtain ⟨frame, hframe⟩ := Option.ne_none_iff_exists'.mp hframe
      apply hnonzero
      apply List.mem_filterMap.mpr
      refine ⟨a, ha, ?_⟩
      unfold Slot.sentId
      rw [hzero, hframe]
      rfl
  · rintro ⟨hapart, hnonzero⟩
    constructor
    · rw [sealed_run]
      intro x hx y hy hkey hnonce
      obtain ⟨a, ha, hxa⟩ := List.mem_filterMap.mp hx
      obtain ⟨b, hb, hyb⟩ := List.mem_filterMap.mp hy
      obtain ⟨p, hp, rfl⟩ := Option.map_eq_some_iff.mp hxa
      obtain ⟨q, hq, rfl⟩ := Option.map_eq_some_iff.mp hyb
      obtain ⟨hmod, hsource⟩ := (sealed_nonce_eq_iff hp hq).mp hnonce
      exact hapart a ha b hb hmod p hp q hq hkey hsource
    · rw [sentIds_run]
      intro hmem
      obtain ⟨a, ha, hsent⟩ := List.mem_filterMap.mp hmem
      obtain ⟨frame, hframe, hzero⟩ := Option.map_eq_some_iff.mp hsent
      rw [hzero, hnonzero a ha hzero] at hframe
      cases hframe

/-! ### One session -/

theorem slotsFrom_sends (sends : List (TxService × ReplyDraws F × Call F)) (current : Current) :
    (slotsFrom py proto broadcasts (some current)
        (sends.map fun send => .send send.1 send.2.1 send.2.2)).Pairwise
          (fun a b => a.index < b.index) ∧
      ∀ slot ∈ slotsFrom py proto broadcasts (some current)
          (sends.map fun send => .send send.1 send.2.1 send.2.2),
        slot.seed = current.seed.value ∧ current.taken < slot.index ∧
          slot.index ≤ current.taken + sends.length := by
  induction sends generalizing current with
  | nil =>
    constructor
    · exact List.Pairwise.nil
    · intro slot hslot
      cases hslot
  | cons send rest ih =>
    rw [List.map_cons, slotsFrom]
    split
    · obtain ⟨hsorted, hslots⟩ := ih current
      refine ⟨hsorted, fun slot hslot => ?_⟩
      obtain ⟨hseed, hlt, hle⟩ := hslots slot hslot
      exact ⟨hseed, hlt, hle.trans (Nat.add_le_add_left (Nat.le_succ _) _)⟩
    · obtain ⟨hsorted, hslots⟩ := ih { current with taken := current.taken + 1 }
      constructor
      · apply List.Pairwise.cons
        · intro slot hslot
          exact (hslots slot hslot).2.1
        · exact hsorted
      · intro slot hslot
        rcases List.mem_cons.mp hslot with rfl | hslot
        · exact ⟨rfl, Nat.lt_succ_self _, Nat.add_le_add_left (Nat.succ_pos rest.length) _⟩
        · obtain ⟨hseed, hlt, hle⟩ := hslots slot hslot
          refine ⟨hseed, (Nat.lt_succ_self _).trans hlt, ?_⟩
          rw [List.length_cons]
          simp only at hle
          omega

omit [PyFloat F] in
theorem eq_of_pairwise_index {slots : List (Slot F)}
    (h : slots.Pairwise fun a b => a.index < b.index) {a b : Slot F} (ha : a ∈ slots)
    (hb : b ∈ slots) (heq : a.index = b.index) : a = b := by
  induction slots with
  | nil => cases ha
  | cons slot rest ih =>
    obtain ⟨hfirst, hrest⟩ := List.pairwise_cons.mp h
    rcases List.mem_cons.mp ha with hslot | harest
    · rcases List.mem_cons.mp hb with hslot' | hbrest
      · rw [hslot, hslot']
      · rw [hslot] at heq
        exact absurd heq (Nat.ne_of_lt (hfirst b hbrest))
    · rcases List.mem_cons.mp hb with hslot' | hbrest
      · rw [hslot'] at heq
        exact absurd heq.symm (Nat.ne_of_lt (hfirst a harest))
      · exact ih hrest harest hbrest

end

/-! ### A restart -/

def restartedStation : TxService where
  crypto := stationCrypto
  primaryChannelName := "LongFast"
  presetName := "LongFast"
  sourceNodeId := 0xbbbb0002
  hopLimit := 3
  enabled := true
  hasWrapper := true
  meshcoreEnabled := false
  companions := []
  sticks := []
  latestCaptureSource _ := none

def broadcastText (message : String) : Event WholeFloat :=
  .send restartedStation { packetId := 0, encodedSnr := fun _ => none }
    (.text message (.text "broadcast") 0 false none)

/-- The service starts twice from one seed and sends a text each time. -/
def restartedRun : State :=
  run Casing.ascii stationPrimitives ⟨fun _ => none, fun _ => none⟩ ⟨fun _ => none, fun _ _ _ => none⟩
    [.start ⟨0x1234, by decide, by decide⟩ 0xbbbb0002, broadcastText "meet at nine",
      .start ⟨0x1234, by decide, by decide⟩ 0xbbbb0002, broadcastText "meet at ten"]

/-- The two texts are encrypted under the default key with one nonce. -/
theorem not_noncesUnique_restartedRun :
    restartedRun.sealed.map (fun sealed => (sealed.nonce, sealed.plaintext)) =
        [(CryptoService.buildMeshtasticNonce 0x1235 0xbbbb0002,
            serializeData PORTNUM_TEXT_MESSAGE (utf8 "meet at nine") 0),
          (CryptoService.buildMeshtasticNonce 0x1235 0xbbbb0002,
            serializeData PORTNUM_TEXT_MESSAGE (utf8 "meet at ten") 0)] ∧
      restartedRun.sealed.map (fun sealed => some sealed.key) =
        [stationCrypto.defaultKey, stationCrypto.defaultKey] ∧
      ¬ restartedRun.NoncesUnique := by
  refine ⟨by decide +kernel, by decide +kernel, ?_⟩
  rintro ⟨hunique, -⟩
  have hdiffer : ∃ a ∈ restartedRun.sealed, ∃ b ∈ restartedRun.sealed,
      a.key = b.key ∧ a.nonce = b.nonce ∧ a.plaintext ≠ b.plaintext := by
    decide +kernel
  obtain ⟨a, ha, b, hb, hkey, hnonce, hne⟩ := hdiffer
  exact hne (hunique a ha b hb hkey hnonce)

end Meshpoint.PacketIds
