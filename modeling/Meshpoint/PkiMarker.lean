import Meshpoint.InboundReplies
import Meshpoint.PkiRoundTrip

/-!
# The marker of a direct message

The builders of `src/transmit/meshtastic_builder.py` that take a recipient's public key write
channel hash 0 into the header of a direct message, and the receiver's `is_pki_packet` goes by it.
The hash is chosen by the recipient key alone, the encryption by the destination and the sender's
key pair as well: `marksScheme_iff` says when the two agree.
-/

namespace Meshpoint.PkiMarker

open ByteCodec ChannelKeys MeshtasticHeader MeshtasticBuilder InboundReplies

/-! ### The builders -/

/-- A builder with the message it is given. -/
inductive Message (F : Type) where
  | text (text : String)
  | routingAck (requestId : Nat)
  | telemetryReply (message : TelemetryMessage F) (requestId : Nat)
  | tracerouteReply (message : RouteMessage) (requestId : Nat)

section

variable {F : Type} (proto : ReplyProtobuf F) (prim : CryptoPrimitives) (crypto : CryptoService)
  (args : FrameArgs) (extraNonce : Nat)

/-- `build_routing_ack`. -/
def buildRoutingAck (requestId : Nat) : Option Bytes :=
  (routingAckMessage requestId).bind fun inner =>
    buildFrame prim crypto { args with wantAck := false } inner extraNonce

/-- `build_telemetry_reply`. -/
def buildTelemetryReply (message : TelemetryMessage F) (requestId : Nat) : Option Bytes :=
  (telemetryReplyMessage proto message requestId).bind fun inner =>
    buildFrame prim crypto { args with wantAck := false } inner extraNonce

/-- `build_traceroute_reply`. -/
def buildTracerouteReply (message : RouteMessage) (requestId : Nat) : Option Bytes :=
  (tracerouteReplyMessage proto message requestId).bind fun inner =>
    buildFrame prim crypto { args with wantAck := false } inner extraNonce

def build : Message F → Option Bytes
  | .text text => buildTextMessage prim crypto text args.dest args.sourceId args.packetId
      args.channelKey args.channelHash args.hopLimit args.hopStart args.wantAck
      args.recipientPublicKey extraNonce
  | .routingAck requestId => buildRoutingAck prim crypto args extraNonce requestId
  | .telemetryReply message requestId =>
    buildTelemetryReply proto prim crypto args extraNonce message requestId
  | .tracerouteReply message requestId =>
    buildTracerouteReply proto prim crypto args extraNonce message requestId

def Message.inner : Message F → Option Bytes
  | .text content => some (serializeData PORTNUM_TEXT_MESSAGE (utf8 content) 0)
  | .routingAck requestId => routingAckMessage requestId
  | .telemetryReply message requestId => telemetryReplyMessage proto message requestId
  | .tracerouteReply message requestId => tracerouteReplyMessage proto message requestId

/-! ### The property -/

def IsPki (scheme : Encryption) : Prop := ∃ key, scheme = .pki key

def headerHash (frame : Bytes) : Nat := (frame.getD 13 0).toNat

/-- The header of a frame names the scheme of its body, and so does the receiver's test. -/
structure MarksScheme (channelName : String) (frame : Bytes) (scheme : Encryption) : Prop where
  marker : headerHash frame = 0 ↔ IsPki scheme
  channel : ∀ key, scheme = .channel key →
    headerHash frame = (computeChannelHash channelName key).toNat
  receiver : ∀ header, parseHeader (frame.take MESHTASTIC_HEADER_SIZE) = some header →
    ∀ ourNodeId, CryptoService.isPkiPacket header.channelHash header.destId ourNodeId
        (frame.drop MESHTASTIC_HEADER_SIZE).length = true ↔
      ourNodeId = some args.dest ∧ IsPki scheme

def HasRecipient (args : FrameArgs) : Prop := ∃ key, args.recipientPublicKey = some key ∧ key ≠ []

/-- What a builder must be given. -/
structure MarkerAgrees (channelName : String) : Prop where
  /-- A recipient key comes with a destination that is a node, and the sender has a key pair. -/
  recipient : HasRecipient args → args.dest ≠ BROADCAST_ADDR ∧ crypto.hasPki = true
  /-- Without one, the hash is that of the channel's key, and not 0. -/
  channel : ¬ HasRecipient args → ∀ key, args.channelKey.or crypto.defaultKey = some key →
      args.channelHash = (computeChannelHash channelName key).toNat ∧ args.channelHash ≠ 0

/-! ### What a frame is made of -/

variable {proto prim crypto args extraNonce}

/-- The parts of a frame. -/
structure Framed (prim : CryptoPrimitives) (crypto : CryptoService) (args : FrameArgs)
    (extraNonce : Nat) (frame inner : Bytes) (scheme : Encryption) : Prop where
  notEmpty : inner ≠ []
  long : MESHTASTIC_HEADER_SIZE ≤ frame.length
  encryption : args.encryption crypto = some scheme
  body : scheme.encrypt prim crypto args inner extraNonce =
    some (frame.drop MESHTASTIC_HEADER_SIZE)
  header : headerHash frame =
    if args.recipientPublicKey.any fun key => key ≠ [] then 0 else args.channelHash
  dest : leValue (frame.take 4) = args.dest

theorem exists_framed_of_buildFrame {inner frame : Bytes} (hinner : inner ≠ [])
    (h : buildFrame prim crypto args inner extraNonce = some frame) :
    ∃ scheme, Framed prim crypto args extraNonce frame inner scheme := by
  unfold buildFrame at h
  rw [encryptPayload_eq] at h
  simp only [Option.bind_eq_bind, Option.bind_eq_some_iff] at h
  obtain ⟨ciphertext, ⟨scheme, hscheme, hbody⟩, header, hheader, hframe⟩ := h
  obtain rfl := Option.some.inj hframe
  have hsize := length_of_packHeader hheader
  obtain ⟨⟨hdest, _, _⟩, hchannel, hbytes⟩ := packHeader_eq_some hheader
  refine ⟨scheme, hinner, ?_, hscheme, ?_, ?_, ?_⟩
  · rw [List.length_append, hsize]
    exact Nat.le_add_right _ _
  · rw [List.drop_left' hsize]
    exact hbody
  · rw [hbytes]
    exact toNat_ofNat_of_lt hchannel
  · rw [hbytes]
    have hvalue : leValue (leBytes 4 args.dest) = args.dest := leValue_leBytes hdest
    exact hvalue

theorem serializeData_ne_nil (portnum : Nat) (payload : Bytes) (requestId : Nat) :
    serializeData portnum payload requestId ≠ [] := List.cons_ne_nil _ _

theorem inner_ne_nil {message : Message F} {inner : Bytes} (h : message.inner proto = some inner) :
    inner ≠ [] := by
  cases message with
  | text text =>
    obtain rfl := Option.some.inj h
    exact serializeData_ne_nil _ _ _
  | routingAck requestId =>
    obtain rfl := Option.some.inj h
    exact serializeData_ne_nil _ _ _
  | telemetryReply message requestId =>
    obtain ⟨payload, _, rfl⟩ := Option.map_eq_some_iff.mp h
    exact serializeData_ne_nil _ _ _
  | tracerouteReply message requestId =>
    obtain ⟨payload, _, rfl⟩ := Option.map_eq_some_iff.mp h
    exact serializeData_ne_nil _ _ _

theorem build_eq (message : Message F) :
    ∃ wantAck, build proto prim crypto args extraNonce message =
      (message.inner proto).bind fun inner =>
        buildFrame prim crypto { args with wantAck } inner extraNonce := by
  cases message with
  | text text => exact ⟨args.wantAck, rfl⟩
  | routingAck requestId => exact ⟨false, rfl⟩
  | telemetryReply message requestId => exact ⟨false, rfl⟩
  | tracerouteReply message requestId => exact ⟨false, rfl⟩

theorem exists_framed {message : Message F} {frame : Bytes}
    (h : build proto prim crypto args extraNonce message = some frame) :
    ∃ inner scheme, message.inner proto = some inner ∧
      Framed prim crypto args extraNonce frame inner scheme := by
  obtain ⟨wantAck, hbuild⟩ := build_eq message
  rw [hbuild] at h
  obtain ⟨inner, hinner, hframe⟩ := Option.bind_eq_some_iff.mp h
  obtain ⟨scheme, hframed⟩ := exists_framed_of_buildFrame (inner_ne_nil hinner) hframe
  -- the scheme does not depend on the acknowledgement bit
  exact ⟨inner, scheme, hinner, hframed.notEmpty, hframed.long, hframed.encryption, hframed.body,
    hframed.header, hframed.dest⟩

/-! ### Agreement -/

variable {frame inner : Bytes} {scheme : Encryption}

theorem length_of_channel {key : AesKey}
    (h : Framed prim crypto args extraNonce frame inner (.channel key)) :
    frame.length = MESHTASTIC_HEADER_SIZE + inner.length := by
  have hbody := congrArg (Option.map List.length) h.body
  simp only [Encryption.encrypt, CryptoService.encryptMeshtastic, Option.some_or, Option.map_some,
    CounterMode.length_ctr, List.length_drop, Option.some.injEq] at hbody
  have hlong := h.long
  omega

theorem length_of_isPki (h : Framed prim crypto args extraNonce frame inner scheme)
    (hpki : IsPki scheme) :
    frame.length = MESHTASTIC_HEADER_SIZE + inner.length + PkiCrypto.PKC_OVERHEAD := by
  obtain ⟨key, rfl⟩ := hpki
  obtain ⟨privateKey, _, hencrypted⟩ := Option.bind_eq_some_iff.mp h.body
  obtain ⟨shared, _, ciphertext, mic, hccm, hbody⟩ :=
    PkiCrypto.encryptPkiPayload_eq_some_iff.mp hencrypted
  obtain ⟨hcipher, hmic⟩ := AesCcm.length_of_encrypt _ hccm
  have hlength := congrArg List.length hbody
  rw [List.length_append, List.length_append, length_leBytes, hcipher, hmic,
    List.length_drop] at hlength
  have hlong := h.long
  simp only [PkiCrypto.PKC_OVERHEAD, PkiCrypto.PKC_MIC_LEN] at hlength ⊢
  omega

theorem overhead_lt_of_isPki (h : Framed prim crypto args extraNonce frame inner scheme)
    (hpki : IsPki scheme) :
    PkiCrypto.PKC_OVERHEAD < (frame.drop MESHTASTIC_HEADER_SIZE).length := by
  have hpos := List.length_pos_of_ne_nil h.notEmpty
  rw [List.length_drop, length_of_isPki h hpki]
  omega

theorem encryption_of_noRecipient (h : ¬ HasRecipient args) :
    args.encryption crypto = (args.channelKey.or crypto.defaultKey).map .channel := by
  unfold FrameArgs.encryption
  cases hrecipient : args.recipientPublicKey with
  | none => rfl
  | some key => exact if_neg fun hcond => h ⟨key, hrecipient, hcond.1⟩

theorem headerHash_of_noRecipient (hframed : Framed prim crypto args extraNonce frame inner scheme)
    (h : ¬ HasRecipient args) : headerHash frame = args.channelHash := by
  rw [hframed.header]
  apply if_neg
  cases hrecipient : args.recipientPublicKey with
  | none => exact Bool.false_ne_true
  | some key =>
    intro hany
    exact h ⟨key, hrecipient, by simpa using hany⟩

theorem headerHash_of_recipient (hframed : Framed prim crypto args extraNonce frame inner scheme)
    (h : HasRecipient args) : headerHash frame = 0 := by
  obtain ⟨key, hrecipient, hkey⟩ := h
  rw [hframed.header, hrecipient]
  exact if_pos (by simpa using hkey)

theorem isPki_iff (h : args.encryption crypto = some scheme) :
    IsPki scheme ↔ HasRecipient args ∧ args.dest ≠ BROADCAST_ADDR ∧ crypto.hasPki = true := by
  constructor
  · rintro ⟨key, rfl⟩
    have hrecipient : HasRecipient args := by
      by_contra hnone
      rw [encryption_of_noRecipient hnone] at h
      simp at h
    refine ⟨hrecipient, ?_⟩
    unfold FrameArgs.encryption at h
    split at h
    · split at h
      · rename_i hcond
        exact hcond.2
      · simp at h
    · simp at h
  · rintro ⟨⟨key, hkey, hne⟩, hdest, hpair⟩
    refine ⟨key, ?_⟩
    have hpki : args.encryption crypto = some (.pki key) := by
      unfold FrameArgs.encryption
      rw [hkey]
      exact if_pos ⟨hne, hdest, hpair⟩
    exact Option.some.inj (h.symm.trans hpki)

theorem fields_of_parseHeader {header : Header}
    (h : parseHeader (frame.take MESHTASTIC_HEADER_SIZE) = some header) :
    header.channelHash = headerHash frame ∧ header.destId = leValue (frame.take 4) := by
  have htake : (frame.take MESHTASTIC_HEADER_SIZE).getD 13 0 = frame.getD 13 0 := by
    rw [List.getD_eq_getElem?_getD, List.getD_eq_getElem?_getD,
      List.getElem?_take_of_lt (by decide)]
  refine ⟨(parseHeader_channelHash h).trans (congrArg UInt8.toNat htake), ?_⟩
  unfold parseHeader at h
  simp only at h
  split at h
  · cases h
  · obtain rfl := Option.some.inj h
    simp only [List.take_take]
    rfl

theorem receiver_of_marker (h : Framed prim crypto args extraNonce frame inner scheme)
    (hmarker : headerHash frame = 0 ↔ IsPki scheme) {header : Header}
    (hheader : parseHeader (frame.take MESHTASTIC_HEADER_SIZE) = some header)
    (ourNodeId : Option Nat) :
    CryptoService.isPkiPacket header.channelHash header.destId ourNodeId
        (frame.drop MESHTASTIC_HEADER_SIZE).length = true ↔
      ourNodeId = some args.dest ∧ IsPki scheme := by
  obtain ⟨hhash, hdest⟩ := fields_of_parseHeader hheader
  rw [hhash, hdest, h.dest] 
  simp only [CryptoService.isPkiPacket, Bool.and_eq_true, decide_eq_true_eq, hmarker]
  constructor
  · rintro ⟨⟨⟨hpki, hours⟩, _⟩, _⟩
    exact ⟨hours, hpki⟩
  · rintro ⟨hours, hpki⟩
    exact ⟨⟨⟨hpki, hours⟩, ((isPki_iff h.encryption).mp hpki).2.1⟩, overhead_lt_of_isPki h hpki⟩

/-- **The marker and the scheme.**  In the frame of any builder the channel hash is 0 exactly when
    the body is encrypted with PKI, and is the hash of the body's channel key otherwise, exactly
    when the builder is given what `MarkerAgrees` says. -/
theorem marksScheme_iff {message : Message F} (channelName : String)
    (h : build proto prim crypto args extraNonce message = some frame) :
    ∃ inner scheme, message.inner proto = some inner ∧ args.encryption crypto = some scheme ∧
      scheme.encrypt prim crypto args inner extraNonce =
        some (frame.drop MESHTASTIC_HEADER_SIZE) ∧
      (MarksScheme args channelName frame scheme ↔ MarkerAgrees crypto args channelName) := by
  obtain ⟨inner, scheme, hinner, hframed⟩ := exists_framed h
  have hpki := isPki_iff hframed.encryption
  refine ⟨inner, scheme, hinner, hframed.encryption, hframed.body, ?_, ?_⟩
  · intro hmarks
    constructor
    · intro hrecipient
      exact (hpki.mp (hmarks.marker.mp (headerHash_of_recipient hframed hrecipient))).2
    · intro hnone key hkey
      have hscheme := hframed.encryption
      rw [encryption_of_noRecipient hnone, hkey] at hscheme
      obtain rfl : Encryption.channel key = scheme := Option.some.inj hscheme
      rw [← headerHash_of_noRecipient hframed hnone]
      refine ⟨hmarks.channel key rfl, ?_⟩
      intro hzero
      exact hnone (hpki.mp (hmarks.marker.mp hzero)).1
  · intro hagrees
    by_cases hrecipient : HasRecipient args
    · have hzero := headerHash_of_recipient hframed hrecipient
      have hscheme : IsPki scheme := hpki.mpr ⟨hrecipient, hagrees.recipient hrecipient⟩
      have hmarker := iff_of_true hzero hscheme
      refine ⟨hmarker, ?_, fun header hheader => receiver_of_marker hframed hmarker hheader⟩
      rintro key rfl
      obtain ⟨recipientKey, hkey⟩ := hscheme
      cases hkey
    · have hencryption := hframed.encryption
      rw [encryption_of_noRecipient hrecipient] at hencryption
      obtain ⟨key, hkey, rfl⟩ := Option.map_eq_some_iff.mp hencryption
      obtain ⟨hhash, hne⟩ := hagrees.channel hrecipient key hkey
      have hheader := headerHash_of_noRecipient hframed hrecipient
      have hmarker : headerHash frame = 0 ↔ IsPki (.channel key) := by
        refine iff_of_false (fun hzero => hne (hheader.symm.trans hzero)) ?_
        rintro ⟨recipientKey, heq⟩
        cases heq
      refine ⟨hmarker, ?_, fun header hheader => receiver_of_marker hframed hmarker hheader⟩
      rintro _ ⟨⟩
      exact hheader.trans hhash

end

/-! ### A message on a channel, and one to a node -/

def noReplies : ReplyProtobuf Int := ⟨fun _ => none, fun _ => none⟩

def channelArgs : FrameArgs where
  dest := 0xffffffff
  sourceId := 0xaaaa0001
  packetId := 42
  channelKey := some hikingKey
  channelHash := (computeChannelHash "Hiking" hikingKey).toNat
  hopLimit := 3
  hopStart := 3

/-- The same message to a node whose public key is known. -/
def directArgs : FrameArgs :=
  { channelArgs with
    dest := 0xbbbb0002
    recipientPublicKey :=
      some (ofHex "07a37cbc142093c8b755dc1b10e86cb426374ad16aa853ed0bdfc0b2b86d1c7c") }

def unpairedCrypto : CryptoService :=
  { stationCrypto with privateKey := none, publicKey := none }

def meetFrame : Bytes :=
  (build noReplies stationPrimitives stationCrypto channelArgs 0 (.text "meet at nine")).get
    (by decide +kernel)

def unpairedFrame : Bytes :=
  (build noReplies stationPrimitives unpairedCrypto directArgs 0 (.text "meet at nine")).get
    (by decide +kernel)

theorem marksScheme_meet :
    headerHash meetFrame = 0x2a ∧ MarkerAgrees stationCrypto channelArgs "Hiking" ∧
      MarksScheme channelArgs "Hiking" meetFrame (.channel hikingKey) := by
  have hagrees : MarkerAgrees stationCrypto channelArgs "Hiking" := by
    constructor
    · rintro ⟨key, hkey, _⟩
      cases hkey
    · rintro _ key hkey
      obtain rfl : hikingKey = key := Option.some.inj hkey
      exact ⟨rfl, by decide +kernel⟩
  refine ⟨by decide +kernel, hagrees, ?_⟩
  have hbuild : build noReplies stationPrimitives stationCrypto channelArgs 0
      (.text "meet at nine") = some meetFrame := (Option.some_get _).symm
  obtain ⟨inner, scheme, _, hscheme, _, hiff⟩ := marksScheme_iff "Hiking" hbuild
  obtain rfl : Encryption.channel hikingKey = scheme := Option.some.inj hscheme
  exact hiff.mpr hagrees

/-- **Without a key pair** the message goes out under the channel's key, marked as one that is
    encrypted for its recipient. -/
theorem unpaired_marked :
    build noReplies stationPrimitives unpairedCrypto directArgs 0 (.text "meet at nine") =
        some unpairedFrame ∧
      directArgs.encryption unpairedCrypto = some (.channel hikingKey) ∧
      headerHash unpairedFrame = 0 ∧
      ¬ MarksScheme directArgs "Hiking" unpairedFrame (.channel hikingKey) := by
  have hzero : headerHash unpairedFrame = 0 := by decide +kernel
  refine ⟨(Option.some_get _).symm, rfl, hzero, ?_⟩
  intro hmarks
  obtain ⟨key, hkey⟩ := hmarks.marker.mp hzero
  cases hkey

end Meshpoint.PkiMarker
