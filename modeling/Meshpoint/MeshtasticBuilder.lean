import Meshpoint.MeshtasticDecoder

/-!
# Building Meshtastic frames

Model of `build_text_message` of `src/transmit/meshtastic_builder.py`, with its
hand-written serialiser of the inner message, the encryption and the header.

A frame built with a channel key and no recipient key is decoded to the same text
by the same service, whatever the block cipher is (`decode_buildTextMessage`),
provided that nothing the decoder tries earlier reads the body: an earlier channel
key, or, for channel hash 0 and a frame to this node, the PKI branch.
-/

namespace Meshpoint.MeshtasticBuilder

open JsonText ByteCodec ProtoWire MeshtasticHeader MeshtasticDecoder

def PORTNUM_TEXT_MESSAGE : Nat := 1

/-- `_serialize_data`. -/
def serializeData (portnum : Nat) (payload : Bytes) (requestId : Nat) : Bytes :=
  0x08 :: (encodeVarint portnum ++ 0x12 :: (encodeVarint payload.length ++ (payload ++
    if requestId = 0 then [] else 0x35 :: leBytes 4 (requestId % 2 ^ 32))))

section

variable (prim : CryptoPrimitives)

/-- `_encrypt_payload`; `extraNonce` is what the PKI encryption draws. -/
def encryptPayload (crypto : CryptoService) (inner : Bytes) (packetId sourceId dest : Nat)
    (channelKey : Option AesKey) (recipientPublicKey : Option Bytes) (extraNonce : Nat) :
    Option Bytes :=
  match recipientPublicKey with
  | some key =>
    if key ≠ [] ∧ dest ≠ BROADCAST_ADDR ∧ crypto.hasPki then
      crypto.encryptMeshtasticPki prim inner packetId sourceId key extraNonce
    else crypto.encryptMeshtastic prim inner packetId sourceId channelKey
  | none => crypto.encryptMeshtastic prim inner packetId sourceId channelKey

/-- `_build_header`; `none` when it raises. -/
def buildHeader (dest sourceId packetId hopLimit hopStart : Nat) (wantAck viaMqtt : Bool)
    (channelHash : Nat) : Option Bytes :=
  packHeader dest sourceId packetId hopLimit hopStart wantAck viaMqtt channelHash

/-- `build_text_message`; `none` when it returns none or raises. -/
def buildTextMessage (crypto : CryptoService) (text : String) (dest sourceId packetId : Nat)
    (channelKey : Option AesKey) (channelHash hopLimit hopStart : Nat) (wantAck : Bool)
    (recipientPublicKey : Option Bytes) (extraNonce : Nat) : Option Bytes := do
  let inner := serializeData PORTNUM_TEXT_MESSAGE (utf8 text) 0
  let ciphertext ← encryptPayload prim crypto inner packetId sourceId dest channelKey
    recipientPublicKey extraNonce
  let onAirHash := if recipientPublicKey.any fun key => key ≠ [] then 0 else channelHash
  let header ← buildHeader dest sourceId packetId hopLimit hopStart wantAck false onAirHash
  return header ++ ciphertext

end

/-! ### The inner message -/

/-- **A serialised inner message parses back.** -/
theorem parseData_serializeData {portnum requestId : Nat} {payload : Bytes}
    (hport : portnum < 2 ^ 31) (hlen : payload.length < 2 ^ 64) (hreq : requestId < 2 ^ 32) :
    parseData (serializeData portnum payload requestId) =
      some ⟨portnum, payload, requestId⟩ := by
  have hlast : ∀ fuel, readFields (fuel + 1) []
      (if requestId = 0 then [] else 0x35 :: leBytes 4 (requestId % 2 ^ 32)) =
      some (if requestId = 0 then [] else [(6, .fixed32 (leBytes 4 requestId))]) := by
    intro fuel
    by_cases hzero : requestId = 0
    · simp [hzero, readFields]
    · rw [if_neg hzero, if_neg hzero, Nat.mod_eq_of_lt hreq]
      have hitem := readItem_fixed32 0x35 (leBytes 4 requestId) (by decide) (by decide)
        (by decide) (length_leBytes 4 requestId) []
      rw [List.append_nil] at hitem
      rw [readFields_cons (by simp) hitem]
      cases fuel <;> simp [readFields]
  have hpayload := readItem_bytes 0x12 payload (by decide) (by decide) (by decide) hlen
    (if requestId = 0 then [] else 0x35 :: leBytes 4 (requestId % 2 ^ 32))
  have hportItem := readItem_varint 0x08 portnum (by decide) (by decide) (by decide)
    (by omega) (0x12 :: (encodeVarint payload.length ++ (payload ++
      if requestId = 0 then [] else 0x35 :: leBytes 4 (requestId % 2 ^ 32))))
  obtain ⟨fuel, hfuel⟩ : ∃ fuel, (serializeData portnum payload requestId).length = fuel + 3 := by
    refine ⟨(serializeData portnum payload requestId).length - 3, ?_⟩
    have hone := List.length_pos_of_ne_nil (encodeVarint_ne_nil portnum)
    have htwo := List.length_pos_of_ne_nil (encodeVarint_ne_nil payload.length)
    simp only [serializeData, List.length_cons, List.length_append]
    omega
  have hfields : parseFields (serializeData portnum payload requestId) =
      some ((1, .varint portnum) :: (2, .bytes payload) ::
        if requestId = 0 then [] else [(6, .fixed32 (leBytes 4 requestId))]) := by
    rw [parseFields, hfuel, serializeData, readFields_cons (by simp) hportItem,
      readFields_cons (by simp) hpayload, hlast fuel]
    rfl
  rw [parseData, hfields]
  by_cases hzero : requestId = 0
  · simp [hzero, lastOf, WireValue.varint?, WireValue.bytes?, WireValue.fixed32?, enumValue]
    omega
  · have hval : leValue (leBytes 4 requestId) = requestId := leValue_leBytes hreq
    simp [hzero, lastOf, WireValue.varint?, WireValue.bytes?, WireValue.fixed32?, enumValue, hval]
    omega

/-! ### The round trip -/

section

variable {F : Type} [PyFloat F] (prim : CryptoPrimitives) (pb : PortnumHandlers.AppProtobuf F)

/-- The packet is this text message, decrypted with the channel key at `index`. -/
structure IsTextMessage (packet : Packet F) (text : String) (dest sourceId packetId hops : Nat)
    (wantAck : Bool) (channelHash index : Nat) : Prop where
  packetType : packet.packetType = .text
  text : packet.decodedPayload = some (Entries.ofList [("text", .str text)])
  destinationId : packet.destinationId = hex8 dest
  sourceId : packet.sourceId = hex8 sourceId
  packetId : packet.packetId = hex8 packetId
  hopLimit : packet.hopLimit = hops
  hopStart : packet.hopStart = hops
  wantAck : packet.wantAck = wantAck
  channelHash : packet.channelHash = channelHash
  matchedChannelIndex : packet.matchedChannelIndex = some index

/-- What the decoder's header parser sees of a built text message. -/
def textHeader (dest sourceId packetId hops : Nat) (wantAck : Bool) (channelHash : Nat) : Header :=
  ⟨dest, sourceId, packetId, hops, hops, wantAck, false, channelHash, 0⟩

theorem buildTextMessage_eq_some {crypto : CryptoService} {text : String}
    {dest sourceId packetId channelHash hopLimit hopStart extraNonce : Nat} {wantAck : Bool}
    {channelKey : Option AesKey} {key : AesKey} {frame : Bytes}
    (hkey : channelKey.or crypto.defaultKey = some key)
    (h : buildTextMessage prim crypto text dest sourceId packetId channelKey channelHash hopLimit
      hopStart wantAck none extraNonce = some frame) :
    ∃ header, packHeader dest sourceId packetId hopLimit hopStart wantAck false channelHash =
        some header ∧
      frame = header ++ CounterMode.ctr (prim.aesBlock key)
        (CryptoService.buildMeshtasticNonce packetId sourceId)
        (serializeData PORTNUM_TEXT_MESSAGE (utf8 text) 0) := by
  unfold buildTextMessage encryptPayload CryptoService.encryptMeshtastic at h
  rw [hkey] at h
  simp only [Option.map_some, Option.bind_eq_bind, Option.bind_some, Option.any_none,
    Bool.false_eq_true, if_false, Option.bind_eq_some_iff] at h
  obtain ⟨header, hheader, hframe⟩ := h
  exact ⟨header, hheader, (Option.some.inj hframe).symm⟩

/-- With or without a recipient key, a frame starts with the header of its destination. -/
theorem parseHeader_buildTextMessage {crypto : CryptoService} {text : String}
    {dest sourceId packetId channelHash hops extraNonce : Nat} {wantAck : Bool}
    {channelKey : Option AesKey} {recipientPublicKey : Option Bytes} {frame : Bytes}
    (h : buildTextMessage prim crypto text dest sourceId packetId channelKey channelHash hops hops
      wantAck recipientPublicKey extraNonce = some frame) :
    ∃ header, parseHeader (frame.take MESHTASTIC_HEADER_SIZE) = some header ∧
      header.destId = dest := by
  unfold buildTextMessage buildHeader at h
  simp only [Option.bind_eq_bind, Option.bind_eq_some_iff] at h
  obtain ⟨ciphertext, -, header, hheader, hframe⟩ := h
  obtain rfl := Option.some.inj hframe
  rw [← length_of_packHeader hheader, List.take_left]
  exact ⟨_, parseHeader_packHeader hheader (Nat.le_refl _), rfl⟩

theorem buildTextMessage_isSome {crypto : CryptoService} {dest sourceId packetId channelHash : Nat}
    {channelKey : Option AesKey} {key : AesKey} (hkey : channelKey.or crypto.defaultKey = some key)
    (hdest : dest < 2 ^ 32) (hsource : sourceId < 2 ^ 32) (hid : packetId < 2 ^ 32)
    (hchannel : channelHash < 256) (text : String) (hopLimit hopStart extraNonce : Nat)
    (wantAck : Bool) :
    (buildTextMessage prim crypto text dest sourceId packetId channelKey channelHash hopLimit
      hopStart wantAck none extraNonce).isSome = true := by
  obtain ⟨header, hheader⟩ :=
    packHeader_of_lt hdest hsource hid hchannel hopLimit hopStart wantAck false
  unfold buildTextMessage encryptPayload CryptoService.encryptMeshtastic buildHeader
  simp [hkey, hheader]

theorem decodePayload_text {text : String} (hlen : (utf8 text).length < 2 ^ 63) :
    decodePayload pb (serializeData PORTNUM_TEXT_MESSAGE (utf8 text) 0) =
      { decodedPayload := some (Entries.ofList [("text", .str text)])
        packetType := .text
        rawAppPayload := bytesOrNone (utf8 text)
        requestId := 0 } := by
  have hlong : ¬ (serializeData PORTNUM_TEXT_MESSAGE (utf8 text) 0).length < 2 := by
    have hone := List.length_pos_of_ne_nil (encodeVarint_ne_nil PORTNUM_TEXT_MESSAGE)
    simp only [serializeData, List.length_cons, List.length_append]
    omega
  have hparse : parseData (serializeData PORTNUM_TEXT_MESSAGE (utf8 text) 0) =
      some ⟨1, utf8 text, 0⟩ :=
    parseData_serializeData (by decide) (by omega) (by decide)
  rw [decodePayload, if_neg hlong, hparse]
  simp only [PortnumHandlers.dispatchPortnum_text, utf8DecodeReplace_utf8]

theorem decodePayload_of_parseData_none {bytes : Bytes} (h : parseData bytes = none) :
    (decodePayload pb bytes).decodedPayload = none := by
  unfold decodePayload
  rw [h]
  split <;> rfl

/-- **Build and decode.**  The frame of a text message decodes to that message and to
    the position of its key, when no earlier key decrypts the body to a parseable
    message and, for channel hash 0 and a frame to this node, neither does the PKI
    branch. -/
theorem decode_buildTextMessage (crypto : CryptoService) (ourNodeId : Option Nat) (text : String)
    (dest sourceId packetId hops channelHash extraNonce : Nat) (wantAck : Bool)
    (channelKey : Option AesKey) (signal : Option (SignalMetrics F)) (now : Int)
    {key : AesKey} {index : Nat} {frame : Bytes}
    (hlen : (utf8 text).length < 2 ^ 63) (hhops : 1 ≤ hops ∧ hops ≤ 7)
    (hkey : channelKey.or crypto.defaultKey = some key)
    (hindex : crypto.getAllKeys[index]? = some key)
    (hbuild : buildTextMessage prim crypto text dest sourceId packetId channelKey channelHash hops
      hops wantAck none extraNonce = some frame)
    (hearlier : ∀ j < index, ∀ other, crypto.getAllKeys[j]? = some other →
      parseData (CounterMode.ctr (prim.aesBlock other)
        (CryptoService.buildMeshtasticNonce packetId sourceId) (frame.drop 16)) = none)
    (hpki : channelHash = 0 → ourNodeId = some dest →
      (tryPki prim pb crypto (textHeader dest sourceId packetId hops wantAck channelHash)
        (frame.drop 16)).1.decodedPayload = none) :
    ∃ packet, (decode prim pb crypto ourNodeId frame signal none now).1 = some packet ∧
      IsTextMessage packet text dest sourceId packetId hops wantAck channelHash index := by
  obtain ⟨packed, hpacked, hframe⟩ := buildTextMessage_eq_some prim hkey hbuild
  have hsize : packed.length = MESHTASTIC_HEADER_SIZE := length_of_packHeader hpacked
  have hdrop : frame.drop MESHTASTIC_HEADER_SIZE = CounterMode.ctr (prim.aesBlock key)
      (CryptoService.buildMeshtasticNonce packetId sourceId)
      (serializeData PORTNUM_TEXT_MESSAGE (utf8 text) 0) := by
    rw [hframe, ← hsize, List.drop_left]
  have hheader : parseHeader (frame.take MESHTASTIC_HEADER_SIZE) =
      some (textHeader dest sourceId packetId hops wantAck channelHash) := by
    rw [hframe, ← hsize, List.take_left, parseHeader_packHeader hpacked (Nat.le_refl _),
      Nat.mod_eq_of_lt (by omega)]
    rfl
  -- the PKI branch is either not taken or reads nothing
  have hnoPki : (pkiAttempt prim pb crypto ourNodeId
      (textHeader dest sourceId packetId hops wantAck channelHash)
      (frame.drop MESHTASTIC_HEADER_SIZE)).1.decodedPayload = none := by
    unfold pkiAttempt
    split
    · rename_i hcond
      simp only [CryptoService.isPkiPacket, Bool.and_eq_true, decide_eq_true_eq] at hcond
      exact hpki hcond.1.1.1 hcond.1.1.2
    · rfl
  have hattempt : decodePayload pb (CounterMode.ctr (prim.aesBlock key)
      (CryptoService.buildMeshtasticNonce packetId sourceId)
      (frame.drop MESHTASTIC_HEADER_SIZE)) =
      { decodedPayload := some (Entries.ofList [("text", .str text)])
        packetType := .text
        rawAppPayload := bytesOrNone (utf8 text)
        requestId := 0 } := by
    rw [hdrop, CounterMode.ctr_ctr, decodePayload_text pb hlen]
  have htry := tryKeys_eq_of_getElem? pb 0
    (pkiAttempt prim pb crypto ourNodeId
      (textHeader dest sourceId packetId hops wantAck channelHash)
      (frame.drop MESHTASTIC_HEADER_SIZE)).1 hindex
    (fun j hj other hother => decodePayload_of_parseData_none pb (hearlier j hj other hother))
    (by
      change (decodePayload pb (CounterMode.ctr (prim.aesBlock key)
        (CryptoService.buildMeshtasticNonce packetId sourceId)
        (frame.drop MESHTASTIC_HEADER_SIZE))).decodedPayload.isSome = true
      rw [hattempt]
      rfl)
  have hlong : MESHTASTIC_HEADER_SIZE ≤ frame.length := by
    rw [hframe, List.length_append, hsize]
    omega
  refine ⟨_, decode_eq_of_tryKeys prim pb signal now hlong hheader hnoPki htry, ?_⟩
  rw [Nat.zero_add]
  change IsTextMessage (assemble frame _ (decodePayload pb (CounterMode.ctr (prim.aesBlock key)
    (CryptoService.buildMeshtasticNonce packetId sourceId) (frame.drop MESHTASTIC_HEADER_SIZE)))
    true (some index) none signal now) _ _ _ _ _ _ _ _
  rw [hattempt]
  exact ⟨rfl, rfl, rfl, rfl, rfl, rfl, rfl, rfl, rfl, rfl⟩

end

/-! ### Two messages of one station -/

/-- AES, X25519 and SHA-256 at the arguments the two messages need: the counter blocks
    of both channel keys, the shared secret of the two nodes and its CCM blocks. -/
def stationPrimitives : CryptoPrimitives :=
  let channel := MESHTASTIC_DEFAULT_PSK
  let hiking := ofHex "101112131415161718191a1b1c1d1e1f"
  let shared := ofHex "f260a8a0779be4cca2374f946500397453f229afa7fb5ee11f878c4f625ab4b1"
  .ofTable
    [(channel, ofHex "2a000000000000000100aaaa00000000", ofHex "40b14f2262c2aa64cfb13408cfa9d7e5"),
      (hiking, ofHex "2a000000000000000100aaaa00000000", ofHex "c451d46537e4b3402a5b86eb3eb32dde"),
      (channel, ofHex "fda60600000000000100aaaa00000000", ofHex "e276d37707211ddb816ec803339bd1e0"),
      (channel, ofHex "fda60600000000000100aaaa00000001", ofHex "c345edd463e93a1a81f647b1c213b50d"),
      (shared, ofHex "01fda60600f18eac320100aaaa000001", ofHex "f87371abf2208562219dfcef6b104174"),
      (shared, ofHex "19fda60600f18eac320100aaaa000006", ofHex "f0298aa7a4d52da10bd551fbf7d665a9"),
      (shared, ofHex "e22d3a7526a12da10bd551fbf7d665a9", ofHex "fe882b46988eeaa66ed4ac5ceb747cca"),
      (shared, ofHex "01fda60600f18eac320100aaaa000000", ofHex "a466e56162d5ba0d5cac3d90d040da8a")]
    [(ofHex "0102030405060708090a0b0c0d0e0f101112131415161718191a1b1c1d1e1f20",
      ofHex "5714769d116bf76436ae74bc793d2c30ad1903c59ac5273805c7e2698b410c36",
      ofHex "c9ea6a3f79a000b60b076d4afc990b272f3f0b5aaa3f0b8713c209273e363863")]
    [(ofHex "c9ea6a3f79a000b60b076d4afc990b272f3f0b5aaa3f0b8713c209273e363863", shared)]

/-- Node bbbb0002 with the default key, a second channel, its key pair and the public
    key of node aaaa0001. -/
def stationCrypto : CryptoService where
  defaultKey := some (ChannelKeys.expandKey [1])
  keys := OrderedDict.empty.set "Hiking"
    (ChannelKeys.expandKey (ofHex "101112131415161718191a1b1c1d1e1f"))
  privateKey := some (ofHex "0102030405060708090a0b0c0d0e0f101112131415161718191a1b1c1d1e1f20")
  publicKey := some (ofHex "07a37cbc142093c8b755dc1b10e86cb426374ad16aa853ed0bdfc0b2b86d1c7c")
  publicKeys := OrderedDict.empty.set 0xaaaa0001
    (ofHex "5714769d116bf76436ae74bc793d2c30ad1903c59ac5273805c7e2698b410c36")

def hikingKey : AesKey := ChannelKeys.expandKey (ofHex "101112131415161718191a1b1c1d1e1f")

def hikingFrame : Bytes :=
  (buildTextMessage stationPrimitives stationCrypto "meet at nine" 0xffffffff 0xaaaa0001 42
    (some hikingKey) 0x55 3 3 true none 0).get (by decide +kernel)

theorem hikingFrame_unreadable_before : ∀ j < 1, ∀ other,
    stationCrypto.getAllKeys[j]? = some other →
      parseData (CounterMode.ctr (stationPrimitives.aesBlock other)
        (CryptoService.buildMeshtasticNonce 42 0xaaaa0001) (hikingFrame.drop 16)) = none := by
  intro j hj other hother
  obtain rfl : j = 0 := by omega
  obtain rfl : ChannelKeys.expandKey [1] = other := by simpa [stationCrypto, KeyTable.getAllKeys]
    using hother
  decide +kernel

/-- A message on the second channel: the default key, tried first, does not read it. -/
theorem decode_buildTextMessage_hiking :
    ∃ packet, (decode stationPrimitives (default : PortnumHandlers.AppProtobuf WholeFloat)
        stationCrypto (some 0xbbbb0002) hikingFrame none none 0).1 = some packet ∧
      IsTextMessage packet "meet at nine" 0xffffffff 0xaaaa0001 42 3 true 0x55 1 :=
  decode_buildTextMessage stationPrimitives default stationCrypto (some 0xbbbb0002) "meet at nine"
    0xffffffff 0xaaaa0001 42 3 0x55 0 true (some hikingKey) none 0 (by decide +kernel) (by decide)
    rfl rfl (Option.some_get _).symm hikingFrame_unreadable_before (fun h => absurd h (by decide))

/-- The frame of a text on the default channel, built with hash 0 for this node. -/
def shadowedFrame : Bytes :=
  (buildTextMessage stationPrimitives stationCrypto "wuG5OI2Xc0 now" 0xbbbb0002 0xaaaa0001 435965
    none 0 3 3 false none 0).get (by decide +kernel)

/-- The body of that frame also authenticates as a direct message, and it is decoded as
    one, although its key is the first of the table. -/
theorem decode_buildTextMessage_pki_shadow :
    buildTextMessage stationPrimitives stationCrypto "wuG5OI2Xc0 now" 0xbbbb0002 0xaaaa0001 435965
        none 0 3 3 false none 0 = some shadowedFrame ∧
      stationCrypto.getAllKeys[0]? = stationCrypto.defaultKey ∧
      (decode stationPrimitives (default : PortnumHandlers.AppProtobuf WholeFloat) stationCrypto
        (some 0xbbbb0002) shadowedFrame none none 0).1.map
          (fun packet => (packet.packetType, packet.matchedChannelIndex)) =
        some (.unknown, none) := by
  refine ⟨(Option.some_get _).symm, rfl, ?_⟩
  decide +kernel

end Meshpoint.MeshtasticBuilder
