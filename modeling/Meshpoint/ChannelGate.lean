import Meshpoint.ChannelConfig
import Meshpoint.MeshtasticDecoder
import Meshpoint.MqttPublisher
import Meshpoint.SerialSource

/-!
# The channel gate of the MQTT publisher

Which channel a packet came in on is known where it is decoded: the position of
the key that decrypted it, or the stick's own channel table.  The publisher does
not look there; it derives a channel name from byte 13 of the frame, which is the
hash of whatever the sender stamped, 0 for direct messages, or the index of a
stick's channel.

`ArrivedOn` records both sides of a reception, the channel and the byte.  The
publisher keeps an unlisted channel's packet back exactly when the byte does not
designate a listed one, or when it has nothing to write for the packet anyway.
-/

namespace Meshpoint.ChannelGate

open ByteCodec MqttPublisher MqttFormatter MqttPrivacy ChannelResolver MeshtasticDecoder
  SerialSource

/-! ### Receptions -/

section

variable {F : Type} [PyFloat F] (prim : CryptoPrimitives) (pb : PortnumHandlers.AppProtobuf F)
  (portNumValue : String → Option Int) (config : ChannelConfig) (radio : RadioInfo)

/-- The packet was received on the channel called `name`, in a frame whose byte 13
    is `byte`. -/
inductive ArrivedOn (packet : Packet F) (name : String) (byte : Nat) : Prop
  /-- A frame that the key of a configured channel decrypted. -/
  | decrypted (crypto : CryptoService) (ourNodeId : Option Nat) (raw : Bytes)
      (signal : Option (SignalMetrics F)) (now : Int) (source : String) (decoded : Packet F)
      (index : Nat)
      (keys : config.setupChannelKeys = some crypto.toKeyTable)
      (decodes : (decode prim pb crypto ourNodeId raw signal none now).1 = some decoded)
      (channel : (decoded.matchedChannelIndex.bind
        (crypto.toKeyTable.channelName config.primaryChannelName)) = some name)
      (frame : byte = (raw.getD 13 0).toNat)
      (received : packet = { decoded with captureSource := source })
  /-- A packet that a stick decrypted, on the channel with that name in its table. -/
  | stick (crypto : CryptoService) (ourNodeId : Option Nat) (source : String)
      (dict : StickPacket F) (capture : RawCapture F) (pre : PreDecoded) (now : Int)
      (decoded : Packet F)
      (captured : packetToRawCapture portNumValue radio source dict = some capture)
      (parsed : capture.preDecoded = some pre)
      (decodes : (decode prim pb crypto ourNodeId capture.payload (some capture.signal)
        (some pre) now).1 = some decoded)
      (channel : radio.channelTable.get? (dict.channel.getD 0) = some name)
      (frame : byte = (capture.payload.getD 13 0).toNat)
      (received : packet = { decoded with captureSource := capture.captureSource })

theorem arrivedOn_channelHash {packet : Packet F} {name : String} {byte : Nat}
    (h : ArrivedOn prim pb portNumValue config radio packet name byte) :
    packet.protocol = .meshtastic ∧ packet.channelHash = byte := by
  cases h with
  | decrypted crypto ourNodeId raw signal now source decoded index keys decodes channel frame
      received =>
    subst received frame
    exact ⟨(decode_channelHash prim pb decodes).1, (decode_channelHash prim pb decodes).2⟩
  | stick crypto ourNodeId source dict capture pre now decoded captured parsed decodes channel
      frame received =>
    subst received frame
    exact ⟨(decode_channelHash prim pb decodes).1, (decode_channelHash prim pb decodes).2⟩

end

/-! ### What the byte designates -/

/-- The byte leads the publisher to a listed name: it is 0 and LongFast is listed, or
    the last known channel with this hash is listed, or the byte's own name is
    listed where no known channel has this hash. -/
def DesignatesListed (listed : String → Bool) (channelKeys : List (String × String))
    (byte : Nat) : Prop :=
  (byte = 0 ∧ listed "LongFast" = true) ∨
  (byte ≠ 0 ∧ ∃ earlier ch later, knownChannels channelKeys = earlier ++ ch :: later ∧
    xorHash ch.1 ch.2 = byte ∧ (∀ other ∈ later, xorHash other.1 other.2 ≠ byte) ∧
    listed ch.1 = true) ∨
  (byte ≠ 0 ∧ (∀ ch ∈ knownChannels channelKeys, xorHash ch.1 ch.2 ≠ byte) ∧
    listed ("ch" ++ toString byte) = true)

theorem find?_reverse_eq_some {α : Type} {test : α → Bool} {l : List α} {a : α} :
    l.reverse.find? test = some a ↔
      ∃ earlier later, l = earlier ++ a :: later ∧ test a = true ∧
        ∀ b ∈ later, test b = false := by
  rw [List.find?_eq_some_iff_append]
  constructor
  · rintro ⟨ha, after, before, hl, hafter⟩
    refine ⟨before.reverse, after.reverse, ?_, ha, ?_⟩
    · rw [← List.reverse_reverse l, hl]
      simp
    · intro b hb
      simpa using hafter b (List.mem_reverse.mp hb)
  · rintro ⟨earlier, later, rfl, ha, hlater⟩
    refine ⟨ha, later.reverse, earlier.reverse, by simp, ?_⟩
    intro b hb
    simpa using hlater b (List.mem_reverse.mp hb)

theorem designatesListed_iff (listed : String → Bool) (channelKeys : List (String × String))
    (byte : Nat) :
    DesignatesListed listed channelKeys byte ↔ listed (nameOfHash channelKeys byte) = true := by
  unfold DesignatesListed nameOfHash
  by_cases hzero : byte = 0
  · simp [hzero]
  · rw [if_neg hzero]
    simp only [hzero, false_and, false_or, ne_eq, not_false_eq_true, true_and]
    cases hfind : (knownChannels channelKeys).reverse.find? fun ch =>
        decide (xorHash ch.1 ch.2 = byte) with
    | none =>
      have hnone : ∀ ch ∈ knownChannels channelKeys, xorHash ch.1 ch.2 ≠ byte := by
        simpa using hfind
      constructor
      · rintro (⟨earlier, ch, later, hl, hch, -, -⟩ | ⟨-, h⟩)
        · exact absurd hch (hnone ch (by simp [hl]))
        · exact h
      · intro h
        exact Or.inr ⟨hnone, h⟩
    | some found =>
      obtain ⟨earlier, later, hl, hfound, hlater⟩ := find?_reverse_eq_some.mp hfind
      simp only [decide_eq_true_eq, decide_eq_false_iff_not] at hfound hlater
      constructor
      · rintro (⟨earlier', ch, later', hl', hch, hlater', h⟩ | ⟨hnone, -⟩)
        · have hagain : (knownChannels channelKeys).reverse.find? (fun c =>
              decide (xorHash c.1 c.2 = byte)) = some ch :=
            find?_reverse_eq_some.mpr ⟨earlier', later', hl', by simpa using hch,
              by simpa using hlater'⟩
          rw [hfind, Option.some.injEq] at hagain
          exact hagain ▸ h
        · exact absurd hfound (hnone found (by simp [hl]))
      · intro h
        exact Or.inl ⟨earlier, found, later, hl, hfound, hlater, h⟩

/-! ### When the publisher writes -/

section

variable {F : Type} [PyFloat F] (rt : Runtime F) (delivered : PublishCall → Bool)

/-- The discovery clears the retained position of the packet's sender. -/
def clearsPosition (pub : Publisher) (prepared : Packet F) : Prop :=
  pub.announced.isSome ∧ (prepared.packetType = .position ∧ hasCoordinates prepared = false) ∧
    prepared.sourceId ≠ ""

instance (pub : Publisher) (prepared : Packet F) : Decidable (clearsPosition pub prepared) :=
  inferInstanceAs (Decidable (_ ∧ _))

/-- Something is written for a packet behind the gates: a message of a formatter, or
    the empty position that clears a retained one. -/
def hasOutput (pub : Publisher) (packet : Packet F) : Bool :=
  match preparePacket packet pub.config.locationPrecision with
  | none => false
  | some prepared =>
    match formatPacket rt pub prepared with
    | none => false
    | some messages => !messages.isEmpty || clearsPosition pub prepared

/-- Every condition of publishing except the channel gate. -/
def publishable (pub : Publisher) (packet : Packet F) : Bool :=
  pub.connected && eligible rt pub packet && hasOutput rt pub packet

theorem publishPrepared_calls {pub : Publisher} {prepared : Packet F}
    {messages : List MqttMessage} (h : formatPacket rt pub prepared = some messages) :
    (publishPrepared rt delivered pub prepared).2.1 ≠ [] ↔
      (!messages.isEmpty || decide (clearsPosition pub prepared)) = true := by
  unfold publishPrepared
  rw [h]
  cases messages with
  | cons m rest => simp
  | nil =>
    -- without a message nothing counts as published, and only the clearing is left
    simp only [List.isEmpty_nil, Bool.not_true, Bool.false_or, decide_eq_true_eq]
    unfold discoveryOutputs clearsPosition
    cases pub.announced with
    | none => simp
    | some announced =>
      by_cases hclear : prepared.packetType = .position ∧ hasCoordinates prepared = false
      · by_cases hsource : prepared.sourceId = "" <;> simp [hclear, clearPosition, hsource]
      · simp [hclear]

theorem publish_calls_ne_nil (pub : Publisher) (packet : Packet F) :
    (publish rt delivered pub packet).2.1 ≠ [] ↔
      publishable rt pub packet = true ∧
        channelAllowed rt pub (resolveChannelName pub packet) = true := by
  unfold publish publishable passesSafetyGates
  cases pub.connected with
  | false => simp
  | true =>
    cases eligible rt pub packet with
    | false => simp
    | true =>
      cases channelAllowed rt pub (resolveChannelName pub packet) with
      | false => simp
      | true =>
        unfold hasOutput
        cases preparePacket packet pub.config.locationPrecision with
        | none => simp
        | some prepared =>
          cases hformat : formatPacket rt pub prepared with
          | none => simp [publishPrepared, hformat]
          | some messages =>
            simpa [hformat] using publishPrepared_calls rt delivered hformat

end

/-! ### The gate -/

section

variable {F : Type} [PyFloat F] (prim : CryptoPrimitives) (pb : PortnumHandlers.AppProtobuf F)
  (portNumValue : String → Option Int) (config : ChannelConfig) (radio : RadioInfo)
  (rt : Runtime F) (delivered : PublishCall → Bool)

/-- **When the gate keeps to the list.**  A packet that arrived on a channel is
    published only if the channel is listed, exactly when the channel is listed, or
    byte 13 of the frame designates no listed channel, or the packet is not published
    for another reason. -/
theorem publish_only_listed_iff {packet : Packet F} {name : String} {byte : Nat}
    (pub : Publisher)
    (hresolver : pub.topics.hashToName = ChannelResolver.create config.meshtasticKeys.items)
    (h : ArrivedOn prim pb portNumValue config radio packet name byte) :
    ((publish rt delivered pub packet).2.1 ≠ [] → channelAllowed rt pub name = true) ↔
      (channelAllowed rt pub name = true ∨
        ¬ DesignatesListed (channelAllowed rt pub) config.meshtasticKeys.items byte ∨
        publishable rt pub packet = false) := by
  obtain ⟨hprotocol, hhash⟩ := arrivedOn_channelHash prim pb portNumValue config radio h
  have hname : resolveChannelName pub packet = nameOfHash config.meshtasticKeys.items byte := by
    rw [resolveChannelName, hresolver, hprotocol, hhash, resolve_eq]
  rw [publish_calls_ne_nil, hname, designatesListed_iff]
  cases channelAllowed rt pub name <;> cases publishable rt pub packet <;>
    cases channelAllowed rt pub (nameOfHash config.meshtasticKeys.items byte) <;> decide

end

/-! ### A stick whose primary channel is private -/

def defaultConfig : ChannelConfig := ⟨"AQ==", "LongFast", .empty, .empty⟩

/-- A connected publisher of LongFast with the JSON mirror. -/
def longFastPublisher : Publisher where
  config := ⟨true, ["LongFast"], true, "exact"⟩
  topics := ⟨"msh/EU", "!a1b2c3d4", ChannelResolver.create []⟩
  connected := true
  announced := none

def rangeTestPortnum (name : String) : Option Int :=
  if name = "RANGE_TEST_APP" then some 66 else none

def stickWithPrimary (name : String) : RadioInfo := ⟨none, OrderedDict.empty.set 0 name⟩

/-- A range test the stick decrypted on its primary channel: the library leaves the
    channel index 0 out. -/
def rangeTestPacket : StickPacket WholeFloat where
  source := some 0xaaaa0001
  dest := some 0xffffffff
  id := some 42
  decoded := some ⟨some "RANGE_TEST_APP", some "c2VxIDc=", none⟩
  rxRssi := ⟨-90⟩
  rxSnr := ⟨7⟩

/-- The frame in which a station on LongFast sends the same range test. -/
def rangeTestFrame : Bytes :=
  leBytes 4 0xffffffff ++ leBytes 4 0xaaaa0001 ++ leBytes 4 42 ++ [0x63, 0x08, 0, 0] ++
    [0x48, 0xF3, 0x5D, 0x27, 0x11, 0xA7, 0xDB, 0x44, 0xF8]

/-- AES under the default key at the one counter block that frame needs. -/
def rangeTestPrimitives : CryptoPrimitives :=
  .ofTable [(MESHTASTIC_DEFAULT_PSK, [0x2A, 0, 0, 0, 0, 0, 0, 0, 1, 0, 0xAA, 0xAA, 0, 0, 0, 0],
    [0x40, 0xB1, 0x4F, 0x22, 0x62, 0xC2, 0xAA, 0x64, 0xCF, 0xB1, 0x34, 0x08, 0xCF, 0xA9, 0xD7, 0xE5])] [] []

def defaultCrypto : CryptoService where
  toKeyTable := defaultConfig.setupChannelKeys.get (by decide +kernel)

def rangeTestReceived : Packet WholeFloat :=
  (decode rangeTestPrimitives default defaultCrypto none rangeTestFrame none none 0).1.get
    (by decide +kernel)

theorem rangeTestReceived_arrivedOn :
    ArrivedOn rangeTestPrimitives default rangeTestPortnum defaultConfig
      (stickWithPrimary "Private") { rangeTestReceived with captureSource := "concentrator" }
      "LongFast" 8 :=
  .decrypted defaultCrypto none rangeTestFrame none 0 "concentrator" rangeTestReceived 0
    (by simp [defaultCrypto]) (Option.some_get _).symm (by decide +kernel) (by decide +kernel) rfl

/-- A range test decrypted with the key of the listed primary channel is published. -/
theorem publish_only_listed_iff_longFast :
    (publish (asciiRuntime WholeFloat) (fun _ => true) longFastPublisher
        { rangeTestReceived with captureSource := "concentrator" }).2.1 ≠ [] ∧
      channelAllowed (asciiRuntime WholeFloat) longFastPublisher "LongFast" = true :=
  have hcalls : (publish (asciiRuntime WholeFloat) (fun _ => true) longFastPublisher
      { rangeTestReceived with captureSource := "concentrator" }).2.1 ≠ [] := by decide +kernel
  ⟨hcalls, (publish_only_listed_iff rangeTestPrimitives default rangeTestPortnum defaultConfig
    (stickWithPrimary "Private") (asciiRuntime WholeFloat) (fun _ => true) longFastPublisher rfl
    rangeTestReceived_arrivedOn).mpr (Or.inl (by decide +kernel)) hcalls⟩

/-- The range test of a private channel is published under LongFast: the stick's
    channel index 0 stands in the hash byte. -/
theorem private_stick_packet_published :
    ∃ packet, ArrivedOn rangeTestPrimitives default rangeTestPortnum defaultConfig
        (stickWithPrimary "Private") packet "Private" 0 ∧
      (publish (asciiRuntime WholeFloat) (fun _ => true) longFastPublisher packet).2.1 ≠ [] ∧
      channelAllowed (asciiRuntime WholeFloat) longFastPublisher "Private" = false := by
  refine ⟨_, .stick defaultCrypto none "serial" rangeTestPacket _ _ 0 _ rfl rfl rfl rfl rfl rfl,
    ?_, ?_⟩
  · decide +kernel
  · decide +kernel

end Meshpoint.ChannelGate
