import Meshpoint.MessageFiling
import Meshpoint.PkiMarker
import Meshpoint.RadioSettings

/-!
# How long a text may be

`POST /messages/send` counts the characters of a text, and the radio the bytes of its frame.
`fitsRadio_iff` gives the number of bytes up to which an accepted text fits into a frame, on a
channel and in a direct message.
-/

namespace Meshpoint.TextCapacity

open ByteCodec PyText ProtoWire MeshtasticHeader MeshtasticDecoder MeshtasticBuilder InboundReplies
  PkiMarker TextSending MessageFiling RadioSettings

def MAX_FRAME : Nat := 255

/-! ### The lengths -/

theorem length_encodeVarint {value : Nat} (h : value < 128 ^ 2) :
    (encodeVarint value).length = if value < 128 then 1 else 2 := by
  unfold encodeVarint
  cases value with
  | zero => rfl
  | succ n =>
    rw [encodeVarintFuel]
    by_cases hsmall : n + 1 < 128
    · rw [if_neg (by omega), if_pos hsmall]
      rfl
    · rw [if_pos (by omega), if_neg hsmall, List.length_cons]
      have hrest : (n + 1) / 128 < 128 := by omega
      cases n with
      | zero => omega
      | succ n =>
        rw [encodeVarintFuel, if_neg (by omega)]
        rfl

theorem length_serializeText {text : String} (h : (utf8 text).length < 128 ^ 2) :
    (serializeData PORTNUM_TEXT_MESSAGE (utf8 text) 0).length =
      (utf8 text).length + if (utf8 text).length < 128 then 4 else 5 := by
  have hport : encodeVarint PORTNUM_TEXT_MESSAGE = [1] := by decide
  simp only [serializeData, hport, if_true, List.append_nil, List.length_cons, List.length_append,
    List.length_nil, length_encodeVarint h]
  split
  · omega
  · omega

theorem length_utf8_le (text : String) : (utf8 text).length ≤ 4 * text.length := by
  have hchars : ∀ cs : List Char, (utf8Chars cs).length ≤ 4 * cs.length := by
    intro cs
    induction cs with
    | nil => exact Nat.le_refl _
    | cons c cs ih =>
      have hc : (String.utf8EncodeChar c).length ≤ 4 := by
        rw [String.length_utf8EncodeChar]
        exact c.utf8Size_le_four
      simp only [utf8Chars, List.flatMap_cons, List.length_append, List.length_cons] at ih ⊢
      omega
  exact hchars text.toList

/-! ### The property -/

section

variable {F : Type} [RadioFloat F] (py : Casing) (prim : CryptoPrimitives) (tx : TxService)
  (req : SendRequest) (draws : Draws)

/-- What the text builder is told for a request to a node. -/
def textArgs (node : Nat) : FrameArgs where
  dest := node
  sourceId := tx.sourceNodeId
  packetId := draws.packetId
  channelKey := (tx.resolveChannelIndex req.channel).2
  channelHash := TxService.stampedHash (tx.resolveChannelIndex req.channel).1 req.echoHash
  hopLimit := tx.hopLimit
  hopStart := tx.hopLimit
  wantAck := req.wantAck
  recipientPublicKey :=
    if node = BROADCAST_ADDR then none else (tx.crypto.lookupPublicKey node).1

def requestFrame : Option Bytes :=
  tx.buildFrame prim req.text (resolveDestination py (.text req.destination)) req.channel
    req.wantAck req.echoHash draws

/-- The frame of a text fits, carries the whole text and is handed over whole. -/
structure FitsRadio (radio : RadioConfig F) (txPowerDbm : Int) (node : Nat) (frame : Bytes) :
    Prop where
  short : frame.length ≤ MAX_FRAME
  /-- The body is the encryption of a `Data` message with the text. -/
  whole : ∃ scheme inner data,
    (textArgs tx req draws node).encryption tx.crypto = some scheme ∧
      scheme.encrypt prim tx.crypto (textArgs tx req draws node) inner draws.extraNonce =
        some (frame.drop MESHTASTIC_HEADER_SIZE) ∧
      parseData inner = some data ∧ data.portnum = PORTNUM_TEXT_MESSAGE ∧
      utf8DecodeReplace data.payload = req.text
  packet : ∀ pkt, buildHalPacket radio txPowerDbm frame = some pkt →
    pkt.size = frame.length ∧ pkt.payload.take pkt.size = frame

/-- A direct message: the recipient's public key is known, and the service has a key pair. -/
def IsDirect (node : Nat) : Prop :=
  node ≠ BROADCAST_ADDR ∧ (∃ key, (tx.crypto.lookupPublicKey node).1 = some key ∧ key ≠ []) ∧
    tx.crypto.hasPki = true

/-! ### Frames of texts -/

variable {py prim tx req draws}

theorem exists_framed_of_request {dest : Int} {frame : Bytes}
    (h : tx.buildFrame prim req.text dest req.channel req.wantAck req.echoHash draws =
      some frame) :
    ∃ node : Nat, dest = node ∧ ∃ scheme,
      Framed prim tx.crypto (textArgs tx req draws node) draws.extraNonce frame
        (serializeData PORTNUM_TEXT_MESSAGE (utf8 req.text) 0) scheme := by
  cases dest with
  | negSucc n => cases h
  | ofNat node =>
    exact ⟨node, rfl, exists_framed_of_buildFrame (serializeData_ne_nil _ _ _) h⟩

theorem isPki_iff_isDirect {node : Nat} {scheme : Encryption}
    (h : (textArgs tx req draws node).encryption tx.crypto = some scheme) :
    IsPki scheme ↔ IsDirect tx node := by
  rw [isPki_iff h]
  unfold HasRecipient IsDirect textArgs
  constructor
  · rintro ⟨⟨key, hkey, hne⟩, hdest, hpair⟩
    rw [if_neg hdest] at hkey
    exact ⟨hdest, ⟨key, hkey, hne⟩, hpair⟩
  · rintro ⟨hdest, ⟨key, hkey, hne⟩, hpair⟩
    exact ⟨⟨key, (if_neg hdest).trans hkey, hne⟩, hdest, hpair⟩

theorem parse_serializeText {text : String} (h : (utf8 text).length < 128 ^ 2) :
    ∃ data, parseData (serializeData PORTNUM_TEXT_MESSAGE (utf8 text) 0) = some data ∧
      data.portnum = PORTNUM_TEXT_MESSAGE ∧ utf8DecodeReplace data.payload = text :=
  ⟨_, parseData_serializeData (by decide) (by omega) (by decide), rfl, utf8DecodeReplace_utf8 text⟩

theorem fields_of_buildHalPacket {radio : RadioConfig F} {txPowerDbm : Int} {frame : Bytes}
    {pkt : HalPacket} (h : buildHalPacket radio txPowerDbm frame = some pkt) :
    pkt.size = frame.length % 2 ^ 16 ∧ pkt.payload = frame.take 256 := by
  simp only [buildHalPacket, Option.bind_eq_bind, Option.bind_eq_some_iff] at h
  obtain ⟨freqHz, _, bandwidth, _, hpkt⟩ := h
  obtain rfl := Option.some.inj hpkt
  exact ⟨rfl, rfl⟩

theorem packet_of_short {radio : RadioConfig F} {txPowerDbm : Int} {frame : Bytes}
    {pkt : HalPacket} (hshort : frame.length ≤ 256)
    (h : buildHalPacket radio txPowerDbm frame = some pkt) :
    pkt.size = frame.length ∧ pkt.payload.take pkt.size = frame := by
  obtain ⟨hsize, hpayload⟩ := fields_of_buildHalPacket h
  rw [Nat.mod_eq_of_lt (by omega)] at hsize
  rw [hsize, hpayload, List.take_of_length_le hshort, List.take_length]
  exact ⟨rfl, rfl⟩

theorem length_of_accepted {result : List Outgoing × String}
    (h : sendMessage py prim tx req draws = .ok result) : req.text.length ≤ 228 := by
  unfold sendMessage at h
  split at h
  · cases h
  · split at h
    · cases h
    · omega

/-- **Texts that fit.**  The frame of an accepted text fits the radio, decodes to the whole text
    and is handed over whole exactly when the text has at most 222 bytes, or 234 where it is not
    a direct message. -/
theorem fitsRadio_iff {result : List Outgoing × String} {frame : Bytes} {node : Nat}
    (radio : RadioConfig F) (txPowerDbm : Int)
    (haccepted : sendMessage py prim tx req draws = .ok result)
    (hdest : resolveDestination py (.text req.destination) = node)
    (hframe : requestFrame py prim tx req draws = some frame) :
    FitsRadio prim tx req draws radio txPowerDbm node frame ↔
      (utf8 req.text).length ≤ 222 ∨ ¬ IsDirect tx node ∧ (utf8 req.text).length ≤ 234 := by
  obtain ⟨node', hdest', scheme, hframed⟩ := exists_framed_of_request hframe
  obtain rfl : node = node' := Int.ofNat.inj (hdest.symm.trans hdest')
  have hbytes : (utf8 req.text).length < 128 ^ 2 := by
    have hchars := length_of_accepted haccepted
    have hutf8 := length_utf8_le req.text
    omega
  have hinner := length_serializeText hbytes
  have hlength : frame.length ≤ MAX_FRAME ↔
      (utf8 req.text).length ≤ 222 ∨ ¬ IsDirect tx node ∧ (utf8 req.text).length ≤ 234 := by
    have hdirect := isPki_iff_isDirect hframed.encryption
    rw [MAX_FRAME, ← hdirect]
    cases scheme with
    | channel key =>
      have hnot : ¬ IsPki (.channel key) := fun ⟨recipientKey, heq⟩ => nomatch heq
      rw [length_of_channel hframed, hinner, MESHTASTIC_HEADER_SIZE]
      simp only [hnot, not_false_eq_true, true_and]
      split
      · omega
      · omega
    | pki key =>
      have hpki : IsPki (.pki key) := ⟨key, rfl⟩
      rw [length_of_isPki hframed hpki, hinner, MESHTASTIC_HEADER_SIZE, PkiCrypto.PKC_OVERHEAD]
      simp only [hpki, not_true_eq_false, false_and, or_false]
      split
      · omega
      · omega
  rw [← hlength]
  refine ⟨fun h => h.short, fun hshort => ⟨hshort, ?_, ?_⟩⟩
  · obtain ⟨data, hparse, hport, htext⟩ := parse_serializeText hbytes
    exact ⟨scheme, _, data, hframed.encryption, hframed.body, hparse, hport, htext⟩
  · intro pkt hpkt
    exact packet_of_short (hshort.trans (by decide)) hpkt

end

/-! ### A short text and one with accents -/

def euRadio : RadioConfig ℚ := ⟨"EU_868", 869525 / 1000, 11, 250, "4/5"⟩

def deskDraws : Draws := ⟨42, 0, true⟩

def answerFrame : Bytes :=
  (requestFrame .ascii deskPrimitives desk deskAnswer deskDraws).get (by decide +kernel)

theorem fitsRadio_answer :
    FitsRadio deskPrimitives desk deskAnswer deskDraws euRadio 14 0xaaaa0001 answerFrame := by
  have haccepted : sendMessage .ascii deskPrimitives desk deskAnswer deskDraws =
      .ok (_, deskAnswer.nodeId .ascii) :=
    (if_neg (by decide +kernel)).trans (if_neg (by decide +kernel))
  have hdest : resolveDestination .ascii (.text deskAnswer.destination) = (0xaaaa0001 : Nat) := by
    decide +kernel
  exact (fitsRadio_iff euRadio 14 haccepted hdest (Option.some_get _).symm).mpr
    (.inl (by decide +kernel))

def accents : SendRequest := { text := String.ofList (List.replicate 228 'é') }

/-- **A text of two-byte letters** is accepted, and its frame is longer than the radio sends: the
    packet names its length and has 256 bytes of it. -/
theorem accents_cut_off :
    (sendMessage .ascii deskPrimitives desk accents deskDraws).isOk = true ∧
      ∃ frame pkt, requestFrame .ascii deskPrimitives desk accents deskDraws = some frame ∧
        buildHalPacket euRadio 14 frame = some pkt ∧
        frame.length = 477 ∧ pkt.size = 477 ∧ pkt.payload.length = 256 ∧
        ¬ FitsRadio deskPrimitives desk accents deskDraws euRadio 14 0xffffffff frame := by
  have hchars : accents.text.toList = List.replicate 228 'é' := String.toList_ofList
  have hstrip : strip accents.text ≠ "" := by
    intro hempty
    have hnil := congrArg String.toList hempty
    rw [strip, stripWhere, hchars, String.toList_ofList] at hnil
    exact absurd hnil (by decide)
  have hcount : ¬ 228 < accents.text.length := by
    rw [← String.length_toList, hchars, List.length_replicate]
    exact Nat.lt_irrefl 228
  refine ⟨?_, ?_⟩
  · rw [sendMessage, if_neg hstrip, if_neg hcount]
    rfl
  have hkey : (desk.resolveChannelIndex 0).2.or desk.crypto.defaultKey =
      some (ChannelKeys.expandKey [1]) := by decide +kernel
  have hsome : (requestFrame .ascii deskPrimitives desk accents deskDraws).isSome = true :=
    buildTextMessage_isSome deskPrimitives hkey (by decide) (by decide) (by decide)
      (by decide +kernel) _ _ _ _ _
  obtain ⟨frame, hframe⟩ := Option.isSome_iff_exists.mp hsome
  obtain ⟨node, hdest, scheme, hframed⟩ := exists_framed_of_request hframe
  obtain rfl : (0xffffffff : Nat) = node := Int.ofNat.inj hdest
  have hscheme : (textArgs desk accents deskDraws 0xffffffff).encryption desk.crypto =
      some (.channel (ChannelKeys.expandKey [1])) := by decide +kernel
  obtain rfl := Option.some.inj (hframed.encryption.symm.trans hscheme)
  have hbytes : (utf8 accents.text).length = 456 := by
    rw [utf8, hchars]
    decide +kernel
  have hlength : frame.length = 477 := by
    rw [length_of_channel hframed, length_serializeText (by rw [hbytes]; decide), hbytes]
    rfl
  have hpacket : (buildHalPacket euRadio 14 frame).isSome = true := by
    unfold buildHalPacket
    rw [(by decide +kernel : RadioFloat.hertz euRadio.frequencyMhz = some 869525000),
      (by decide +kernel : RadioFloat.kilohertz euRadio.bandwidthKhz = some 250)]
    rfl
  obtain ⟨pkt, hpkt⟩ := Option.isSome_iff_exists.mp hpacket
  obtain ⟨hsize, hpayload⟩ := fields_of_buildHalPacket hpkt
  refine ⟨frame, pkt, hframe, hpkt, hlength, ?_, ?_, ?_⟩
  · rw [hsize, hlength]
    rfl
  · rw [hpayload, List.length_take, hlength]
    rfl
  · intro hfits
    have hshort := hfits.short
    rw [hlength] at hshort
    exact absurd hshort (by decide)

end Meshpoint.TextCapacity
