import Meshpoint.DutyCycle
import Meshpoint.NativeRelay

/-!
# The frame of a native relay and its airtime

Model of the whole of `send_raw_relay` (`src/transmit/tx_service.py`): the packet that is built
for the concentrator, the budget test, the call of the wrapper and the record of the airtime.
`NativeRelay.sendRawRelay` is its first part, up to the radio.
-/

namespace Meshpoint.RelayRewrite

open ByteCodec MeshtasticHeader TextSending NativeRelay DutyCycle

/-! ### The packet for the concentrator -/

/-- The fields of `LgwPktTxS` that depend on the bytes: a 16-bit size and a buffer. -/
structure LgwPktTx where
  size : Nat
  payload : Bytes
deriving DecidableEq

/-- `_build_hal_packet`. -/
def buildHalPacket (packetBytes : Bytes) : LgwPktTx where
  size := packetBytes.length % 2 ^ 16
  payload := packetBytes.take HAL_PAYLOAD_SIZE ++
    List.replicate (HAL_PAYLOAD_SIZE - packetBytes.length) 0

def LgwPktTx.onAir (pkt : LgwPktTx) : Bytes := pkt.payload.take pkt.size

/-! ### The send -/

/-- The service, the tracker if there is one, with the clocks, what the HAL says of the airtime
    of a packet, and what `send` of the wrapper returns; it raises when it is not started. -/
structure Station where
  tx : TxService
  duty : Option DutyCycleTracker
  now : ℚ
  time : ℚ
  airtimeMs : LgwPktTx → Nat
  send : LgwPktTx → Option Int

structure SendResult where
  success : Bool
  protocol : String := "meshtastic"
  timestamp : ℚ := 0
  error : String := ""
  airtimeMs : Nat := 0
deriving DecidableEq

/-- What a call does: the packet given to the wrapper, the airtime given to `record_tx`, and the
    result, or the exception of the wrapper. -/
structure Outcome where
  handed : Option LgwPktTx := none
  booked : Option Nat := none
  result : Option SendResult

/-- `check_budget`, where there is a tracker. -/
def withinBudget (station : Station) (airtimeMs : Nat) : Bool :=
  station.duty.all fun duty => (duty.checkBudget station.now airtimeMs).2

/-- `send_raw_relay`. -/
def sendRawRelay (station : Station) (raw : Bytes) : Outcome :=
  if (station.tx.enabled && station.tx.hasWrapper) = false then
    { result := some { success := false, error := "Meshtastic TX not available" } }
  else if raw.length < MESHTASTIC_HEADER_SIZE then
    { result := some
        { success := false, error := "Packet too short (need full 16-byte header)" } }
  else if raw.getD 12 0 &&& 0x07 = 0 then
    { result := some { success := false, error := "Packet has no hops remaining" } }
  else
    let pkt := buildHalPacket (raw.set 12 (decrementHops (raw.getD 12 0)))
    let airtimeMs := station.airtimeMs pkt
    if withinBudget station airtimeMs = false then
      { result := some
          { success := false, error := "Duty cycle limit reached", airtimeMs := airtimeMs } }
    else
      match station.send pkt with
      | none => { handed := some pkt, result := none }
      | some code =>
        if code = 0 then
          { handed := some pkt
            booked := station.duty.map fun _ => airtimeMs
            result := some { success := true, timestamp := station.time, airtimeMs := airtimeMs } }
        else
          { handed := some pkt
            result := some
              { success := false, error := "lgw_send returned " ++ toString code
                airtimeMs := airtimeMs } }

def Refused (station : Station) (raw : Bytes) : Prop :=
  (station.tx.enabled && station.tx.hasWrapper) = false ∨ raw.length < MESHTASTIC_HEADER_SIZE ∨
    raw.getD 12 0 &&& 0x07 = 0 ∨
    withinBudget station
      (station.airtimeMs (buildHalPacket (raw.set 12 (decrementHops (raw.getD 12 0))))) = false

instance (station : Station) (raw : Bytes) : Decidable (Refused station raw) :=
  inferInstanceAs (Decidable (_ ∨ _))

/-- The frame that goes out is the given one with one hop less: its header reads as the same but
    for the hop limit, and no other bit differs. -/
structure Rewritten (frame raw : Bytes) : Prop where
  relay : IsRelayOf frame raw
  header : ∃ header ∈ parseHeader raw,
    parseHeader frame = some { header with hopLimit := header.hopLimit - 1 }

/-! ### The header of the relayed frame -/

section

variable {frame raw : Bytes} {header : Header}

theorem getD_of_isRelayOf (h : IsRelayOf frame raw) {i : Nat} (hi : i ≠ 12) :
    frame.getD i 0 = raw.getD i 0 := by
  rw [List.getD_eq_getElem?_getD, List.getD_eq_getElem?_getD, h.bytes i hi]

theorem word_of_isRelayOf (h : IsRelayOf frame raw) {i : Nat} (hi : i + 4 ≤ 12) :
    (frame.drop i).take 4 = (raw.drop i).take 4 := by
  apply List.ext_getElem?
  intro j
  rw [List.getElem?_take, List.getElem?_take]
  split
  · rw [List.getElem?_drop, List.getElem?_drop]
    exact h.bytes (i + j) (by omega)
  · rfl

theorem body_of_isRelayOf (h : IsRelayOf frame raw) :
    frame.drop MESHTASTIC_HEADER_SIZE = raw.drop MESHTASTIC_HEADER_SIZE := by
  unfold MESHTASTIC_HEADER_SIZE
  apply List.ext_getElem?
  intro j
  rw [List.getElem?_drop, List.getElem?_drop]
  exact h.bytes (16 + j) (by omega)

theorem parseHeader_of_isRelayOf (h : IsRelayOf frame raw)
    (hheader : parseHeader raw = some header) :
    parseHeader frame = some { header with hopLimit := header.hopLimit - 1 } := by
  have hflags := h.flags
  have hhops := h.hops
  have hdest := word_of_isRelayOf h (i := 0) (by decide)
  have hsource := word_of_isRelayOf h (i := 4) (by decide)
  have hid := word_of_isRelayOf h (i := 8) (by decide)
  rw [List.drop_zero, List.drop_zero] at hdest
  have hstart : (frame.getD 12 0).toNat / 32 % 8 = (raw.getD 12 0).toNat / 32 % 8 := by omega
  have hack : (frame.getD 12 0).toNat / 8 % 2 = (raw.getD 12 0).toNat / 8 % 2 := by omega
  have hmqtt : (frame.getD 12 0).toNat / 16 % 2 = (raw.getD 12 0).toNat / 16 % 2 := by omega
  have hlimit : (frame.getD 12 0).toNat % 8 = (raw.getD 12 0).toNat % 8 - 1 := by omega
  unfold parseHeader at hheader ⊢
  simp only at hheader ⊢
  split at hheader
  · cases hheader
  · rename_i hvalid
    cases hheader
    rw [hstart, hack, hmqtt, hlimit, hdest, hsource, hid, getD_of_isRelayOf h (by decide),
      getD_of_isRelayOf h (by decide), if_neg (by omega)]

end

/-! ### One call -/

theorem onAir_buildHalPacket {bytes : Bytes} (h : bytes.length ≤ HAL_PAYLOAD_SIZE) :
    (buildHalPacket bytes).onAir = bytes := by
  have hsize : bytes.length % 2 ^ 16 = bytes.length := by
    unfold HAL_PAYLOAD_SIZE at h
    omega
  unfold LgwPktTx.onAir buildHalPacket
  simp only
  rw [hsize, List.take_of_length_le h, List.take_left]

theorem sendRawRelay_of_not_refused {station : Station} {raw : Bytes} (h : ¬ Refused station raw) :
    let pkt := buildHalPacket (raw.set 12 (decrementHops (raw.getD 12 0)))
    (sendRawRelay station raw).handed = some pkt ∧
      (sendRawRelay station raw).booked =
        if station.send pkt = some 0 then station.duty.map fun _ => station.airtimeMs pkt
        else none := by
  unfold Refused at h
  simp only [not_or] at h
  obtain ⟨htx, hlength, hhops, hbudget⟩ := h
  unfold sendRawRelay
  simp only [if_neg htx, if_neg hlength, if_neg hhops, if_neg hbudget]
  split
  · rename_i hsend
    rw [hsend]
    exact ⟨rfl, rfl⟩
  · rename_i code hsend
    rw [hsend]
    by_cases hcode : code = 0
    · simp [hcode]
    · simp [hcode]

theorem sendRawRelay_of_refused {station : Station} {raw : Bytes} (h : Refused station raw) :
    (sendRawRelay station raw).handed = none ∧ (sendRawRelay station raw).booked = none := by
  unfold sendRawRelay
  split
  · exact ⟨rfl, rfl⟩
  · rename_i htx
    split
    · exact ⟨rfl, rfl⟩
    · rename_i hlength
      split
      · exact ⟨rfl, rfl⟩
      · rename_i hhops
        have hbudget := ((h.resolve_left htx).resolve_left hlength).resolve_left hhops
        simp only
        rw [if_pos hbudget]
        exact ⟨rfl, rfl⟩

theorem isRelayOf_of_not_refused {station : Station} {raw : Bytes} (h : ¬ Refused station raw)
    (hlength : raw.length ≤ HAL_PAYLOAD_SIZE) :
    IsRelayOf (buildHalPacket (raw.set 12 (decrementHops (raw.getD 12 0)))).onAir raw := by
  unfold Refused at h
  simp only [not_or] at h
  obtain ⟨htx, hshort, hhops, -⟩ := h
  have hset : (raw.set 12 (decrementHops (raw.getD 12 0))).length ≤ HAL_PAYLOAD_SIZE := by
    rw [List.length_set]
    exact hlength
  have hsent : NativeRelay.sendRawRelay station.tx true raw =
      .ok (raw.set 12 (decrementHops (raw.getD 12 0))) := by
    unfold NativeRelay.sendRawRelay
    rw [if_neg htx, if_neg hshort, if_neg hhops, if_neg (by decide), List.take_of_length_le hset]
  rw [onAir_buildHalPacket hset]
  exact isRelayOf_sendRawRelay hlength hsent

/-- **The rewrite.**  A frame that fits the buffer and is not refused goes out with one hop less
    and no other change, and is booked when the concentrator takes it; whatever is refused is
    neither sent nor booked. -/
theorem sendRawRelay_spec (station : Station) (raw : Bytes) :
    (Refused station raw →
      (sendRawRelay station raw).handed = none ∧ (sendRawRelay station raw).booked = none) ∧
    (¬ Refused station raw → raw.length ≤ HAL_PAYLOAD_SIZE →
      ∃ pkt, (sendRawRelay station raw).handed = some pkt ∧ IsRelayOf pkt.onAir raw ∧
        pkt.onAir.drop MESHTASTIC_HEADER_SIZE = raw.drop MESHTASTIC_HEADER_SIZE ∧
        (∀ header ∈ parseHeader raw,
          parseHeader pkt.onAir = some { header with hopLimit := header.hopLimit - 1 }) ∧
        (sendRawRelay station raw).booked =
          if station.send pkt = some 0 then station.duty.map fun _ => station.airtimeMs pkt
          else none) := by
  refine ⟨sendRawRelay_of_refused, ?_⟩
  intro h hlength
  obtain ⟨hhanded, hbooked⟩ := sendRawRelay_of_not_refused h
  have hrelay := isRelayOf_of_not_refused h hlength
  exact ⟨_, hhanded, hrelay, body_of_isRelayOf hrelay,
    fun _ hheader => parseHeader_of_isRelayOf hrelay hheader, hbooked⟩

/-- A station with 36 s of airtime an hour, where every frame takes 120 ms and is taken. -/
def station : Station where
  tx :=
    { crypto := { defaultKey := none, keys := .empty, privateKey := none, publicKey := none
                  publicKeys := .empty }
      primaryChannelName := "LongFast", presetName := "LongFast", sourceNodeId := 0xbbbb0002
      hopLimit := 3, enabled := true, hasWrapper := true, meshcoreEnabled := false
      companions := [], sticks := [], latestCaptureSource := fun _ => none }
  duty := some (DutyCycleTracker.init "EU_868" none 3600 hour_pos)
  now := 0
  time := 0
  airtimeMs := fun _ => 120
  send := fun _ => some 0

/-- A broadcast with the given flags byte and body. -/
def broadcast (flags : UInt8) (body : Bytes) : Bytes :=
  ofHex "ffffffff78563412efbeadde" ++ [flags, 0x08, 0, 0] ++ body

theorem sendRawRelay_spec_broadcast :
    ¬ Refused station (broadcast 0x6b (ofHex "abababab")) ∧
      (∃ pkt, (sendRawRelay station (broadcast 0x6b (ofHex "abababab"))).handed = some pkt ∧
        pkt.onAir = broadcast 0x6a (ofHex "abababab") ∧
        IsRelayOf pkt.onAir (broadcast 0x6b (ofHex "abababab"))) ∧
      Refused station (broadcast 0x68 []) ∧
      (sendRawRelay station (broadcast 0x68 [])).handed = none := by
  have hrefused : ¬ Refused station (broadcast 0x6b (ofHex "abababab")) := by decide +kernel
  have hzero : Refused station (broadcast 0x68 []) := by decide +kernel
  refine ⟨hrefused, ?_, hzero, ((sendRawRelay_spec station _).1 hzero).1⟩
  obtain ⟨pkt, hhanded, hrelay, -⟩ :=
    (sendRawRelay_spec station _).2 hrefused (by decide +kernel)
  refine ⟨pkt, hhanded, ?_, hrelay⟩
  have hpkt : (sendRawRelay station (broadcast 0x6b (ofHex "abababab"))).handed.map
      LgwPktTx.onAir = some (broadcast 0x6a (ofHex "abababab")) := by decide +kernel
  rw [hhanded] at hpkt
  exact Option.some.inj hpkt

/-- A header with more hops left than at the start is no header, before and after; and of a frame
    that is longer than the buffer the rest does not go out. -/
theorem rewritten_fails :
    (¬ Refused station (broadcast 0x65 []) ∧ parseHeader (broadcast 0x65 []) = none ∧
      ∀ pkt ∈ (sendRawRelay station (broadcast 0x65 [])).handed,
        parseHeader pkt.onAir = none ∧ ¬ Rewritten pkt.onAir (broadcast 0x65 [])) ∧
    (¬ Refused station (broadcast 0x63 (List.replicate 241 0xab)) ∧
      ∀ pkt ∈ (sendRawRelay station (broadcast 0x63 (List.replicate 241 0xab))).handed,
        ¬ Rewritten pkt.onAir (broadcast 0x63 (List.replicate 241 0xab))) := by
  refine ⟨⟨by decide +kernel, by decide +kernel, ?_⟩, by decide +kernel, ?_⟩
  · intro pkt hpkt
    have hnone : (sendRawRelay station (broadcast 0x65 [])).handed.map
        (fun pkt => parseHeader pkt.onAir) = some none := by decide +kernel
    rw [hpkt] at hnone
    refine ⟨Option.some.inj hnone, ?_⟩
    rintro ⟨-, header, hheader, -⟩
    have hraw : parseHeader (broadcast 0x65 []) = none := by decide +kernel
    rw [hraw] at hheader
    cases hheader
  · intro pkt hpkt
    have hlength : (sendRawRelay station (broadcast 0x63 (List.replicate 241 0xab))).handed.map
        (fun pkt => pkt.onAir.length) = some 256 := by decide +kernel
    rw [hpkt] at hlength
    rintro ⟨hrelay, -⟩
    have hbuffer : pkt.onAir.length = 256 := Option.some.inj hlength
    have hsame := hrelay.length
    rw [hbuffer] at hsame
    revert hsame
    decide +kernel

end Meshpoint.RelayRewrite
