import Meshpoint.CapturePipeline
import Meshpoint.RelayManager
import Meshpoint.TextSending

/-!
# Relaying through the onboard radio

Model of `send_raw_relay` (`src/transmit/tx_service.py`) and of the relay callback
`_native_relay` (`src/api/server.py`).

A frame the concentrator received is sent on verbatim with one hop less.  A USB
stick hands over a dictionary instead of its frame, and the frame is rebuilt from
it; `reconstructRaw_eq_iff` says for which frames that gives the received bytes
back.
-/

namespace Meshpoint.NativeRelay

open ByteCodec MeshtasticHeader SerialSource TextSending CapturePipeline

/-! ### The rewritten frame -/

def HAL_PAYLOAD_SIZE : Nat := 256

def decrementHops (flags : UInt8) : UInt8 := (flags &&& ~~~0x07) ||| ((flags &&& 0x07) - 1)

/-- `send_raw_relay` up to the radio: the frame that is transmitted, or the error. -/
def sendRawRelay (tx : TxService) (withinBudget : Bool) (raw : Bytes) : Except String Bytes :=
  if (tx.enabled && tx.hasWrapper) = false then .error "Meshtastic TX not available"
  else if raw.length < MESHTASTIC_HEADER_SIZE then
    .error "Packet too short (need full 16-byte header)"
  else if raw.getD 12 0 &&& 0x07 = 0 then .error "Packet has no hops remaining"
  else if withinBudget = false then .error "Duty cycle limit reached"
  else .ok ((raw.set 12 (decrementHops (raw.getD 12 0))).take HAL_PAYLOAD_SIZE)

/-- `frame` is `air` with a hop limit one less, byte for byte. -/
structure IsRelayOf (frame air : Bytes) : Prop where
  header : MESHTASTIC_HEADER_SIZE ≤ air.length
  length : frame.length = air.length
  bytes : ∀ i, i ≠ 12 → frame[i]? = air[i]?
  flags : (frame.getD 12 0).toNat / 8 = (air.getD 12 0).toNat / 8
  hops : (frame.getD 12 0).toNat % 8 + 1 = (air.getD 12 0).toNat % 8

theorem decrementHops_spec : ∀ n < 256, UInt8.ofNat n &&& 0x07 ≠ 0 →
    (decrementHops (UInt8.ofNat n)).toNat / 8 = n / 8 ∧
      (decrementHops (UInt8.ofNat n)).toNat % 8 + 1 = n % 8 := by
  decide +kernel

theorem isRelayOf_sendRawRelay {tx : TxService} {withinBudget : Bool} {raw frame : Bytes}
    (hlen : raw.length ≤ HAL_PAYLOAD_SIZE)
    (h : sendRawRelay tx withinBudget raw = .ok frame) : IsRelayOf frame raw := by
  unfold sendRawRelay at h
  split at h
  · cases h
  · split at h
    · cases h
    · rename_i hheader
      split at h
      · cases h
      · rename_i hhops
        split at h
        · cases h
        · obtain rfl := Except.ok.inj h
          have htake : (raw.set 12 (decrementHops (raw.getD 12 0))).take HAL_PAYLOAD_SIZE =
              raw.set 12 (decrementHops (raw.getD 12 0)) :=
            List.take_of_length_le (by simpa using hlen)
          have hlt : 12 < raw.length := by
            unfold MESHTASTIC_HEADER_SIZE at hheader
            omega
          have hbyte : (raw.set 12 (decrementHops (raw.getD 12 0))).getD 12 0 =
              decrementHops (raw.getD 12 0) := by
            simp [List.getD_eq_getElem?_getD, hlt]
          obtain ⟨hflags, hdec⟩ := decrementHops_spec (raw.getD 12 0).toNat
            (raw.getD 12 0).toNat_lt (by rwa [UInt8.ofNat_toNat])
          rw [UInt8.ofNat_toNat] at hflags hdec
          rw [htake]
          refine ⟨by omega, by simp, ?_, ?_, ?_⟩
          · intro i hi
            rw [List.getElem?_set_ne (Ne.symm hi)]
          · rw [hbyte, hflags]
          · rw [hbyte, hdec]

/-- `_native_relay`: the frame it transmits. -/
def nativeRelay {F : Type} (tx : TxService) (withinBudget : Bool) (packet : Packet F) :
    Option Bytes :=
  if packet.protocol ≠ .meshtastic then none
  else
    match packet.rawRadioPacket with
    | none => none
    | some [] => none
    | some raw => (sendRawRelay tx withinBudget raw).toOption

/-! ### What a stick hands over -/

/-- A number in a packet dictionary: zero is left out. -/
def present (n : Nat) : Option Nat := if n = 0 then none else some n

def wordAt (air : Bytes) (i : Nat) : Nat := leValue ((air.drop i).take 4)

def flagsOf (air : Bytes) : Nat := (air.getD 12 0).toNat

/-- `packet` is the dictionary of a stick that received `air`: the ids and flags of the
    header, with defaults left out, and either the ciphertext and the hash, or what the
    stick itself decoded. -/
structure Delivers {F : Type} (air : Bytes) (packet : StickPacket F) : Prop where
  length : MESHTASTIC_HEADER_SIZE < air.length
  raw : packet.raw = .other
  dest : packet.dest = present (wordAt air 0)
  source : packet.source = present (wordAt air 4)
  id : packet.id = present (wordAt air 8)
  hopLimit : packet.hopLimit = present (flagsOf air % 8)
  hopStart : packet.hopStart = present (flagsOf air / 32)
  wantAck : packet.wantAck = if flagsOf air / 8 % 2 = 1 then some true else none
  undecoded : packet.decoded = none →
    packet.channel = present (air.getD 13 0).toNat ∧
      packet.encrypted = some (.base64 (b64encode (air.drop MESHTASTIC_HEADER_SIZE)))
  decoded : packet.decoded ≠ none → packet.encrypted = none

/-- Frames whose header a dictionary determines: no field that is left out has another
    default, and the bits and bytes without a field are zero. -/
structure Reproducible (air : Bytes) : Prop where
  dest : wordAt air 0 ≠ 0
  hopLimit : flagsOf air % 8 ≠ 0
  hopStart : flagsOf air / 32 ≠ 0
  viaMqtt : flagsOf air / 16 % 2 = 0
  nextHop : air.getD 14 0 = 0
  relayNode : air.getD 15 0 = 0

theorem getD_present {n : Nat} (default : Nat) (h : n ≠ 0 ∨ default = 0) :
    (present n).getD default = n := by
  unfold present
  split
  · rename_i hzero
    simp only [Option.getD_none, hzero]
    exact h.resolve_left (by simp [hzero])
  · rfl

theorem header_append_body {air : Bytes} (h : MESHTASTIC_HEADER_SIZE ≤ air.length) :
    leBytes 4 (wordAt air 0) ++ leBytes 4 (wordAt air 4) ++ leBytes 4 (wordAt air 8) ++
      [air.getD 12 0, air.getD 13 0, air.getD 14 0, air.getD 15 0] ++
      air.drop MESHTASTIC_HEADER_SIZE = air := by
  unfold MESHTASTIC_HEADER_SIZE at h ⊢
  have hword : ∀ i, i + 4 ≤ air.length → leBytes 4 (wordAt air i) = (air.drop i).take 4 := by
    intro i hi
    have hlen : ((air.drop i).take 4).length = 4 := by
      simp
      omega
    have hword := leBytes_leValue ((air.drop i).take 4)
    rwa [hlen] at hword
  have hlast : [air.getD 12 0, air.getD 13 0, air.getD 14 0, air.getD 15 0] =
      (air.drop 12).take 4 := by
    rw [List.drop_eq_getElem_cons (by omega), List.drop_eq_getElem_cons (by omega),
      List.drop_eq_getElem_cons (by omega), List.drop_eq_getElem_cons (by omega)]
    simp only [List.take_succ_cons, List.take_zero, List.getD_eq_getElem?_getD]
    rw [List.getElem?_eq_getElem, List.getElem?_eq_getElem, List.getElem?_eq_getElem,
      List.getElem?_eq_getElem]
    rfl
  rw [hword 0 (by omega), hword 4 (by omega), hword 8 (by omega), hlast, List.drop_zero,
    ← List.take_add, ← List.take_add, ← List.take_add]
  exact List.take_append_drop 16 air

theorem flagsByte_flagsOf {air : Bytes} (h : flagsOf air / 16 % 2 = 0) :
    flagsByte (flagsOf air % 8) (flagsOf air / 32) (flagsOf air / 8 % 2 = 1) false =
      flagsOf air := by
  have hlt : flagsOf air < 256 := (air.getD 12 0).toNat_lt
  unfold flagsByte
  by_cases hack : flagsOf air / 8 % 2 = 1
  · simp only [hack, decide_true, if_true, Bool.false_eq_true, if_false]
    omega
  · simp only [hack, decide_false, if_false, Bool.false_eq_true]
    omega

theorem reconstructRaw_fields {F : Type} {packet : StickPacket F} {raw : Bytes}
    (h : reconstructRaw packet = some raw) :
    wordAt raw 0 = packet.dest.getD 0xFFFFFFFF ∧
      flagsOf raw = flagsByte (packet.hopLimit.getD 3) (packet.hopStart.getD 3)
        (packet.wantAck.getD false) false ∧
      raw.getD 14 0 = 0 ∧ raw.getD 15 0 = 0 ∧
      (packet.encrypted = none → raw.length = MESHTASTIC_HEADER_SIZE) := by
  obtain ⟨header, encoded, hheader, hencoded, rfl⟩ := reconstructRaw_eq_some h
  have hlen := length_of_packHeader hheader
  obtain ⟨⟨hdest, -, -⟩, -, rfl⟩ := packHeader_eq_some hheader
  have hword : wordAt (leBytes 4 (packet.dest.getD 0xFFFFFFFF) ++
      leBytes 4 (packet.source.getD 0) ++ leBytes 4 (packet.id.getD 0) ++
      [UInt8.ofNat (flagsByte (packet.hopLimit.getD 3) (packet.hopStart.getD 3)
        (packet.wantAck.getD false) false), UInt8.ofNat (packet.channel.getD 0), 0, 0] ++
      encoded) 0 = leValue (leBytes 4 (packet.dest.getD 0xFFFFFFFF)) := rfl
  refine ⟨hword.trans (leValue_leBytes hdest), toNat_ofNat_of_lt (flagsByte_lt _ _ _ _), rfl, rfl, ?_⟩
  intro hnone
  obtain rfl : encoded = [] := by
    rw [encryptedBytes, hnone] at hencoded
    exact (Option.some.inj hencoded).symm
  rw [List.append_nil, hlen]

/-- **Rebuilt frames.**  The frame rebuilt from a stick's dictionary is the received one
    exactly when the stick did not decode it and its header is reproducible. -/
theorem reconstructRaw_eq_iff {F : Type} {air : Bytes} {packet : StickPacket F}
    (h : Delivers air packet) :
    reconstructRaw packet = some air ↔ packet.decoded = none ∧ Reproducible air := by
  constructor
  · intro hraw
    obtain ⟨hdest, hflags, h14, h15, hbody⟩ := reconstructRaw_fields hraw
    obtain ⟨hlimit, hstart, -, hmqtt⟩ := flagsByte_fields (packet.hopLimit.getD 3)
      (packet.hopStart.getD 3) (packet.wantAck.getD false) false
    rw [← hflags] at hlimit hstart hmqtt
    refine ⟨?_, ?_, ?_, ?_, ?_, h14, h15⟩
    · by_contra hdecoded
      have hlen := hbody (h.decoded hdecoded)
      have hlt := h.length
      omega
    · intro hzero
      rw [h.dest, hzero] at hdest
      cases hdest
    · intro hzero
      rw [h.hopLimit, hzero] at hlimit
      cases hlimit
    · intro hzero
      rw [h.hopStart, hzero] at hstart
      cases hstart
    · rw [decide_eq_false_iff_not] at hmqtt
      omega
  · rintro ⟨hdecoded, hrep⟩
    obtain ⟨hchannel, hencrypted⟩ := h.undecoded hdecoded
    have hencoded : encryptedBytes packet = some (air.drop MESHTASTIC_HEADER_SIZE) := by
      rw [encryptedBytes, hencrypted]
      exact b64decode_b64encode _
    have hack : packet.wantAck.getD false = decide (flagsOf air / 8 % 2 = 1) := by
      rw [h.wantAck]
      split <;> simp_all
    have hword : ∀ i, wordAt air i < 2 ^ 32 := fun i => leValue_take_lt (air.drop i) 4
    obtain ⟨header, hheader⟩ := packHeader_of_lt (hword 0) (hword 4) (hword 8)
      (air.getD 13 0).toNat_lt (flagsOf air % 8) (flagsOf air / 32) (flagsOf air / 8 % 2 = 1) false
    have hpacked := (packHeader_eq_some hheader).2.2
    rw [flagsByte_flagsOf hrep.viaMqtt] at hpacked
    unfold reconstructRaw
    rw [h.dest, h.source, h.id, h.hopLimit, h.hopStart, hchannel, hack, hencoded,
      getD_present _ (.inl hrep.dest), getD_present _ (.inr rfl), getD_present _ (.inr rfl),
      getD_present _ (.inl hrep.hopLimit), getD_present _ (.inl hrep.hopStart),
      getD_present _ (.inr rfl), hheader]
    have hair := header_append_body (Nat.le_of_lt h.length)
    rw [hrep.nextHop, hrep.relayNode] at hair
    rw [flagsOf, UInt8.ofNat_toNat, UInt8.ofNat_toNat] at hpacked
    rw [hpacked]
    exact congrArg some hair

end Meshpoint.NativeRelay
