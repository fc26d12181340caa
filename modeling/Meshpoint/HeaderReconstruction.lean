import Meshpoint.NativeRelay

/-!
# Headers rebuilt from a stick's packets

What `_reconstruct_raw` (`src/capture/serial_source.py`) makes of the dictionary that
`MessageToDict` gives for a `MeshPacket`.  The dictionary leaves out what is zero or false, and
what it leaves out is filled with defaults that are not zero everywhere; `restores_iff` says for
which packets the header that is read back has the packet's fields.
-/

namespace Meshpoint.HeaderReconstruction

open ByteCodec MeshtasticHeader SerialSource NativeRelay

/-! ### The packet and its dictionary -/

/-- `payload_variant`. -/
inductive PayloadVariant where
  | unset
  | encrypted (bytes : Bytes)
  | decoded (data : DecodedField)
deriving DecidableEq, Repr

/-- The fields of `MeshPacket` that a received packet has. -/
structure MeshPacket (F : Type) where
  source : UInt32
  dest : UInt32
  channel : UInt32
  id : UInt32
  hopLimit : UInt32
  hopStart : UInt32
  wantAck : Bool
  viaMqtt : Bool
  payload : PayloadVariant
  rxRssi : F
  rxSnr : F

variable {F : Type}

/-- `MessageToDict`, with the keys that are read. -/
def messageToDict (m : MeshPacket F) : StickPacket F where
  source := present m.source.toNat
  dest := present m.dest.toNat
  id := present m.id.toNat
  hopLimit := present m.hopLimit.toNat
  hopStart := present m.hopStart.toNat
  wantAck := if m.wantAck then some true else none
  channel := present m.channel.toNat
  encrypted :=
    match m.payload with
    | .encrypted bytes => some (.base64 (b64encode bytes))
    | _ => none
  decoded :=
    match m.payload with
    | .decoded data => some data
    | _ => none
  rxRssi := m.rxRssi
  rxSnr := m.rxSnr

/-- The header that the decoder reads from the frame that is rebuilt. -/
def decodeHeader (m : MeshPacket F) : Option Header := do
  let raw ← reconstructRaw (messageToDict m)
  parseHeader (raw.take MESHTASTIC_HEADER_SIZE)

/-- The header has the fields of the packet. -/
structure Restores (header : Header) (m : MeshPacket F) : Prop where
  source : header.sourceId = m.source.toNat
  dest : header.destId = m.dest.toNat
  id : header.packetId = m.id.toNat
  hopLimit : header.hopLimit = m.hopLimit.toNat
  hopStart : header.hopStart = m.hopStart.toNat
  wantAck : header.wantAck = m.wantAck
  viaMqtt : header.viaMqtt = m.viaMqtt

/-- No field whose default is another one is zero, and the packet has hops and a channel as a
    frame has them and did not come over MQTT. -/
structure Restorable (m : MeshPacket F) : Prop where
  dest : m.dest ≠ 0
  hopLimit : m.hopLimit ≠ 0
  hops : m.hopLimit ≤ m.hopStart
  hopStart : m.hopStart < 8
  viaMqtt : m.viaMqtt = false
  channel : m.channel < 256

/-! ### What is rebuilt -/

theorem encryptedBytes_messageToDict (m : MeshPacket F) :
    ∃ encoded, encryptedBytes (messageToDict m) = some encoded := by
  unfold encryptedBytes messageToDict
  cases m.payload with
  | unset => exact ⟨[], rfl⟩
  | encrypted bytes => exact ⟨bytes, b64decode_b64encode bytes⟩
  | decoded data => exact ⟨[], rfl⟩

theorem wantAck_messageToDict (m : MeshPacket F) :
    (messageToDict m).wantAck.getD false = m.wantAck := by
  unfold messageToDict
  cases m.wantAck with
  | true => rfl
  | false => rfl

theorem getD_present_eq (n default : Nat) :
    (present n).getD default = if n = 0 then default else n := by
  unfold present
  split
  · rfl
  · rfl

theorem parseHeader_packHeader_eq_none {dest source packetId hopLimit hopStart channelHash : Nat}
    {wantAck viaMqtt : Bool} {header : Bytes}
    (h : packHeader dest source packetId hopLimit hopStart wantAck viaMqtt channelHash =
      some header) (hhops : hopStart % 8 < hopLimit % 8) : parseHeader header = none := by
  obtain ⟨-, -, rfl⟩ := packHeader_eq_some h
  obtain ⟨hl, hs, -, -⟩ := flagsByte_fields hopLimit hopStart wantAck viaMqtt
  have hflags : ((leBytes 4 dest ++ leBytes 4 source ++ leBytes 4 packetId ++
      [UInt8.ofNat (flagsByte hopLimit hopStart wantAck viaMqtt), UInt8.ofNat channelHash, 0,
        0]).getD 12 0).toNat = flagsByte hopLimit hopStart wantAck viaMqtt :=
    toNat_ofNat_of_lt (flagsByte_lt hopLimit hopStart wantAck viaMqtt)
  unfold parseHeader
  simp only [hflags, hl, hs]
  rw [if_pos hhops]

theorem decodeHeader_eq_some_iff {m : MeshPacket F} {header : Header} :
    decodeHeader m = some header ↔
      m.channel.toNat < 256 ∧
      (present m.hopLimit.toNat).getD 3 % 8 ≤ (present m.hopStart.toNat).getD 3 % 8 ∧
      header = ⟨(present m.dest.toNat).getD 0xFFFFFFFF, m.source.toNat, m.id.toNat,
        (present m.hopLimit.toNat).getD 3 % 8, (present m.hopStart.toNat).getD 3 % 8, m.wantAck,
        false, m.channel.toNat, 0⟩ := by
  obtain ⟨encoded, hencoded⟩ := encryptedBytes_messageToDict m
  have hdest : (present m.dest.toNat).getD 0xFFFFFFFF < 2 ^ 32 := by
    have hlt := m.dest.toNat_lt
    rw [getD_present_eq]
    split
    · decide
    · exact hlt
  have hsource := m.source.toNat_lt
  have hid := m.id.toNat_lt
  have hreconstruct : ∀ raw, reconstructRaw (messageToDict m) = some raw ↔
      ∃ packed, packHeader ((present m.dest.toNat).getD 0xFFFFFFFF) m.source.toNat m.id.toNat
        ((present m.hopLimit.toNat).getD 3) ((present m.hopStart.toNat).getD 3) m.wantAck false
        m.channel.toNat = some packed ∧ raw = packed ++ encoded := by
    intro raw
    have hzero : ∀ n, (present n).getD 0 = n := fun n => getD_present 0 (Or.inr rfl)
    unfold reconstructRaw
    rw [wantAck_messageToDict, hencoded]
    simp only [messageToDict, hzero, Option.bind_eq_bind, Option.bind_eq_some_iff,
      Option.some.injEq]
    constructor
    · rintro ⟨packed, hpacked, _, rfl, hraw⟩
      exact ⟨packed, hpacked, (Option.some.inj hraw).symm⟩
    · rintro ⟨packed, hpacked, rfl⟩
      exact ⟨packed, hpacked, encoded, rfl, rfl⟩
  unfold decodeHeader
  simp only [Option.bind_eq_bind, Option.bind_eq_some_iff, hreconstruct]
  constructor
  · rintro ⟨raw, ⟨packed, hpacked, rfl⟩, hheader⟩
    rw [List.take_left' (length_of_packHeader hpacked)] at hheader
    obtain ⟨-, hchannel, -⟩ := packHeader_eq_some hpacked
    refine ⟨hchannel, ?_⟩
    rcases Nat.lt_or_ge ((present m.hopStart.toNat).getD 3 % 8)
      ((present m.hopLimit.toNat).getD 3 % 8) with hhops | hhops
    · rw [parseHeader_packHeader_eq_none hpacked hhops] at hheader
      cases hheader
    · rw [parseHeader_packHeader hpacked hhops] at hheader
      exact ⟨hhops, (Option.some.inj hheader).symm⟩
  · rintro ⟨hchannel, hhops, rfl⟩
    obtain ⟨packed, hpacked⟩ := packHeader_of_lt hdest hsource hid hchannel
      ((present m.hopLimit.toNat).getD 3) ((present m.hopStart.toNat).getD 3) m.wantAck false
    refine ⟨packed ++ encoded, ⟨packed, hpacked, rfl⟩, ?_⟩
    rw [List.take_left' (length_of_packHeader hpacked), parseHeader_packHeader hpacked hhops]

theorem getD_present_eq_self_iff {n default : Nat} (h : default ≠ 0) :
    (present n).getD default = n ↔ n ≠ 0 := by
  rw [getD_present_eq]
  split
  · rename_i hzero
    rw [hzero]
    exact iff_of_false h (fun h => h rfl)
  · rename_i hne
    exact iff_of_true rfl hne

theorem getD_present_mod_eq_iff {n : Nat} : (present n).getD 3 % 8 = n ↔ n ≠ 0 ∧ n < 8 := by
  rw [getD_present_eq]
  split <;> omega

theorem toNat_eq_zero_iff {n : UInt32} : n.toNat = 0 ↔ n = 0 :=
  ⟨fun h => UInt32.toNat_inj.mp h, fun h => by rw [h]; rfl⟩

/-- **Rebuilt headers.**  The header read back from the frame that is rebuilt has the fields of
    the packet exactly when none is left out that has another default, the hop counts and the
    channel are those of a frame, and the packet did not come over MQTT. -/
theorem restores_iff (m : MeshPacket F) :
    (∃ header, decodeHeader m = some header ∧ Restores header m) ↔ Restorable m := by
  constructor
  · rintro ⟨header, hheader, h⟩
    obtain ⟨hchannel, hhops, rfl⟩ := decodeHeader_eq_some_iff.mp hheader
    obtain ⟨hlimit, -⟩ := getD_present_mod_eq_iff.mp h.hopLimit
    obtain ⟨-, hstart⟩ := getD_present_mod_eq_iff.mp h.hopStart
    refine ⟨?_, ?_, ?_, ?_, h.viaMqtt.symm, ?_⟩
    · rw [ne_eq, ← toNat_eq_zero_iff]
      exact (getD_present_eq_self_iff (by decide)).mp h.dest
    · rw [ne_eq, ← toNat_eq_zero_iff]
      exact hlimit
    · rw [UInt32.le_iff_toNat_le, ← h.hopLimit, ← h.hopStart]
      exact hhops
    · exact UInt32.lt_iff_toNat_lt.mpr hstart
    · exact UInt32.lt_iff_toNat_lt.mpr hchannel
  · intro h
    have hops := UInt32.le_iff_toNat_le.mp h.hops
    have hstart : m.hopStart.toNat < 8 := UInt32.lt_iff_toNat_lt.mp h.hopStart
    have hlimit : m.hopLimit.toNat ≠ 0 := toNat_eq_zero_iff.not.mpr h.hopLimit
    have hdest : m.dest.toNat ≠ 0 := toNat_eq_zero_iff.not.mpr h.dest
    have hlimitBack : (present m.hopLimit.toNat).getD 3 % 8 = m.hopLimit.toNat :=
      getD_present_mod_eq_iff.mpr ⟨hlimit, by omega⟩
    have hstartBack : (present m.hopStart.toNat).getD 3 % 8 = m.hopStart.toNat :=
      getD_present_mod_eq_iff.mpr ⟨by omega, hstart⟩
    refine ⟨_, decodeHeader_eq_some_iff.mpr ⟨UInt32.lt_iff_toNat_lt.mp h.channel, ?_, rfl⟩, ?_⟩
    · rw [hlimitBack, hstartBack]
      exact hops
    · exact ⟨rfl, (getD_present_eq_self_iff (by decide)).mpr hdest, rfl, hlimitBack, hstartBack,
        rfl, h.viaMqtt.symm⟩

/-- A broadcast that has been relayed as often as it may. -/
def lastHop (hopStart : UInt32) : MeshPacket Unit where
  source := 0x11223344
  dest := 0xffffffff
  channel := 8
  id := 0xdeadbeef
  hopLimit := 0
  hopStart := hopStart
  wantAck := false
  viaMqtt := false
  payload := .encrypted [1, 2, 3]
  rxRssi := ()
  rxSnr := ()

/-- A packet that arrives on its last hop is read with three hops left, or not at all. -/
theorem last_hop_lost :
    (decodeHeader (lastHop 3)).map Header.hopLimit = some 3 ∧ decodeHeader (lastHop 2) = none ∧
      (∀ header ∈ decodeHeader (lastHop 3), ¬ Restores header (lastHop 3)) := by
  have hlast : (decodeHeader (lastHop 3)).map Header.hopLimit = some 3 := by decide +kernel
  refine ⟨hlast, by decide +kernel, ?_⟩
  intro header hheader h
  rw [hheader] at hlast
  have hthree : header.hopLimit = 3 := Option.some.inj hlast
  have hzero : header.hopLimit = 0 := h.hopLimit
  rw [hthree] at hzero
  cases hzero

end Meshpoint.HeaderReconstruction
