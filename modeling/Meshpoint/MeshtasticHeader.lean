import Meshpoint.ByteCodec

/-!
# The Meshtastic radio header

The sixteen bytes in front of every Meshtastic body: three little-endian ids, the
flags byte, the channel hash, the next hop and the relay.  `packHeader` is what
the packet builder and the serial source write, `parseHeader` is
`MeshtasticDecoder._parse_header`; `parseHeader_packHeader` says that reading a
written header gives its fields back.
-/

namespace Meshpoint.MeshtasticHeader

open ByteCodec

def MESHTASTIC_HEADER_SIZE : Nat := 16
def BROADCAST_ADDR : Nat := 0xFFFFFFFF

/-! ### Writing -/

/-- `struct.pack("<III", ...)`; `none` when a number is out of range. -/
def packIds (a b c : Nat) : Option Bytes :=
  if a < 2 ^ 32 ∧ b < 2 ^ 32 ∧ c < 2 ^ 32 then some (leBytes 4 a ++ leBytes 4 b ++ leBytes 4 c)
  else none

/-- The flags byte of a header: hop limit, want-ack, via-MQTT and hop start. -/
def flagsByte (hopLimit hopStart : Nat) (wantAck viaMqtt : Bool) : Nat :=
  hopLimit % 8 + (if wantAck then 8 else 0) + (if viaMqtt then 16 else 0) + hopStart % 8 * 32

/-- A whole header without next hop and relay; `none` when packing raises. -/
def packHeader (dest source packetId hopLimit hopStart : Nat) (wantAck viaMqtt : Bool)
    (channelHash : Nat) : Option Bytes := do
  let ids ← packIds dest source packetId
  if 256 ≤ channelHash then none
  else
    return ids ++ [UInt8.ofNat (flagsByte hopLimit hopStart wantAck viaMqtt),
      UInt8.ofNat channelHash, 0, 0]

theorem flagsByte_lt (hopLimit hopStart : Nat) (wantAck viaMqtt : Bool) :
    flagsByte hopLimit hopStart wantAck viaMqtt < 256 := by
  unfold flagsByte
  have hl : hopLimit % 8 < 8 := Nat.mod_lt _ (by decide)
  have hs : hopStart % 8 < 8 := Nat.mod_lt _ (by decide)
  cases wantAck <;> cases viaMqtt <;> simp <;> omega

theorem packHeader_eq_some {dest source packetId hopLimit hopStart channelHash : Nat}
    {wantAck viaMqtt : Bool} {header : Bytes}
    (h : packHeader dest source packetId hopLimit hopStart wantAck viaMqtt channelHash =
      some header) :
    (dest < 2 ^ 32 ∧ source < 2 ^ 32 ∧ packetId < 2 ^ 32) ∧ channelHash < 256 ∧
      header = leBytes 4 dest ++ leBytes 4 source ++ leBytes 4 packetId ++
        [UInt8.ofNat (flagsByte hopLimit hopStart wantAck viaMqtt), UInt8.ofNat channelHash, 0,
          0] := by
  unfold packHeader packIds at h
  split at h
  · rename_i hids
    simp only [Option.bind_eq_bind, Option.bind_some] at h
    split at h
    · cases h
    · rename_i hchannel
      exact ⟨hids, by omega, (Option.some.inj h).symm⟩
  · cases h

theorem packHeader_of_lt {dest source packetId channelHash : Nat} (hdest : dest < 2 ^ 32)
    (hsource : source < 2 ^ 32) (hid : packetId < 2 ^ 32) (hchannel : channelHash < 256)
    (hopLimit hopStart : Nat) (wantAck viaMqtt : Bool) :
    ∃ header, packHeader dest source packetId hopLimit hopStart wantAck viaMqtt channelHash =
      some header := by
  unfold packHeader packIds
  rw [if_pos ⟨hdest, hsource, hid⟩]
  simp only [Option.bind_eq_bind, Option.bind_some]
  rw [if_neg (by omega)]
  exact ⟨_, rfl⟩

theorem length_of_packHeader {dest source packetId hopLimit hopStart channelHash : Nat}
    {wantAck viaMqtt : Bool} {header : Bytes}
    (h : packHeader dest source packetId hopLimit hopStart wantAck viaMqtt channelHash =
      some header) : header.length = MESHTASTIC_HEADER_SIZE := by
  obtain ⟨-, -, rfl⟩ := packHeader_eq_some h
  simp [MESHTASTIC_HEADER_SIZE]

/-! ### Reading -/

structure Header where
  destId : Nat
  sourceId : Nat
  packetId : Nat
  hopLimit : Nat
  hopStart : Nat
  wantAck : Bool
  viaMqtt : Bool
  channelHash : Nat
  relayNode : Nat
deriving DecidableEq, Repr

/-- `_parse_header` of sixteen bytes: more hops left than the packet started with
    is no valid header. -/
def parseHeader (header : Bytes) : Option Header :=
  let flags := (header.getD 12 0).toNat
  let hopLimit := flags % 8
  let hopStart := flags / 32 % 8
  if hopStart < hopLimit then none
  else some
    { destId := leValue (header.take 4)
      sourceId := leValue ((header.drop 4).take 4)
      packetId := leValue ((header.drop 8).take 4)
      hopLimit := hopLimit
      hopStart := hopStart
      wantAck := flags / 8 % 2 = 1
      viaMqtt := flags / 16 % 2 = 1
      channelHash := (header.getD 13 0).toNat
      relayNode := (header.getD 15 0).toNat }

theorem parseHeader_channelHash {bytes : Bytes} {header : Header}
    (h : parseHeader bytes = some header) : header.channelHash = (bytes.getD 13 0).toNat := by
  unfold parseHeader at h
  simp only at h
  split at h
  · cases h
  · cases h
    rfl

theorem parseHeader_ids_lt {bytes : Bytes} {header : Header} (h : parseHeader bytes = some header) :
    header.destId < 2 ^ 32 ∧ header.sourceId < 2 ^ 32 ∧ header.packetId < 2 ^ 32 := by
  have hword : ∀ bs : Bytes, leValue (bs.take 4) < 2 ^ 32 := fun bs => leValue_take_lt bs 4
  unfold parseHeader at h
  simp only at h
  split at h
  · cases h
  · obtain rfl := Option.some.inj h
    exact ⟨hword _, hword _, hword _⟩

theorem flagsByte_fields (hopLimit hopStart : Nat) (wantAck viaMqtt : Bool) :
    flagsByte hopLimit hopStart wantAck viaMqtt % 8 = hopLimit % 8 ∧
    flagsByte hopLimit hopStart wantAck viaMqtt / 32 % 8 = hopStart % 8 ∧
    decide (flagsByte hopLimit hopStart wantAck viaMqtt / 8 % 2 = 1) = wantAck ∧
    decide (flagsByte hopLimit hopStart wantAck viaMqtt / 16 % 2 = 1) = viaMqtt := by
  unfold flagsByte
  have hl : hopLimit % 8 < 8 := Nat.mod_lt _ (by decide)
  have hs : hopStart % 8 < 8 := Nat.mod_lt _ (by decide)
  generalize hopLimit % 8 = l at hl
  generalize hopStart % 8 = s at hs
  cases wantAck <;> cases viaMqtt <;>
    simp only [Bool.false_eq_true, if_false, if_true, decide_eq_true_eq, decide_eq_false_iff_not] <;>
    omega

/-- **A written header reads back.** -/
theorem parseHeader_packHeader {dest source packetId hopLimit hopStart channelHash : Nat}
    {wantAck viaMqtt : Bool} {header : Bytes}
    (h : packHeader dest source packetId hopLimit hopStart wantAck viaMqtt channelHash =
      some header) (hhops : hopLimit % 8 ≤ hopStart % 8) :
    parseHeader header = some ⟨dest, source, packetId, hopLimit % 8, hopStart % 8, wantAck, viaMqtt,
      channelHash, 0⟩ := by
  obtain ⟨⟨hdest, hsource, hid⟩, hchannel, rfl⟩ := packHeader_eq_some h
  obtain ⟨hl, hs, ha, hv⟩ := flagsByte_fields hopLimit hopStart wantAck viaMqtt
  have hflags := toNat_ofNat_of_lt (flagsByte_lt hopLimit hopStart wantAck viaMqtt)
  have h12 : ((leBytes 4 dest ++ leBytes 4 source ++ leBytes 4 packetId ++
      [UInt8.ofNat (flagsByte hopLimit hopStart wantAck viaMqtt), UInt8.ofNat channelHash, 0,
        0]).getD 12 0).toNat = flagsByte hopLimit hopStart wantAck viaMqtt := hflags
  have h13 : ((leBytes 4 dest ++ leBytes 4 source ++ leBytes 4 packetId ++
      [UInt8.ofNat (flagsByte hopLimit hopStart wantAck viaMqtt), UInt8.ofNat channelHash, 0,
        0]).getD 13 0).toNat = channelHash := toNat_ofNat_of_lt hchannel
  unfold parseHeader
  simp only [h12, h13, hl, hs, ha, hv]
  rw [if_neg (by omega)]
  have htake : ∀ n, n < 2 ^ 32 → leValue (leBytes 4 n) = n := fun n hn => leValue_leBytes hn
  simp only [Option.some.injEq, Header.mk.injEq, true_and]
  exact ⟨htake dest hdest, htake source hsource, htake packetId hid, rfl⟩

end Meshpoint.MeshtasticHeader
