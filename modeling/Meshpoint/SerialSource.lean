import Meshpoint.MeshtasticHeader
import Meshpoint.PacketModel
import Meshpoint.OrderedDict

/-!
# Packets of a serial stick

Model of `_packet_to_raw_capture`, `_build_pre_decoded` and `_reconstruct_raw` of
`src/capture/serial_source.py`.  The stick's library hands over a dictionary that
leaves out the fields equal to zero; `StickPacket` has `none` for an absent key.

For a packet the stick decrypted itself the frame is a bare header, in whose
channel-hash byte the stick's own channel index is put.
-/

namespace Meshpoint.SerialSource

open ByteCodec MeshtasticHeader

/-- `packet["raw"]`: bytes, a hexadecimal text, or anything else. -/
inductive RawField where
  | bytes (bs : Bytes)
  | hex (text : String)
  | other
deriving DecidableEq, Repr

/-- `packet["encrypted"]`: bytes or their base64 text. -/
inductive EncryptedField where
  | bytes (bs : Bytes)
  | base64 (text : String)
deriving DecidableEq, Repr

/-- `packet["decoded"]`. -/
structure DecodedField where
  portnum : Option String
  payload : Option String := none
  requestId : Option Nat := none
deriving DecidableEq, Repr

/-- A packet dictionary of the stick. -/
structure StickPacket (F : Type) where
  source : Option Nat := none
  dest : Option Nat := none
  id : Option Nat := none
  hopLimit : Option Nat := none
  hopStart : Option Nat := none
  wantAck : Option Bool := none
  channel : Option Nat := none
  raw : RawField := .other
  encrypted : Option EncryptedField := none
  decoded : Option DecodedField := none
  rxRssi : F
  rxSnr : F

/-- What the source knows about the connected stick. -/
structure RadioInfo where
  ownNodeNum : Option Nat
  channelTable : OrderedDict Nat String

/-- `resolve_channel_index`: the first index with this name. -/
def RadioInfo.resolveChannelIndex (radio : RadioInfo) (name : String) : Option Nat :=
  (radio.channelTable.items.find? fun entry => entry.2 = name).map Prod.fst

section

variable {F : Type}

/-- The ciphertext of the dictionary, empty without one; `none` when decoding raises. -/
def encryptedBytes (packet : StickPacket F) : Option Bytes :=
  match packet.encrypted with
  | none => some []
  | some (.bytes bs) => some bs
  | some (.base64 text) => b64decode text

/-- `_reconstruct_raw`; `none` when it raises. -/
def reconstructRaw (packet : StickPacket F) : Option Bytes := do
  let header ← packHeader (packet.dest.getD 0xFFFFFFFF) (packet.source.getD 0)
    (packet.id.getD 0) (packet.hopLimit.getD 3) (packet.hopStart.getD 3)
    (packet.wantAck.getD false) false (packet.channel.getD 0)
  let encoded ← encryptedBytes packet
  return header ++ encoded

/-- `_build_pre_decoded`; `portNumValue` is `portnums_pb2.PortNum.Value`. -/
def buildPreDecoded (portNumValue : String → Option Int) (radio : RadioInfo)
    (packet : StickPacket F) : Option PreDecoded := do
  let decoded ← packet.decoded
  let portnumName ← decoded.portnum
  if portnumName = "" then none
  else
    let portnum ← portNumValue portnumName
    let payload := ((decoded.payload.getD "") |> b64decode).getD []
    let channelName := (packet.channel.bind radio.channelTable.get?).filter (· ≠ "")
    return ⟨portnum, payload, decoded.requestId.getD 0, channelName⟩

theorem reconstructRaw_eq_some {packet : StickPacket F} {raw : Bytes}
    (h : reconstructRaw packet = some raw) :
    ∃ header encoded,
      packHeader (packet.dest.getD 0xFFFFFFFF) (packet.source.getD 0) (packet.id.getD 0)
        (packet.hopLimit.getD 3) (packet.hopStart.getD 3) (packet.wantAck.getD false) false
        (packet.channel.getD 0) = some header ∧
      encryptedBytes packet = some encoded ∧ raw = header ++ encoded := by
  unfold reconstructRaw at h
  simp only [Option.bind_eq_bind, Option.bind_eq_some_iff] at h
  obtain ⟨header, hheader, encoded, hencoded, hraw⟩ := h
  exact ⟨header, encoded, hheader, hencoded, (Option.some.inj hraw).symm⟩

/-- In a frame rebuilt from a stick's dictionary the hash byte is the stick's channel. -/
theorem reconstructRaw_channelByte {packet : StickPacket F} {raw : Bytes}
    (h : reconstructRaw packet = some raw) : (raw.getD 13 0).toNat = packet.channel.getD 0 := by
  obtain ⟨header, encoded, hheader, -, rfl⟩ := reconstructRaw_eq_some h
  obtain ⟨-, hchannel, rfl⟩ := packHeader_eq_some hheader
  exact toNat_ofNat_of_lt hchannel

/-- The stick's own traffic, text messages apart, is dropped. -/
def isOwnBeacon (radio : RadioInfo) (packet : StickPacket F) : Bool :=
  radio.ownNodeNum.isSome && packet.source = radio.ownNodeNum &&
    (packet.decoded.bind DecodedField.portnum) ≠ some "TEXT_MESSAGE_APP"

/-- The frame bytes: those the packet carries, or a reconstruction; `none` when it raises. -/
def rawBytes (packet : StickPacket F) : Option Bytes :=
  match packet.raw with
  | .bytes (b :: bs) => some (b :: bs)
  | .hex text =>
    match fromHexChars text.toList with
    | none => none
    | some [] => reconstructRaw packet
    | some bs => some bs
  | _ => reconstructRaw packet

/-- `_packet_to_raw_capture`; `none` when the packet is dropped. -/
def packetToRawCapture (portNumValue : String → Option Int) (radio : RadioInfo) (name : String)
    (packet : StickPacket F) : Option (RawCapture F) := do
  if isOwnBeacon radio packet then none
  else
    let raw ← rawBytes packet
    if raw = [] then none
    else
      return { payload := raw
               signal := ⟨packet.rxRssi, packet.rxSnr⟩
               captureSource := name
               preDecoded := buildPreDecoded portNumValue radio packet }

end

end Meshpoint.SerialSource
