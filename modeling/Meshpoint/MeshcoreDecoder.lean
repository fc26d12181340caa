import Meshpoint.CryptoService
import Meshpoint.PacketModel

/-!
# The MeshCore decoder

Model of `MeshcoreDecoder` (`src/decode/meshcore_decoder.py`): the eight header bytes, the
body decrypted with the default channel key and the handler that its first byte selects.
-/

namespace Meshpoint.MeshcoreDecoder

open JsonText ByteCodec

def MESHCORE_HEADER_SIZE : Nat := 8
def MSG_TEXT : Nat := 1
def MSG_POSITION : Nat := 2
def MSG_TELEMETRY : Nat := 3
def MSG_NODEINFO : Nat := 4
def MSG_ROUTING : Nat := 5
def MSG_ACK : Nat := 6

/-- The header fields the packet is built from. -/
structure Header where
  packetId : Nat
  sourceId : Nat
  destId : Nat
  hopCount : Nat
deriving DecidableEq

/-- `_parse_header`. -/
def parseHeader (bytes : Bytes) : Header where
  packetId := leValue (bytes.take 2)
  sourceId := leValue ((bytes.drop 2).take 2)
  destId := leValue ((bytes.drop 4).take 2)
  hopCount := (bytes.getD 6 0).toNat

/-- `struct.unpack("<i")` of four bytes. -/
def signed32 (bytes : Bytes) : Int :=
  let n := leValue bytes
  if 2 ^ 31 ≤ n then (n : Int) - 2 ^ 32 else n

/-- `_build_meshcore_nonce`. -/
def buildMeshcoreNonce (packetId sourceNodeId : Nat) : Bytes :=
  leBytes 4 packetId ++ [0, 0, 0, 0] ++ leBytes 4 sourceNodeId ++ [0, 0, 0, 0]

/-- `decrypt_meshcore`. -/
def decryptMeshcore (prim : CryptoPrimitives) (crypto : CryptoService) (encrypted : Bytes)
    (packetId sourceNodeId : Nat) : Option Bytes :=
  crypto.defaultKey.map fun key =>
    CounterMode.ctr (prim.aesBlock key) (buildMeshcoreNonce packetId sourceNodeId) encrypted

section

variable {F : Type} [StationFloat F]

/-- `f"{n:04x}"`. -/
def hex4 (n : Nat) : String := String.ofList (hexFixed 4 n)

def decodeText (body : Bytes) : Entries F :=
  Entries.ofList [("text", .str (utf8DecodeReplace body))]

def decodePosition (body : Bytes) : Entries F :=
  if body.length < 8 then Entries.ofList [("raw_hex", .str (hexlify body))]
  else Entries.ofList
    [("latitude", .float (PyFloat.degrees (signed32 (body.take 4)))),
      ("longitude", .float (PyFloat.degrees (signed32 ((body.drop 4).take 4))))]

def decodeTelemetry (body : Bytes) : Entries F :=
  Entries.ofList [("raw_hex", .str (hexlify body)), ("size", .int body.length)]

/-- `_decode_nodeinfo`: the position is a pair of singles, whatever they are. -/
def decodeNodeinfo : Bytes → Option (Entries F)
  | [] => none
  | first :: rest =>
    let flags := first.toNat
    let hasLatlon := flags / 16 % 2 = 1
    let afterLatlon := if hasLatlon then rest.drop 8 else rest
    let afterFeat1 := if flags / 32 % 2 = 1 then afterLatlon.drop 2 else afterLatlon
    let afterFeat2 := if flags / 64 % 2 = 1 then afterFeat1.drop 2 else afterFeat1
    some (Entries.ofList
      ([("node_type", .int (flags % 16 : Nat))] ++
        (if hasLatlon ∧ 8 ≤ rest.length then
          [("latitude", .float (StationFloat.ofSingle (leValue (rest.take 4)))),
            ("longitude", .float (StationFloat.ofSingle (leValue ((rest.drop 4).take 4))))]
        else []) ++
        (if flags / 128 % 2 = 1 then
          [("long_name", .str (utf8DecodeReplace (afterFeat2.takeWhile (· ≠ 0))))] else [])))

/-- `_decode_payload`: the dictionary and the type of the packet. -/
def decodePayload : Bytes → Option (Entries F) × PacketType
  | [] => (none, .unknown)
  | first :: body =>
    if first.toNat = MSG_TEXT then (some (decodeText body), .text)
    else if first.toNat = MSG_POSITION then (some (decodePosition body), .position)
    else if first.toNat = MSG_TELEMETRY then (some (decodeTelemetry body), .telemetry)
    else if first.toNat = MSG_NODEINFO then (decodeNodeinfo body, .nodeinfo)
    else if first.toNat = MSG_ROUTING ∨ first.toNat = MSG_ACK then
      (some (Entries.ofList [("msg_type", .int first.toNat)]), .routing)
    else (none, .unknown)

/-- `MeshcoreDecoder.decode`. -/
def decode (prim : CryptoPrimitives) (crypto : CryptoService) (raw : Bytes)
    (signal : Option (SignalMetrics F)) (timestamp : Int) : Option (Packet F) :=
  if raw.length < MESHCORE_HEADER_SIZE then none
  else
    let header := parseHeader (raw.take MESHCORE_HEADER_SIZE)
    let body := raw.drop MESHCORE_HEADER_SIZE
    let (decoded, packetType) :=
      decodePayload ((decryptMeshcore prim crypto body header.packetId header.sourceId).getD [])
    some
      { packetId := hex4 header.packetId
        sourceId := hex4 header.sourceId
        destinationId := hex4 header.destId
        protocol := .meshcore
        packetType := packetType
        hopLimit := header.hopCount
        decodedPayload := decoded
        encryptedPayload := if decoded.isSome then none else some body
        decrypted := decoded.isSome
        signal := signal
        timestamp := timestamp }

theorem decode_fields {prim : CryptoPrimitives} {crypto : CryptoService} {raw : Bytes}
    {signal : Option (SignalMetrics F)} {timestamp : Int} {packet : Packet F}
    (h : decode prim crypto raw signal timestamp = some packet) :
    packet.protocol = .meshcore ∧ packet.hopStart = 0 ∧ packet.signal = signal := by
  unfold decode at h
  split at h
  · cases h
  · obtain rfl := Option.some.inj h
    exact ⟨rfl, rfl, rfl⟩

end

end Meshpoint.MeshcoreDecoder
