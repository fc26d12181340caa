import Meshpoint.ByteCodec
import Meshpoint.OrderedDict

/-!
# Channel keys

The key table of `CryptoService` (`src/decode/crypto_service.py`): the optional
default key and the named channel keys in insertion order, key expansion and the
one-byte channel hash.  An expanded key is 16 or 32 bytes long, which is a field
of `AesKey`, so the cipher never sees a key of another length.
-/

namespace Meshpoint

open ByteCodec

/-- A key AES accepts here: AES-128 or AES-256. -/
structure AesKey where
  bytes : Bytes
  lengthOk : bytes.length = 16 ∨ bytes.length = 32
deriving DecidableEq

def MESHTASTIC_DEFAULT_PSK : Bytes :=
  [0xD4, 0xF1, 0xBB, 0x3A, 0x20, 0x29, 0x07, 0x59, 0xF0, 0xBC, 0xFF, 0xAB, 0xCF, 0x4E, 0x69, 0x01]

def MESHTASTIC_DEFAULT_KEY_B64 : String := "AQ=="

namespace ChannelKeys

/-- The well-known key `index`: the default PSK with its last byte bumped. -/
def wellKnownKey (index : UInt8) : Bytes :=
  MESHTASTIC_DEFAULT_PSK.dropLast ++ [0x01 + index - 1]

/-- `_expand_key`. -/
def expandKey (rawKey : Bytes) : AesKey :=
  if h : rawKey.length = 16 ∨ rawKey.length = 32 then ⟨rawKey, h⟩
  else
    match rawKey with
    | [] => ⟨List.replicate 16 0, by simp⟩
    | [index] =>
      if index = 0 then ⟨List.replicate 16 0, by simp⟩
      else ⟨wellKnownKey index, by simp [wellKnownKey, MESHTASTIC_DEFAULT_PSK]⟩
    | raw => ⟨(raw ++ List.replicate 16 0).take 16, by simp⟩

/-- `compute_channel_hash`: the xor of the name's bytes and the key's bytes. -/
def computeChannelHash (channelName : String) (expandedKey : AesKey) : UInt8 :=
  expandedKey.bytes.foldl (· ^^^ ·) ((utf8 channelName).foldl (· ^^^ ·) 0)

theorem computeChannelHash_eq (channelName : String) (key : AesKey) :
    computeChannelHash channelName key = xorAll (utf8 channelName) ^^^ xorAll key.bytes := by
  unfold computeChannelHash
  rw [foldl_xor]
  rfl

end ChannelKeys

open ChannelKeys

/-- `_default_key` and `_keys` of a `CryptoService`. -/
structure KeyTable where
  defaultKey : Option AesKey
  keys : OrderedDict String AesKey
deriving DecidableEq

namespace KeyTable

/-- `CryptoService(default_key_b64)`; `none` when the key does not decode. -/
def create (defaultKeyB64 : String) : Option KeyTable :=
  if defaultKeyB64 = "" then some ⟨none, .empty⟩
  else (b64decode defaultKeyB64).map fun raw => ⟨some (expandKey raw), .empty⟩

/-- `add_channel_key`; `none` when the key does not decode. -/
def addChannelKey (table : KeyTable) (channelName keyB64 : String) : Option KeyTable :=
  (b64decode keyB64).map fun raw =>
    { table with keys := table.keys.set channelName (expandKey raw) }

/-- `clear_channel_keys`. -/
def clearChannelKeys (table : KeyTable) : KeyTable := { table with keys := .empty }

/-- `get_all_keys`: the default key first, then the channel keys. -/
def getAllKeys (table : KeyTable) : List AesKey := table.defaultKey.toList ++ table.keys.values

end KeyTable

end Meshpoint
