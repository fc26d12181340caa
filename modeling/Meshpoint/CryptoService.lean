import Meshpoint.CounterMode
import Meshpoint.PkiCrypto

/-!
# The crypto service

Model of `CryptoService` (`src/decode/crypto_service.py`): the channel key table,
the PKI key pair and the cache of peer public keys over the node database, and
the AES-CTR and PKI operations.  Looking a public key up may fill the cache, so
those operations return the new service.
-/

namespace Meshpoint

open ByteCodec

/-- `nodePublicKey` is the node database: the stored text of a node's public key,
    by its eight-digit hexadecimal id; `none` without a configured database. -/
structure CryptoService extends KeyTable where
  privateKey : Option Bytes := none
  publicKey : Option Bytes := none
  publicKeys : OrderedDict Nat Bytes := .empty
  nodePublicKey : Option (String → Option String) := none

/-- `f"{n:08x}"` of a 32-bit number. -/
def hex8 (n : Nat) : String := String.ofList (hexFixed 8 n)

namespace CryptoService

def BROADCAST_ADDR : Nat := 0xFFFFFFFF

def hasPki (crypto : CryptoService) : Bool := crypto.privateKey.isSome && crypto.publicKey.isSome

/-- `_load_public_key_from_db`. -/
def loadPublicKeyFromDb (crypto : CryptoService) (nodeId : Nat) : Option Bytes := do
  let database ← crypto.nodePublicKey
  let text ← database (hex8 nodeId)
  if text = "" then none
  else
    let key ← fromHexChars text.toList
    if key.length = 32 then some key else none

/-- `lookup_public_key`. -/
def lookupPublicKey (crypto : CryptoService) (nodeId : Nat) : Option Bytes × CryptoService :=
  match crypto.publicKeys.get? nodeId with
  | some key => (some key, crypto)
  | none =>
    match crypto.loadPublicKeyFromDb nodeId with
    | some key => (some key, { crypto with publicKeys := crypto.publicKeys.set nodeId key })
    | none => (none, crypto)

/-- `refresh_public_key_from_db`. -/
def refreshPublicKeyFromDb (crypto : CryptoService) (nodeId : Nat) :
    Option Bytes × CryptoService :=
  lookupPublicKey { crypto with
    publicKeys := .ofList (crypto.publicKeys.items.filter fun entry => entry.1 ≠ nodeId) } nodeId

/-- `is_pki_packet`. -/
def isPkiPacket (channelHash destId : Nat) (ourNodeId : Option Nat) (payloadLen : Nat) : Bool :=
  channelHash = 0 && ourNodeId = some destId && destId ≠ BROADCAST_ADDR &&
    PkiCrypto.PKC_OVERHEAD < payloadLen

/-- `_build_meshtastic_nonce`. -/
def buildMeshtasticNonce (packetId sourceNodeId : Nat) : Bytes :=
  leBytes 4 packetId ++ [0, 0, 0, 0] ++ leBytes 4 sourceNodeId ++ [0, 0, 0, 0]

variable (prim : CryptoPrimitives)

/-- `encrypt_meshtastic` with an explicit key, or the default key. -/
def encryptMeshtastic (crypto : CryptoService) (plaintext : Bytes) (packetId sourceNodeId : Nat)
    (key : Option AesKey) : Option Bytes :=
  (key.or crypto.defaultKey).map fun useKey =>
    CounterMode.ctr (prim.aesBlock useKey) (buildMeshtasticNonce packetId sourceNodeId) plaintext

/-- `decrypt_meshtastic` with an explicit key, or the default key. -/
def decryptMeshtastic (crypto : CryptoService) (encryptedPayload : Bytes)
    (packetId sourceNodeId : Nat) (key : Option AesKey) : Option Bytes :=
  (key.or crypto.defaultKey).map fun useKey =>
    CounterMode.ctr (prim.aesBlock useKey) (buildMeshtasticNonce packetId sourceNodeId)
      encryptedPayload

/-- `decrypt_meshtastic_pki`. -/
def decryptMeshtasticPki (crypto : CryptoService) (encryptedPayload : Bytes)
    (packetId senderNodeId : Nat) (senderPublicKey : Bytes) : Option Bytes :=
  crypto.privateKey.bind fun privateKey =>
    PkiCrypto.decryptPkiPayload prim encryptedPayload privateKey senderPublicKey senderNodeId
      packetId

/-- `encrypt_meshtastic_pki`. -/
def encryptMeshtasticPki (crypto : CryptoService) (plaintext : Bytes)
    (packetId sourceNodeId : Nat) (recipientPublicKey : Bytes) (extraNonce : Nat) : Option Bytes :=
  crypto.privateKey.bind fun privateKey =>
    PkiCrypto.encryptPkiPayload prim plaintext privateKey recipientPublicKey sourceNodeId packetId
      extraNonce

theorem lookupPublicKey_toKeyTable (crypto : CryptoService) (nodeId : Nat) :
    (crypto.lookupPublicKey nodeId).2.toKeyTable = crypto.toKeyTable := by
  unfold lookupPublicKey
  split
  · rfl
  · split <;> rfl

theorem refreshPublicKeyFromDb_toKeyTable (crypto : CryptoService) (nodeId : Nat) :
    (crypto.refreshPublicKeyFromDb nodeId).2.toKeyTable = crypto.toKeyTable := by
  unfold refreshPublicKeyFromDb
  rw [lookupPublicKey_toKeyTable]

end CryptoService

end Meshpoint
