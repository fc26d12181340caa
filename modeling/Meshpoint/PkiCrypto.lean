import Meshpoint.ChannelKeys

/-!
# Direct-message encryption

Models of `src/decode/meshtastic_aes_ccm.py` (AES-CCM with `L = 2`) and of
`src/decode/pki_crypto.py`.  The AES block function, X25519 and SHA-256 come from
third-party packages; `CryptoPrimitives` holds them with the lengths of their
results.
-/

namespace Meshpoint

open ByteCodec

/-- The primitives the repository imports. -/
structure CryptoPrimitives where
  /-- AES in ECB mode on one block. -/
  aesBlock : AesKey → Bytes → Bytes
  length_aesBlock : ∀ key block, (aesBlock key block).length = 16
  /-- `X25519PrivateKey.exchange`; `none` when it raises. -/
  x25519 : (privateKey publicKey : Bytes) → Option Bytes
  sha256 : Bytes → Bytes
  length_sha256 : ∀ bytes, (sha256 bytes).length = 32

/-- Primitives known at the listed arguments only: blocks by key and input, shared
    secrets by private and public key, digests by input. -/
def CryptoPrimitives.ofTable (blocks exchanges : List (Bytes × Bytes × Bytes))
    (digests : List (Bytes × Bytes)) : CryptoPrimitives where
  aesBlock key block :=
    match blocks.find? fun entry => decide (entry.1 = key.bytes ∧ entry.2.1 = block) with
    | some entry => (entry.2.2 ++ List.replicate 16 0).take 16
    | none => List.replicate 16 0
  length_aesBlock := by
    intro key block
    split <;> simp
  x25519 privateKey publicKey :=
    (exchanges.find? fun entry => decide (entry.1 = privateKey ∧ entry.2.1 = publicKey)).map
      fun entry => entry.2.2
  sha256 bytes :=
    match digests.find? fun entry => decide (entry.1 = bytes) with
    | some entry => (entry.2 ++ List.replicate 32 0).take 32
    | none => List.replicate 32 0
  length_sha256 := by
    intro bytes
    split <;> simp

namespace AesCcm

def AES_BLOCK_SIZE : Nat := 16

/-- `_put_be16`. -/
def putBe16 (buf : Bytes) (offset val : Nat) : Bytes :=
  (buf.set offset (UInt8.ofNat (val / 256))).set (offset + 1) (UInt8.ofNat val)

/-- `_xor_block`: the first sixteen bytes of `dst`. -/
def xorBlock (dst src : Bytes) : Bytes :=
  dst.mapIdx fun i d => if i < AES_BLOCK_SIZE then d ^^^ src.getD i 0 else d

/-- `_constant_time_compare`. -/
def constantTimeCompare (a b : Bytes) (length : Nat) : Bool :=
  (List.range length).foldl (fun diff i => diff ||| (a.getD i 0 ^^^ b.getD i 0)) (0 : UInt8) = 0

section Engine

variable (block : Bytes → Bytes)

/-- `_encrypt_block`: ECB over all blocks of the buffer. -/
def encryptBlock : Nat → Bytes → Bytes
  | 0, _ => []
  | fuel + 1, buf =>
    if buf = [] then [] else block (buf.take 16) ++ encryptBlock fuel (buf.drop 16)

/-- `_encrypt_block` of a whole buffer. -/
def encryptBlocks (buf : Bytes) : Bytes := encryptBlock block buf.length buf

/-- `_auth_start`: the authentication state after the first block and the
    associated data. -/
def authStart (macLen : Nat) (nonce aad : Bytes) (plainLen : Nat) : Bytes :=
  let flags : UInt8 := (if aad = [] then 0 else 0x40) ||| UInt8.ofNat ((macLen - 2) / 2 * 8) ||| 1
  let b := putBe16 ([flags] ++ nonce.take 13 ++ [0, 0]) 14 plainLen
  let x := encryptBlocks block b
  if aad = [] then x
  else
    let aadBuf := putBe16 (List.replicate 2 0 ++ aad ++ List.replicate (30 - aad.length) 0) 0
      aad.length
    let aadBuf := xorBlock aadBuf x
    let x := encryptBlocks block aadBuf
    if aad.length > 14 then
      encryptBlocks block (xorBlock ((aadBuf.drop 16).take 16) x)
    else x

/-- `_auth`: absorb the data block by block, the last one padded with zeros. -/
def auth : Nat → Bytes → Bytes → Bytes
  | 0, _, x => x
  | fuel + 1, data, x =>
    if 16 ≤ data.length then
      auth fuel (data.drop 16) (encryptBlocks block (xorBlock x (data.take 16)))
    else if data = [] then x
    else
      encryptBlocks block (xorBlock x (data ++ List.replicate (16 - data.length) 0))

/-- `_encr_start`. -/
def encrStart (nonce : Bytes) : Bytes := [1] ++ nonce.take 13 ++ [0, 0]

/-- `_encr`: xor with the keystream, from the given counter on. -/
def encr : Nat → (counter : Nat) → Bytes → Bytes → Bytes
  | 0, _, _, _ => []
  | fuel + 1, counter, inp, a =>
    if inp = [] then []
    else
      let keystream := encryptBlocks block (putBe16 a 14 counter)
      (inp.take 16).mapIdx (fun i b => keystream.getD i 0 ^^^ b) ++
        encr fuel (counter + 1) (inp.drop 16) a

/-- `_encr_auth` and `_decr_auth`: the tag xored with the keystream of counter 0. -/
def maskTag (macLen : Nat) (x a : Bytes) : Bytes :=
  let tmp := encryptBlocks block (putBe16 a 14 0)
  (List.range macLen).map fun i => x.getD i 0 ^^^ tmp.getD i 0

/-- `encrypt`: the ciphertext and the tag; `none` when it raises. -/
def encrypt (nonce : Bytes) (macLen : Nat) (plaintext aad : Bytes) : Option (Bytes × Bytes) :=
  if aad.length > 30 ∨ macLen > AES_BLOCK_SIZE then none
  else
    let x := auth block (plaintext.length + 1) plaintext
      (authStart block macLen nonce aad plaintext.length)
    let a := encrStart nonce
    some (encr block (plaintext.length + 1) 1 plaintext a, maskTag block macLen x a)

/-- `decrypt`. -/
def decrypt (nonce : Bytes) (macLen : Nat) (ciphertext tag aad : Bytes) : Option Bytes :=
  if aad.length > 30 ∨ macLen > AES_BLOCK_SIZE then none
  else
    let a := encrStart nonce
    let t := maskTag block macLen tag a
    let plain := encr block (ciphertext.length + 1) 1 ciphertext a
    let x := auth block (plain.length + 1) plain
      (authStart block macLen nonce aad ciphertext.length)
    if constantTimeCompare x t macLen then some plain else none

end Engine

end AesCcm

namespace PkiCrypto

def PKC_OVERHEAD : Nat := 12
def PKC_MIC_LEN : Nat := 8

variable (prim : CryptoPrimitives)

/-- `build_pki_nonce`. -/
def buildPkiNonce (fromNodeId packetId extraNonce : Nat) : Bytes :=
  let packet := leBytes 8 (packetId % 2 ^ 64)
  (if extraNonce = 0 then packet else packet.take 4 ++ leBytes 4 (extraNonce % 2 ^ 32)) ++
    leBytes 4 (fromNodeId % 2 ^ 32) ++ [0]

/-- `derive_shared_key`; `none` when it raises. -/
def deriveSharedKey (privateKey remotePublicKey : Bytes) : Option AesKey :=
  if privateKey.length ≠ 32 ∨ remotePublicKey.length ≠ 32 then none
  else (prim.x25519 privateKey remotePublicKey).map fun shared =>
    ⟨prim.sha256 shared, Or.inr (prim.length_sha256 shared)⟩

/-- `encrypt_pki_payload`, with the random extra nonce it draws. -/
def encryptPkiPayload (plaintext privateKey remotePublicKey : Bytes)
    (fromNodeId packetId extraNonce : Nat) : Option Bytes := do
  let sharedKey ← deriveSharedKey prim privateKey remotePublicKey
  let (ciphertext, mic) ← AesCcm.encrypt (prim.aesBlock sharedKey)
    (buildPkiNonce fromNodeId packetId extraNonce) PKC_MIC_LEN plaintext []
  return ciphertext ++ mic ++ leBytes 4 extraNonce

/-- `decrypt_pki_payload`. -/
def decryptPkiPayload (encrypted privateKey remotePublicKey : Bytes)
    (fromNodeId packetId : Nat) : Option Bytes :=
  if encrypted.length ≤ PKC_OVERHEAD then none
  else
    let bodyLen := encrypted.length - PKC_OVERHEAD
    let ciphertext := encrypted.take bodyLen
    let auth := encrypted.drop bodyLen
    let extraNonce := leValue ((auth.drop 8).take 4)
    (deriveSharedKey prim privateKey remotePublicKey).bind fun sharedKey =>
      AesCcm.decrypt (prim.aesBlock sharedKey) (buildPkiNonce fromNodeId packetId extraNonce)
        PKC_MIC_LEN ciphertext (auth.take PKC_MIC_LEN) []

end PkiCrypto

end Meshpoint
