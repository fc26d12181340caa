import Mathlib.Data.List.GetD
import Meshpoint.PkiCrypto
import Meshpoint.Raising

/-!
# Direct messages decrypt to what was encrypted

The AES-CCM engine of `src/decode/meshtastic_aes_ccm.py` accepts exactly what it encrypts:
`AesCcm.decrypt_eq_some_iff` holds for any block function.  Over it, `decrypt_pki_payload`
returns the plaintext of every payload that `encrypt_pki_payload` made, and `None` for every
payload that carries no tag of its contents.
-/

namespace Meshpoint

open ByteCodec Raising

namespace AesCcm

section Engine

variable (block : Bytes → Bytes)

/-! ### The keystream -/

/-- One block of the keystream over at most one block of text. -/
def xorStream (keystream first : Bytes) : Bytes :=
  first.mapIdx fun i b => keystream.getD i 0 ^^^ b

@[simp] theorem length_xorStream (keystream first : Bytes) :
    (xorStream keystream first).length = first.length :=
  List.length_mapIdx

theorem xorStream_xorStream (keystream first : Bytes) :
    xorStream keystream (xorStream keystream first) = first := by
  apply List.ext_getElem
  · simp
  · intro i h₁ h₂
    simp [xorStream, ← UInt8.xor_assoc]

theorem encr_nil (fuel counter : Nat) (a : Bytes) : encr block fuel counter [] a = [] := by
  cases fuel with
  | zero => rfl
  | succ fuel => rw [encr, if_pos rfl]

theorem encr_of_ne_nil (fuel counter : Nat) {inp : Bytes} (a : Bytes) (h : inp ≠ []) :
    encr block (fuel + 1) counter inp a =
      xorStream (encryptBlocks block (putBe16 a 14 counter)) (inp.take 16) ++
        encr block fuel (counter + 1) (inp.drop 16) a := by
  rw [encr, if_neg h]
  rfl

theorem length_encr (fuel counter : Nat) (inp a : Bytes) (hfuel : inp.length < fuel) :
    (encr block fuel counter inp a).length = inp.length := by
  induction fuel generalizing counter inp with
  | zero => exact absurd hfuel (Nat.not_lt_zero _)
  | succ fuel ih =>
    by_cases hnil : inp = []
    · rw [hnil, encr_nil]
    · have hpos : 0 < inp.length := List.length_pos_of_ne_nil hnil
      have hrest := ih (counter + 1) (inp.drop 16) (by rw [List.length_drop]; omega)
      rw [encr_of_ne_nil block fuel counter a hnil, List.length_append, length_xorStream, hrest,
        List.length_take, List.length_drop]
      omega

/-- **The keystream is xored away** when it is applied a second time. -/
theorem encr_encr (fuel counter : Nat) (inp a : Bytes) (hfuel : inp.length < fuel) :
    encr block fuel counter (encr block fuel counter inp a) a = inp := by
  induction fuel generalizing counter inp with
  | zero => exact absurd hfuel (Nat.not_lt_zero _)
  | succ fuel ih =>
    by_cases hnil : inp = []
    · rw [hnil, encr_nil, encr_nil]
    have hpos : 0 < inp.length := List.length_pos_of_ne_nil hnil
    have hrest : (inp.drop 16).length < fuel := by rw [List.length_drop]; omega
    rw [encr_of_ne_nil block fuel counter a hnil]
    generalize hks : encryptBlocks block (putBe16 a 14 counter) = keystream
    generalize htail : encr block fuel (counter + 1) (inp.drop 16) a = tail
    have hfirst : (xorStream keystream (inp.take 16)).length = min 16 inp.length := by simp
    have hne : xorStream keystream (inp.take 16) ++ tail ≠ [] := by
      intro h
      have hzero := congrArg List.length h
      rw [List.length_append, hfirst, List.length_nil] at hzero
      omega
    -- a first block that is not full has nothing after it
    have hsplit : (xorStream keystream (inp.take 16) ++ tail).take 16 =
        xorStream keystream (inp.take 16) ∧
        (xorStream keystream (inp.take 16) ++ tail).drop 16 = tail := by
      by_cases hfull : 16 ≤ inp.length
      · exact ⟨List.take_left' (by omega), List.drop_left' (by omega)⟩
      · have hempty : tail = [] := by
          rw [← htail, List.drop_eq_nil_of_le (by omega), encr_nil]
        rw [hempty, List.append_nil]
        exact ⟨List.take_of_length_le (by omega), List.drop_eq_nil_of_le (by omega)⟩
    rw [encr_of_ne_nil block fuel counter a hne, hks, hsplit.1, hsplit.2, xorStream_xorStream,
      ← htail, ih (counter + 1) (inp.drop 16) hrest, List.take_append_drop]

/-! ### The tag -/

theorem constantTimeCompare_iff (a b : Bytes) (length : Nat) :
    constantTimeCompare a b length = true ↔ ∀ i < length, a.getD i 0 = b.getD i 0 := by
  have hfold : (List.range length).foldl (fun diff i => diff ||| (a.getD i 0 ^^^ b.getD i 0)) 0 =
      (0 : UInt8) ↔ ∀ i < length, a.getD i 0 = b.getD i 0 := by
    induction length with
    | zero => simp
    | succ n ih =>
      rw [List.range_succ, List.foldl_append, List.foldl_cons, List.foldl_nil,
        UInt8.or_eq_zero_iff, ih, UInt8.xor_eq_zero_iff]
      constructor
      · rintro ⟨hbefore, hlast⟩ i hi
        rcases Nat.lt_succ_iff_lt_or_eq.mp hi with h | rfl
        · exact hbefore i h
        · exact hlast
      · intro h
        exact ⟨fun i hi => h i (Nat.lt_succ_of_lt hi), h n (Nat.lt_succ_self n)⟩
  rw [constantTimeCompare, decide_eq_true_eq]
  exact hfold

theorem getD_maskTag {macLen i : Nat} (x a : Bytes) (hi : i < macLen) :
    (maskTag block macLen x a).getD i 0 =
      x.getD i 0 ^^^ (encryptBlocks block (putBe16 a 14 0)).getD i 0 := by
  simp [maskTag, hi]

@[simp] theorem length_maskTag (macLen : Nat) (x a : Bytes) :
    (maskTag block macLen x a).length = macLen := by
  simp [maskTag]

theorem compare_maskTag_iff {macLen : Nat} (x a tag : Bytes) (htag : tag.length = macLen) :
    constantTimeCompare x (maskTag block macLen tag a) macLen = true ↔
      maskTag block macLen x a = tag := by
  rw [constantTimeCompare_iff]
  constructor
  · intro h
    apply List.ext_getElem (by rw [length_maskTag, htag])
    intro i h₁ h₂
    have hi : i < macLen := htag ▸ h₂
    have hx := h i hi
    rw [getD_maskTag block tag a hi] at hx
    have hmask := getD_maskTag block x a hi
    rw [hx, UInt8.xor_assoc, UInt8.xor_self, UInt8.xor_zero] at hmask
    rwa [List.getD_eq_getElem _ _ h₁, List.getD_eq_getElem _ _ h₂] at hmask
  · rintro rfl i hi
    rw [getD_maskTag block _ a hi, getD_maskTag block x a hi, UInt8.xor_assoc, UInt8.xor_self,
      UInt8.xor_zero]

/-- **Decryption accepts exactly what encryption makes**, whatever the block function, the
    nonce and the associated data are. -/
theorem decrypt_eq_some_iff {nonce ciphertext tag aad plain : Bytes} {macLen : Nat}
    (htag : tag.length = macLen) :
    decrypt block nonce macLen ciphertext tag aad = some plain ↔
      encrypt block nonce macLen plain aad = some (ciphertext, tag) := by
  unfold decrypt encrypt
  by_cases hinvalid : aad.length > 30 ∨ macLen > AES_BLOCK_SIZE
  · simp [hinvalid]
  rw [if_neg hinvalid, if_neg hinvalid]
  dsimp only
  have hlength := length_encr block (ciphertext.length + 1) 1 ciphertext (encrStart nonce)
    (Nat.lt_succ_self _)
  constructor
  · intro h
    split at h
    · rename_i hcompare
      obtain rfl := Option.some.inj h
      have hinverse := encr_encr block (ciphertext.length + 1) 1 ciphertext (encrStart nonce)
        (Nat.lt_succ_self _)
      rw [compare_maskTag_iff block _ _ _ htag] at hcompare
      rw [hlength] at hcompare ⊢
      rw [hinverse, hcompare]
    · cases h
  · intro h
    obtain ⟨hcipher, hmask⟩ := Prod.mk.inj (Option.some.inj h)
    have hplain := length_encr block (plain.length + 1) 1 plain (encrStart nonce)
      (Nat.lt_succ_self _)
    have hinverse := encr_encr block (plain.length + 1) 1 plain (encrStart nonce)
      (Nat.lt_succ_self _)
    rw [hcipher] at hplain hinverse
    rw [hplain, hinverse, if_pos ((compare_maskTag_iff block _ _ _ htag).mpr hmask)]

theorem length_of_encrypt {nonce plain aad ciphertext tag : Bytes} {macLen : Nat}
    (h : encrypt block nonce macLen plain aad = some (ciphertext, tag)) :
    ciphertext.length = plain.length ∧ tag.length = macLen := by
  unfold encrypt at h
  split at h
  · cases h
  · obtain ⟨rfl, rfl⟩ := Prod.mk.inj (Option.some.inj h)
    exact ⟨length_encr block _ 1 plain _ (Nat.lt_succ_self _), length_maskTag block _ _ _⟩

end Engine

end AesCcm

namespace PkiCrypto

/-! ### Exceptions -/

variable (prim : CryptoPrimitives)

/-- `struct.unpack("<I", bytes)[0]`. -/
def unpackU32 (bytes : Bytes) : Except PyException Nat :=
  if bytes.length = 4 then .ok (leValue bytes) else .error .structError

/-- `derive_shared_key` with what it raises. -/
def deriveSharedKeyOrRaise (privateKey remotePublicKey : Bytes) : Except PyException AesKey :=
  match deriveSharedKey prim privateKey remotePublicKey with
  | some key => .ok key
  | none => .error .valueError

/-- `decrypt_pki_payload` as it is run: a body under a handler of all exceptions. -/
def runDecryptPkiPayload (encrypted privateKey remotePublicKey : Bytes)
    (fromNodeId packetId : Nat) : Except PyException (Option Bytes) :=
  if encrypted.length ≤ PKC_OVERHEAD then .ok none
  else
    let bodyLen := encrypted.length - PKC_OVERHEAD
    let ciphertext := encrypted.take bodyLen
    let auth := encrypted.drop bodyLen
    tryCatch
      (unpackU32 ((auth.drop 8).take 4) >>= fun extraNonce =>
        deriveSharedKeyOrRaise prim privateKey remotePublicKey >>= fun sharedKey =>
          .ok (AesCcm.decrypt (prim.aesBlock sharedKey)
            (buildPkiNonce fromNodeId packetId extraNonce) PKC_MIC_LEN ciphertext
            (auth.take PKC_MIC_LEN) []))
      fun _ => .ok none

theorem runDecryptPkiPayload_eq (encrypted privateKey remotePublicKey : Bytes)
    (fromNodeId packetId : Nat) :
    runDecryptPkiPayload prim encrypted privateKey remotePublicKey fromNodeId packetId =
      .ok (decryptPkiPayload prim encrypted privateKey remotePublicKey fromNodeId packetId) := by
  unfold runDecryptPkiPayload decryptPkiPayload
  by_cases hshort : encrypted.length ≤ PKC_OVERHEAD
  · rw [if_pos hshort, if_pos hshort]
  rw [if_neg hshort, if_neg hshort]
  have hfour : (((encrypted.drop (encrypted.length - PKC_OVERHEAD)).drop 8).take 4).length = 4 := by
    rw [PKC_OVERHEAD] at hshort ⊢
    simp only [List.length_take, List.length_drop]
    omega
  dsimp only
  rw [unpackU32, if_pos hfour, deriveSharedKeyOrRaise]
  cases deriveSharedKey prim privateKey remotePublicKey with
  | none => rfl
  | some key => rfl

/-! ### The parts of a payload -/

/-- The ciphertext, the tag and the extra nonce of a payload. -/
def bodyOf (encrypted : Bytes) : Bytes := encrypted.take (encrypted.length - PKC_OVERHEAD)
def tagOf (encrypted : Bytes) : Bytes :=
  (encrypted.drop (encrypted.length - PKC_OVERHEAD)).take PKC_MIC_LEN
def extraNonceOf (encrypted : Bytes) : Nat :=
  leValue (((encrypted.drop (encrypted.length - PKC_OVERHEAD)).drop 8).take 4)

/-- The tag of a payload is the CCM tag of its contents: some plaintext is encrypted to both
    under the payload's nonce. -/
def CarriesItsTag (sharedKey : AesKey) (fromNodeId packetId : Nat) (encrypted plaintext : Bytes) :
    Prop :=
  AesCcm.encrypt (prim.aesBlock sharedKey)
    (buildPkiNonce fromNodeId packetId (extraNonceOf encrypted)) PKC_MIC_LEN plaintext [] =
      some (bodyOf encrypted, tagOf encrypted)

theorem decryptPkiPayload_eq_some_iff {encrypted privateKey remotePublicKey plaintext : Bytes}
    {fromNodeId packetId : Nat} :
    decryptPkiPayload prim encrypted privateKey remotePublicKey fromNodeId packetId =
        some plaintext ↔
      PKC_OVERHEAD < encrypted.length ∧
        ∃ key, deriveSharedKey prim privateKey remotePublicKey = some key ∧
          CarriesItsTag prim key fromNodeId packetId encrypted plaintext := by
  unfold decryptPkiPayload
  by_cases hshort : encrypted.length ≤ PKC_OVERHEAD
  · rw [if_pos hshort]
    constructor
    · intro h
      cases h
    · rintro ⟨hlong, -⟩
      omega
  rw [if_neg hshort, and_iff_right (Nat.lt_of_not_le hshort)]
  have htag : (tagOf encrypted).length = PKC_MIC_LEN := by
    rw [tagOf, List.length_take, List.length_drop]
    simp only [PKC_OVERHEAD, PKC_MIC_LEN] at hshort ⊢
    omega
  dsimp only
  rw [Option.bind_eq_some_iff]
  exact exists_congr fun key => and_congr_right fun _ =>
    AesCcm.decrypt_eq_some_iff (prim.aesBlock key) htag

theorem parts_of_append (ciphertext : Bytes) {mic : Bytes} {extraNonce : Nat} (hmic : mic.length = 8)
    (hextra : extraNonce < 2 ^ 32) :
    bodyOf (ciphertext ++ mic ++ leBytes 4 extraNonce) = ciphertext ∧
      tagOf (ciphertext ++ mic ++ leBytes 4 extraNonce) = mic ∧
      extraNonceOf (ciphertext ++ mic ++ leBytes 4 extraNonce) = extraNonce := by
  have hbody : (ciphertext ++ mic ++ leBytes 4 extraNonce).length - PKC_OVERHEAD =
      ciphertext.length := by
    rw [List.length_append, List.length_append, length_leBytes, hmic, PKC_OVERHEAD]
    omega
  have hdrop : (ciphertext ++ mic ++ leBytes 4 extraNonce).drop ciphertext.length =
      mic ++ leBytes 4 extraNonce := by
    rw [List.append_assoc]
    exact List.drop_left' rfl
  have hnonce : leValue (leBytes 4 extraNonce) = extraNonce := leValue_leBytes hextra
  unfold bodyOf tagOf extraNonceOf
  rw [hbody, hdrop]
  refine ⟨?_, List.take_left' hmic, ?_⟩
  · rw [List.append_assoc]
    exact List.take_left' rfl
  · rw [List.drop_left' hmic, List.take_of_length_le (by rw [length_leBytes]), hnonce]

/-! ### Two parties -/

/-- A key pair of the length the functions take. -/
structure KeyPair where
  privateKey : Bytes
  publicKey : Bytes
  length_privateKey : privateKey.length = 32
  length_publicKey : publicKey.length = 32

variable {prim}

theorem deriveSharedKey_keyPairs (a b : KeyPair) :
    deriveSharedKey prim a.privateKey b.publicKey =
      (prim.x25519 a.privateKey b.publicKey).map fun shared =>
        ⟨prim.sha256 shared, Or.inr (prim.length_sha256 shared)⟩ :=
  if_neg (by simp [a.length_privateKey, b.length_publicKey])

theorem deriveSharedKey_comm {a b : KeyPair} (hcommutes :
    prim.x25519 a.privateKey b.publicKey = prim.x25519 b.privateKey a.publicKey) :
    deriveSharedKey prim b.privateKey a.publicKey =
      deriveSharedKey prim a.privateKey b.publicKey := by
  rw [deriveSharedKey_keyPairs, deriveSharedKey_keyPairs, hcommutes]

theorem encryptPkiPayload_eq_some_iff {plaintext privateKey remotePublicKey encrypted : Bytes}
    {fromNodeId packetId extraNonce : Nat} :
    encryptPkiPayload prim plaintext privateKey remotePublicKey fromNodeId packetId extraNonce =
        some encrypted ↔
      ∃ key, deriveSharedKey prim privateKey remotePublicKey = some key ∧
        ∃ ciphertext mic, AesCcm.encrypt (prim.aesBlock key)
            (buildPkiNonce fromNodeId packetId extraNonce) PKC_MIC_LEN plaintext [] =
            some (ciphertext, mic) ∧
          encrypted = ciphertext ++ mic ++ leBytes 4 extraNonce := by
  unfold encryptPkiPayload
  simp only [Option.bind_eq_bind, Option.bind_eq_some_iff, Option.pure_def, Option.some.injEq,
    Prod.exists]
  exact exists_congr fun key => and_congr_right fun _ => exists_congr fun ciphertext =>
    exists_congr fun mic => and_congr_right fun _ => eq_comm

theorem encryptPkiPayload_isSome (a b : KeyPair) (plaintext : Bytes)
    (fromNodeId packetId extraNonce : Nat) :
    (encryptPkiPayload prim plaintext a.privateKey b.publicKey fromNodeId packetId
      extraNonce).isSome = (prim.x25519 a.privateKey b.publicKey).isSome := by
  rw [encryptPkiPayload, deriveSharedKey_keyPairs]
  cases prim.x25519 a.privateKey b.publicKey with
  | none => rfl
  | some shared => rfl

variable (prim)

/-- **Direct messages round-trip and are authenticated.**  Between two key pairs whose exchange
    commutes, a payload is made whenever the exchange returns; it is twelve bytes longer than its
    plaintext and decrypts to it.  With any keys whatever, a payload that is too short or does not
    carry the tag of its contents decrypts to `None`, and no exception leaves the function. -/
theorem decrypt_encryptPkiPayload (sender recipient : KeyPair)
    (hcommutes : prim.x25519 sender.privateKey recipient.publicKey =
      prim.x25519 recipient.privateKey sender.publicKey) :
    (∀ plaintext fromNodeId packetId extraNonce, plaintext ≠ [] → extraNonce < 2 ^ 32 →
      (encryptPkiPayload prim plaintext sender.privateKey recipient.publicKey fromNodeId packetId
        extraNonce).isSome = (prim.x25519 sender.privateKey recipient.publicKey).isSome ∧
      ∀ encrypted, encryptPkiPayload prim plaintext sender.privateKey recipient.publicKey fromNodeId
          packetId extraNonce = some encrypted →
        encrypted.length = plaintext.length + 12 ∧
          runDecryptPkiPayload prim encrypted recipient.privateKey sender.publicKey fromNodeId
            packetId = .ok (some plaintext)) ∧
    ∀ payload privateKey remotePublicKey fromNodeId packetId,
      (payload.length ≤ 12 ∨ ∀ key, deriveSharedKey prim privateKey remotePublicKey = some key →
        ∀ plaintext, ¬ CarriesItsTag prim key fromNodeId packetId payload plaintext) →
      runDecryptPkiPayload prim payload privateKey remotePublicKey fromNodeId packetId =
        .ok none := by
  constructor
  · intro plaintext fromNodeId packetId extraNonce hne hextra
    refine ⟨encryptPkiPayload_isSome sender recipient plaintext fromNodeId packetId extraNonce, ?_⟩
    intro encrypted hencrypted
    obtain ⟨key, hkey, ciphertext, mic, hccm, rfl⟩ := encryptPkiPayload_eq_some_iff.mp hencrypted
    obtain ⟨hcipher, hmic⟩ := AesCcm.length_of_encrypt (prim.aesBlock key) hccm
    obtain ⟨hbody, htag, hnonce⟩ := parts_of_append ciphertext hmic hextra
    have hlength : (ciphertext ++ mic ++ leBytes 4 extraNonce).length = plaintext.length + 12 := by
      rw [List.length_append, List.length_append, hcipher, hmic, length_leBytes, PKC_MIC_LEN]
    refine ⟨hlength, ?_⟩
    rw [runDecryptPkiPayload_eq, Except.ok.injEq, decryptPkiPayload_eq_some_iff, hlength]
    refine ⟨?_, key, (deriveSharedKey_comm hcommutes).trans hkey, ?_⟩
    · have hpos : 0 < plaintext.length := List.length_pos_of_ne_nil hne
      rw [PKC_OVERHEAD]
      omega
    · rw [CarriesItsTag, hbody, htag, hnonce]
      exact hccm
  · intro payload privateKey remotePublicKey fromNodeId packetId h
    rw [runDecryptPkiPayload_eq, Except.ok.injEq, Option.eq_none_iff_forall_ne_some]
    intro plaintext hsome
    obtain ⟨hlong, key, hkey, htag⟩ := (decryptPkiPayload_eq_some_iff prim).mp hsome
    rcases h with hshort | hnone
    · exact absurd hlong (Nat.not_lt_of_le hshort)
    · exact hnone key hkey plaintext htag

/-! ### A message of two letters -/

/-- The key exchange of two nodes, the digest of their secret and its CCM blocks. -/
def pairPrimitives : CryptoPrimitives :=
  let shared := ofHex "55e832a7ed7d0f03b46e908d9cca795de2d2bf140fd80308e85a06069ae2b7a4"
  let secret := ofHex "a84dc7c3c8f058b1b2dc4cd1e9b5dc0a7987f88b6a9564cde3391fc421159e77"
  .ofTable
    [(shared, ofHex "192a000000040302010200bbbb000002", ofHex "5500349057af3f5c0dcc9052ffbea366"),
      (shared, ofHex "3d69349057af3f5c0dcc9052ffbea366", ofHex "5fdc1c0a2afe835c4cd89fd5766bcd02"),
      (shared, ofHex "012a000000040302010200bbbb000001", ofHex "cce46d292d86c405fb6de6e63c3831ec"),
      (shared, ofHex "012a000000040302010200bbbb000000", ofHex "7a5e3e0c61065181ef742f2a9422669b")]
    [(ofHex "0102030405060708090a0b0c0d0e0f101112131415161718191a1b1c1d1e1f20",
      ofHex "5869aff450549732cbaaed5e5df9b30a6da31cb0e5742bad5ad4a1a768f1a67b", secret),
      (ofHex "2122232425262728292a2b2c2d2e2f303132333435363738393a3b3c3d3e3f40",
      ofHex "07a37cbc142093c8b755dc1b10e86cb426374ad16aa853ed0bdfc0b2b86d1c7c", secret)]
    [(secret, shared)]

def nodeB : KeyPair where
  privateKey := ofHex "0102030405060708090a0b0c0d0e0f101112131415161718191a1b1c1d1e1f20"
  publicKey := ofHex "07a37cbc142093c8b755dc1b10e86cb426374ad16aa853ed0bdfc0b2b86d1c7c"
  length_privateKey := by decide +kernel
  length_publicKey := by decide +kernel

def nodeA : KeyPair where
  privateKey := ofHex "2122232425262728292a2b2c2d2e2f303132333435363738393a3b3c3d3e3f40"
  publicKey := ofHex "5869aff450549732cbaaed5e5df9b30a6da31cb0e5742bad5ad4a1a768f1a67b"
  length_privateKey := by decide +kernel
  length_publicKey := by decide +kernel

theorem decrypt_encryptPkiPayload_hi :
    encryptPkiPayload pairPrimitives (ofHex "6869") nodeB.privateKey nodeA.publicKey 0xbbbb0002 42
        0x01020304 = some (ofHex "a48d258222064bf8d2dd04030201") ∧
      runDecryptPkiPayload pairPrimitives (ofHex "a48d258222064bf8d2dd04030201") nodeA.privateKey
        nodeB.publicKey 0xbbbb0002 42 = .ok (some (ofHex "6869")) := by
  have hencrypted : encryptPkiPayload pairPrimitives (ofHex "6869") nodeB.privateKey
      nodeA.publicKey 0xbbbb0002 42 0x01020304 =
        some (ofHex "a48d258222064bf8d2dd04030201") := by
    decide +kernel
  refine ⟨hencrypted, ?_⟩
  have hround := (decrypt_encryptPkiPayload pairPrimitives nodeB nodeA
    (by decide +kernel)).1 (ofHex "6869") 0xbbbb0002 42 0x01020304 (by decide +kernel) (by decide)
  exact (hround.2 _ hencrypted).2

end PkiCrypto

end Meshpoint
