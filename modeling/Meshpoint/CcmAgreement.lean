import Mathlib.Order.Basic
import Meshpoint.CcmMode
import Meshpoint.PkiRoundTrip

/-!
# The AES-CCM engine and the standard

The engine of `src/decode/meshtastic_aes_ccm.py` is CCM with a length field of two bytes
(`ccm_agrees`), for any block function.  Its authentication state may be two blocks long after
short associated data; only the first block counts, which is what `Begins` follows.
-/

namespace Meshpoint.AesCcm

open ByteCodec CcmMode

section

variable {block : Bytes → Bytes} (hblock : ∀ b, (block b).length = 16)

/-! ### The authentication state -/

def Begins (x state : Bytes) : Prop := 16 ≤ x.length ∧ x.take 16 = state

@[simp] theorem length_xorBlock (dst src : Bytes) : (xorBlock dst src).length = dst.length := by
  simp [xorBlock]

theorem xor_comm (x y : Bytes) : CcmMode.xor x y = CcmMode.xor y x :=
  List.zipWith_comm_of_comm fun a b => UInt8.xor_comm a b

theorem take_xorBlock {dst src : Bytes} (hdst : 16 ≤ dst.length) (hsrc : 16 ≤ src.length) :
    (xorBlock dst src).take 16 = CcmMode.xor (dst.take 16) (src.take 16) := by
  apply List.ext_getElem
  · simp only [List.length_take, length_xorBlock, CcmMode.xor, List.length_zipWith]
    omega
  · intro i h₁ h₂
    have hi : i < 16 := by
      rw [List.length_take] at h₁
      omega
    have hsrcLt : i < src.length := by omega
    simp [xorBlock, CcmMode.xor, AES_BLOCK_SIZE, hi, List.getElem?_eq_getElem hsrcLt]

include hblock in
theorem begins_encryptBlocks {b : Bytes} (h : 16 ≤ b.length) :
    Begins (encryptBlocks block b) (block (b.take 16)) := by
  obtain ⟨n, hn⟩ : ∃ n, b.length = n + 1 := ⟨b.length - 1, by omega⟩
  have hne : b ≠ [] := List.ne_nil_of_length_pos (by omega)
  rw [encryptBlocks, hn, encryptBlock, if_neg hne]
  refine ⟨?_, List.take_left' (hblock _)⟩
  rw [List.length_append, hblock]
  omega

theorem encryptBlocks_of_length {b : Bytes} (h : b.length = 16) :
    encryptBlocks block b = block b := by
  have hempty : ∀ fuel, encryptBlock block fuel [] = [] := by
    intro fuel
    cases fuel with
    | zero => rfl
    | succ fuel => rw [encryptBlock, if_pos rfl]
  have hne : b ≠ [] := List.ne_nil_of_length_pos (by omega)
  rw [encryptBlocks, h, encryptBlock, if_neg hne, List.take_of_length_le h.le,
    List.drop_eq_nil_of_le h.le, hempty, List.append_nil]

include hblock in
theorem begins_macStep {x state data : Bytes} (h : Begins x state) (hdata : data.length = 16) :
    Begins (encryptBlocks block (xorBlock x data)) (macStep block state data) := by
  have hbegins := begins_encryptBlocks hblock (b := xorBlock x data) (by
    rw [length_xorBlock]
    exact h.1)
  rwa [take_xorBlock h.1 hdata.ge, h.2, List.take_of_length_le hdata.le] at hbegins

include hblock in
/-- **The data is absorbed** block by block. -/
theorem begins_auth (fuel : Nat) {data x state : Bytes} (hfuel : data.length < fuel)
    (h : Begins x state) :
    Begins (auth block fuel data x) ((blocks (pad data)).foldl (macStep block) state) := by
  induction fuel generalizing data x state with
  | zero => exact absurd hfuel (Nat.not_lt_zero _)
  | succ fuel ih =>
    rw [auth]
    by_cases hfull : 16 ≤ data.length
    · have htake : (data.take 16).length = 16 := by
        rw [List.length_take]
        omega
      rw [if_pos hfull, blocks_pad_of_le hfull, List.foldl_cons]
      apply ih
      · rw [List.length_drop]
        omega
      · exact begins_macStep hblock h htake
    · rw [if_neg hfull]
      by_cases hnil : data = []
      · rw [if_pos hnil, hnil]
        exact h
      · rw [if_neg hnil, blocks_pad_of_lt hnil (by omega), List.foldl_cons, List.foldl_nil]
        apply begins_macStep hblock h
        rw [List.length_append, List.length_replicate]
        omega

/-! ### The first blocks -/

theorem beBytes_two (n : Nat) : beBytes 2 n = [UInt8.ofNat (n / 256), UInt8.ofNat n] := by
  have hmod : ∀ k, UInt8.ofNat (k % 256) = UInt8.ofNat k := by
    intro k
    apply UInt8.toNat_inj.mp
    simp
  simp only [beBytes, leBytes, List.reverse_cons, List.reverse_nil, List.nil_append,
    List.singleton_append, hmod]

theorem putBe16_last {front : Bytes} (h : front.length = 14) (n : Nat) :
    putBe16 (front ++ [0, 0]) 14 n = front ++ beBytes 2 n := by
  have hnext : front.length + 1 - front.length = 1 := Nat.add_sub_cancel_left _ _
  rw [putBe16, ← h, List.set_append_right _ _ (le_refl _), Nat.sub_self,
    List.set_append_right _ _ (Nat.le_succ _), hnext, beBytes_two]
  rfl

theorem putBe16_first (rest : Bytes) (n : Nat) :
    putBe16 (List.replicate 2 0 ++ rest) 0 n = beBytes 2 n ++ rest := by
  rw [beBytes_two]
  rfl

theorem putBe16_encrStart {nonce : Bytes} (hnonce : nonce.length = 13) (i : Nat) :
    putBe16 (encrStart nonce) 14 i = counterBlock 2 nonce i := by
  have hfront : ([1] ++ nonce.take 13).length = 14 := by simp [hnonce]
  rw [encrStart, putBe16_last hfront, List.take_of_length_le hnonce.le]
  rfl

theorem flags_eq {macLen : Nat} (hlow : 4 ≤ macLen) (hhigh : macLen ≤ 16) (aad : Bytes) :
    (if aad = [] then 0 else 0x40) ||| UInt8.ofNat ((macLen - 2) / 2 * 8) ||| 1 =
      UInt8.ofNat (64 * (if aad = [] then 0 else 1) + 8 * ((macLen - 2) / 2) + (2 - 1)) := by
  obtain ⟨k, hk, hk7⟩ : ∃ k, (macLen - 2) / 2 = k ∧ k < 8 := ⟨_, rfl, by omega⟩
  rw [hk]
  have hall : ∀ k < 8, (0 ||| UInt8.ofNat (k * 8) ||| 1 = UInt8.ofNat (64 * 0 + 8 * k + (2 - 1))) ∧
      (0x40 ||| UInt8.ofNat (k * 8) ||| 1 = UInt8.ofNat (64 * 1 + 8 * k + (2 - 1))) := by decide
  split
  · exact (hall k hk7).1
  · exact (hall k hk7).2

/-- The associated data in the buffer of `_auth_start`, behind its length. -/
def aadBuffer (aad : Bytes) : Bytes :=
  beBytes 2 aad.length ++ aad ++ List.replicate (30 - aad.length) 0

theorem length_aadBuffer {aad : Bytes} (haad : aad.length ≤ 30) : (aadBuffer aad).length = 32 := by
  simp only [aadBuffer, List.length_append, length_beBytes, List.length_replicate]
  omega

theorem aadBlocks_eq {aad : Bytes} (hne : aad ≠ []) (haad : aad.length ≤ 30) :
    aadBlocks aad = (aadBuffer aad).take 16 ::
      if aad.length > 14 then [(aadBuffer aad).drop 16] else [] := by
  have hlength : (beBytes 2 aad.length ++ aad).length = 2 + aad.length := by
    rw [List.length_append, length_beBytes]
  have hencode : encodeLength aad.length = beBytes 2 aad.length := if_pos (by omega)
  rw [aadBlocks, if_neg hne, hencode]
  by_cases hlong : aad.length > 14
  · have hpad : pad (beBytes 2 aad.length ++ aad) = aadBuffer aad := by
      have hzeros : (16 - (2 + aad.length) % 16) % 16 = 30 - aad.length := by omega
      rw [pad, hlength, hzeros, aadBuffer]
    have htake : ((aadBuffer aad).take 16).length = 16 := by
      rw [List.length_take, length_aadBuffer haad]
      rfl
    have hdrop : ((aadBuffer aad).drop 16).length = 16 := by
      rw [List.length_drop, length_aadBuffer haad]
    have hblocks := blocks_append htake ((aadBuffer aad).drop 16)
    rw [List.take_append_drop, blocks_of_length hdrop] at hblocks
    rw [if_pos hlong, hpad, hblocks]
  · have hpad : pad (beBytes 2 aad.length ++ aad) = (aadBuffer aad).take 16 := by
      have hzeros : (16 - (2 + aad.length) % 16) % 16 = 14 - aad.length := by omega
      have hsplit : List.replicate (30 - aad.length) (0 : UInt8) =
          List.replicate (14 - aad.length) 0 ++ List.replicate 16 0 := by
        rw [← List.replicate_add]
        congr 1
        omega
      rw [pad, hlength, hzeros, aadBuffer, hsplit, ← List.append_assoc]
      symm
      apply List.take_left'
      rw [List.length_append, hlength, List.length_replicate]
      omega
    have htake : ((aadBuffer aad).take 16).length = 16 := by
      rw [List.length_take, length_aadBuffer haad]
      rfl
    rw [if_neg hlong, hpad, blocks_of_length htake]

theorem drop_xorBlock (dst src : Bytes) : (xorBlock dst src).drop 16 = dst.drop 16 := by
  apply List.ext_getElem
  · simp only [List.length_drop, length_xorBlock]
  · intro i h₁ h₂
    have hnot : ¬ 16 + i < 16 := by omega
    simp [xorBlock, AES_BLOCK_SIZE, hnot]

include hblock in
/-- **The state before the message** is that of the first block and the associated data. -/
theorem begins_authStart {macLen : Nat} {nonce aad : Bytes} (hlow : 4 ≤ macLen)
    (hhigh : macLen ≤ 16) (hnonce : nonce.length = 13) (haad : aad.length ≤ 30)
    (message : Bytes) :
    Begins (authStart block macLen nonce aad message.length)
      ((aadBlocks aad).foldl (macStep block) (block (firstBlock macLen 2 nonce aad message))) := by
  have hfirst : putBe16 ([(if aad = [] then 0 else 0x40) |||
      UInt8.ofNat ((macLen - 2) / 2 * 8) ||| 1] ++ nonce.take 13 ++ [0, 0]) 14 message.length =
        firstBlock macLen 2 nonce aad message := by
    rw [putBe16_last (by simp [hnonce]), flags_eq hlow hhigh, List.take_of_length_le hnonce.le]
    rfl
  have hlength : (firstBlock macLen 2 nonce aad message).length = 16 := by
    simp [firstBlock, hnonce, length_beBytes]
  have hsixteen := hblock (firstBlock macLen 2 nonce aad message)
  have hbuffer : putBe16 (List.replicate 2 0 ++ aad ++ List.replicate (30 - aad.length) 0) 0
      aad.length = aadBuffer aad := by
    rw [List.append_assoc, putBe16_first, ← List.append_assoc, aadBuffer]
  unfold authStart
  dsimp only
  rw [hfirst, encryptBlocks_of_length hlength, hbuffer]
  generalize block (firstBlock macLen 2 nonce aad message) = x₀ at hsixteen ⊢
  by_cases hnil : aad = []
  · rw [if_pos hnil, aadBlocks, if_pos hnil]
    exact ⟨hsixteen.ge, List.take_of_length_le hsixteen.le⟩
  have htwo := length_aadBuffer haad
  have hx₁ : Begins (encryptBlocks block (xorBlock (aadBuffer aad) x₀))
      (macStep block x₀ ((aadBuffer aad).take 16)) := by
    have hbegins := begins_encryptBlocks hblock (b := xorBlock (aadBuffer aad) x₀) (by
      rw [length_xorBlock, htwo]
      decide)
    rwa [take_xorBlock (by omega) hsixteen.ge, xor_comm,
      List.take_of_length_le hsixteen.le] at hbegins
  rw [if_neg hnil, aadBlocks_eq hnil haad]
  by_cases hlong : aad.length > 14
  · have hdrop : ((aadBuffer aad).drop 16).length = 16 := by
      rw [List.length_drop, htwo]
    have htail := begins_encryptBlocks hblock (b := xorBlock ((aadBuffer aad).drop 16)
        (encryptBlocks block (xorBlock (aadBuffer aad) x₀))) (by
      rw [length_xorBlock, hdrop])
    rw [take_xorBlock hdrop.ge hx₁.1, hx₁.2, xor_comm, List.take_of_length_le hdrop.le] at htail
    rw [if_pos hlong, if_pos hlong, drop_xorBlock, List.take_of_length_le hdrop.le]
    exact htail
  · rw [if_neg hlong, if_neg hlong]
    exact hx₁

/-! ### The keystream and the tag -/

theorem keystream_eq {nonce : Bytes} (hnonce : nonce.length = 13) (i : Nat) :
    encryptBlocks block (putBe16 (encrStart nonce) 14 i) = block (counterBlock 2 nonce i) := by
  rw [putBe16_encrStart hnonce]
  apply encryptBlocks_of_length
  simp [counterBlock, hnonce]

theorem encr_eq {nonce : Bytes} (hnonce : nonce.length = 13) (fuel counter : Nat) {inp : Bytes}
    (hfuel : inp.length < fuel) :
    encr block fuel counter inp (encrStart nonce) =
      inp.mapIdx fun j b =>
        b ^^^ (block (counterBlock 2 nonce (counter + j / 16))).getD (j % 16) 0 := by
  induction fuel generalizing counter inp with
  | zero => exact absurd hfuel (Nat.not_lt_zero _)
  | succ fuel ih =>
    by_cases hnil : inp = []
    · rw [hnil, encr_nil, List.mapIdx_nil]
    have hpos := List.length_pos_of_ne_nil hnil
    rw [encr_of_ne_nil block fuel counter _ hnil, keystream_eq hnonce,
      ih (counter + 1) (by rw [List.length_drop]; omega)]
    conv_rhs => rw [← List.take_append_drop 16 inp, List.mapIdx_append]
    congr 1
    · rw [xorStream, List.mapIdx_eq_mapIdx_iff]
      intro j hj
      have hj' : j < 16 := by
        rw [List.length_take] at hj
        omega
      rw [Nat.div_eq_of_lt hj', Nat.mod_eq_of_lt hj', Nat.add_zero, UInt8.xor_comm]
    · rw [List.mapIdx_eq_mapIdx_iff]
      intro j hj
      -- what is left of the text begins with the next block
      have hfull : (inp.take 16).length = 16 := by
        rw [List.length_drop] at hj
        rw [List.length_take]
        omega
      have hdiv : counter + (j + 16) / 16 = counter + 1 + j / 16 := by omega
      rw [hfull, hdiv, Nat.add_mod_right]

theorem encr_eq_crypt {nonce : Bytes} (hnonce : nonce.length = 13) (inp : Bytes) :
    encr block (inp.length + 1) 1 inp (encrStart nonce) = crypt block 2 nonce inp := by
  rw [encr_eq hnonce _ _ (Nat.lt_succ_self _)]
  unfold crypt keystreamByte
  simp only [Nat.add_comm]

include hblock in
theorem maskTag_eq {x state nonce : Bytes} {macLen : Nat} (h : Begins x state)
    (hnonce : nonce.length = 13) (hmac : macLen ≤ 16) :
    maskTag block macLen x (encrStart nonce) =
      CcmMode.xor (state.take macLen) ((block (counterBlock 2 nonce 0)).take macLen) := by
  have hkey := hblock (counterBlock 2 nonce 0)
  have hstate : state.length = 16 := by
    rw [← h.2, List.length_take]
    exact Nat.min_eq_left h.1
  unfold maskTag
  rw [keystream_eq hnonce]
  apply List.ext_getElem
  · simp only [List.length_map, List.length_range, CcmMode.xor, List.length_zipWith,
      List.length_take]
    omega
  · intro i h₁ h₂
    have hi : i < macLen := by simpa using h₁
    have hx : x.getD i 0 = state.getD i 0 := by
      rw [← h.2, List.getD_eq_getElem?_getD, List.getD_eq_getElem?_getD,
        List.getElem?_take_of_lt (by omega)]
    simp only [List.getElem_map, List.getElem_range, CcmMode.xor, List.getElem_zipWith,
      List.getElem_take]
    rw [hx, List.getD_eq_getElem _ _ (by omega), List.getD_eq_getElem _ _ (by omega)]

/-! ### The engine -/

include hblock in
theorem encrypt_eq {nonce aad : Bytes} {macLen : Nat} (hnonce : nonce.length = 13)
    (haad : aad.length ≤ 30) (hlow : 4 ≤ macLen) (hhigh : macLen ≤ 16) (plaintext : Bytes) :
    encrypt block nonce macLen plaintext aad =
      some (CcmMode.encrypt block macLen 2 nonce aad plaintext) := by
  have hvalid : ¬ (aad.length > 30 ∨ macLen > AES_BLOCK_SIZE) := by
    rw [AES_BLOCK_SIZE]
    omega
  have hauth := begins_auth hblock (plaintext.length + 1) (Nat.lt_succ_self _)
    (begins_authStart hblock hlow hhigh hnonce haad plaintext)
  rw [← List.foldl_append] at hauth
  unfold encrypt
  rw [if_neg hvalid]
  dsimp only
  rw [encr_eq_crypt hnonce, maskTag_eq hblock hauth hnonce hhigh]
  rfl

/-- **The engine is CCM with a length field of two bytes**, whatever the block function: it
    encrypts to the ciphertext and the tag of the mode, decrypts these to the plaintext, and
    decrypts a ciphertext exactly when it comes with the tag of the decrypted text. -/
theorem ccm_agrees (block : Bytes → Bytes) (hblock : ∀ b, (block b).length = 16)
    (nonce aad : Bytes) (macLen : Nat) (hnonce : nonce.length = 13) (haad : aad.length ≤ 30)
    (hlow : 4 ≤ macLen) (hhigh : macLen ≤ 16) :
    (∀ plaintext, encrypt block nonce macLen plaintext aad =
        some (CcmMode.encrypt block macLen 2 nonce aad plaintext) ∧
      decrypt block nonce macLen (CcmMode.encrypt block macLen 2 nonce aad plaintext).1
        (CcmMode.encrypt block macLen 2 nonce aad plaintext).2 aad = some plaintext) ∧
    ∀ ciphertext tag, tag.length = macLen →
      decrypt block nonce macLen ciphertext tag aad =
        if tag = CcmMode.tag block macLen 2 nonce aad (CcmMode.crypt block 2 nonce ciphertext) then
          some (CcmMode.crypt block 2 nonce ciphertext)
        else none := by
  have hencrypt := encrypt_eq hblock hnonce haad hlow hhigh
  have hinverse : ∀ text, crypt block 2 nonce (crypt block 2 nonce text) = text := by
    intro text
    unfold crypt
    apply List.ext_getElem
    · simp
    · intro i h₁ h₂
      simp [UInt8.xor_assoc]
  constructor
  · intro plaintext
    refine ⟨hencrypt plaintext, ?_⟩
    exact (decrypt_eq_some_iff block (length_of_encrypt block (hencrypt plaintext)).2).mpr
      (hencrypt plaintext)
  · intro ciphertext tag htag
    split
    · rename_i heq
      rw [decrypt_eq_some_iff block htag, hencrypt, CcmMode.encrypt, hinverse, heq]
    · rename_i hne
      rw [Option.eq_none_iff_forall_ne_some]
      intro plain hsome
      rw [decrypt_eq_some_iff block htag, hencrypt] at hsome
      obtain ⟨hcipher, htag'⟩ := Prod.mk.inj (Option.some.inj hsome)
      apply hne
      rw [← hcipher, hinverse, htag']

end

/-! ### A message of two blocks -/

def countingKey : AesKey where
  bytes := ofHex "000102030405060708090a0b0c0d0e0f"
  lengthOk := by decide +kernel

def countingBlocks : CryptoPrimitives :=
  .ofTable
    ([("49101112131415161718191a1b1c0012", "d80397db95529a2214e1939f8d7a2f93"),
      ("d8013d6095529a2214e1939f8d7a2f93", "70f215b171f11eeb5de68fc05df095ad"),
      ("00000000000000000000000000000000", "c6a13b37878f5b826f4f8162a1c8d879"),
      ("50d3379255d438cc75cfa5eb71ddbb82", "cfffceda04bd4f54e01cfb563e9b9628"),
      ("ffceceda04bd4f54e01cfb563e9b9628", "705bf4c74e50343e0567bc74da3e24d7"),
      ("01101112131415161718191a1b1c0000", "0d2e2b83cb3ca785fd3d79738e73dfd1"),
      ("01101112131415161718191a1b1c0001", "7ce17041b85ceed4bb5948912f076c81"),
      ("01101112131415161718191a1b1c0002", "2ad355797f979e2a3d4d1ad38eb88543")].map
        fun entry => (countingKey.bytes, ofHex entry.1, ofHex entry.2)) [] []

theorem ccm_agrees_counting :
    encrypt (countingBlocks.aesBlock countingKey) (ofHex "101112131415161718191a1b1c") 4
        (ofHex "202122232425262728292a2b2c2d2e2f3031") (ofHex "aabb") =
      some (ofHex "5cc052629c79c8f3937062ba032a42ae1ae2", ofHex "7d75df44") ∧
    CcmMode.encrypt (countingBlocks.aesBlock countingKey) 4 2
        (ofHex "101112131415161718191a1b1c") (ofHex "aabb")
        (ofHex "202122232425262728292a2b2c2d2e2f3031") =
      (ofHex "5cc052629c79c8f3937062ba032a42ae1ae2", ofHex "7d75df44") := by
  have hengine : encrypt (countingBlocks.aesBlock countingKey)
      (ofHex "101112131415161718191a1b1c") 4 (ofHex "202122232425262728292a2b2c2d2e2f3031")
      (ofHex "aabb") =
        some (ofHex "5cc052629c79c8f3937062ba032a42ae1ae2", ofHex "7d75df44") := by
    decide +kernel
  have hagrees := ccm_agrees (countingBlocks.aesBlock countingKey)
    (countingBlocks.length_aesBlock countingKey) (ofHex "101112131415161718191a1b1c")
    (ofHex "aabb") 4 (by decide +kernel) (by decide +kernel) (by decide) (by decide)
  refine ⟨hengine, ?_⟩
  have hmode := (hagrees.1 (ofHex "202122232425262728292a2b2c2d2e2f3031")).1
  exact (Option.some.inj (hengine.symm.trans hmode)).symm

end Meshpoint.AesCcm
