import Mathlib.Data.List.GetD
import Meshpoint.ByteCodec

/-!
# Counter with CBC-MAC

The CCM mode over an arbitrary function on 16-byte blocks, with a tag of `M` bytes and a message
length in `L` bytes.  A message is authenticated by the CBC-MAC of its formatted blocks and
encrypted in counter mode; the tag is the first `M` bytes of the MAC under the keystream block 0.
-/

namespace CcmMode

open ByteCodec

/-! ### Blocks -/

def pad (s : Bytes) : Bytes := s ++ List.replicate ((16 - s.length % 16) % 16) 0

def blocks (s : Bytes) : List Bytes :=
  (List.range (s.length / 16)).map fun i => (s.drop (16 * i)).take 16

def xor (x y : Bytes) : Bytes := List.zipWith (· ^^^ ·) x y

@[simp] theorem blocks_nil : blocks [] = [] := rfl

theorem blocks_append {first : Bytes} (hfirst : first.length = 16) (rest : Bytes) :
    blocks (first ++ rest) = first :: blocks rest := by
  have hcount : (first ++ rest).length / 16 = rest.length / 16 + 1 := by
    rw [List.length_append, hfirst]
    omega
  have hdrop : ∀ i, (first ++ rest).drop (16 * (i + 1)) = rest.drop (16 * i) := by
    intro i
    have hsplit : 16 * (i + 1) = first.length + 16 * i := by omega
    rw [hsplit, ← List.drop_drop, List.drop_left' rfl]
  unfold blocks
  rw [hcount, List.range_succ_eq_map, List.map_cons, List.map_map]
  congr 1
  · exact List.take_left' hfirst
  · apply List.map_congr_left
    intro i _
    simp only [Function.comp_apply, hdrop]

theorem blocks_of_length {s : Bytes} (h : s.length = 16) : blocks s = [s] := by
  have hblocks := blocks_append h []
  rwa [List.append_nil, blocks_nil] at hblocks

theorem pad_append {first : Bytes} (hfirst : first.length = 16) (rest : Bytes) :
    pad (first ++ rest) = first ++ pad rest := by
  have hmod : (first ++ rest).length % 16 = rest.length % 16 := by
    rw [List.length_append, hfirst]
    omega
  rw [pad, pad, hmod, List.append_assoc]

theorem blocks_pad_of_le {s : Bytes} (h : 16 ≤ s.length) :
    blocks (pad s) = s.take 16 :: blocks (pad (s.drop 16)) := by
  have hfirst : (s.take 16).length = 16 := by
    rw [List.length_take]
    omega
  rw [← blocks_append hfirst, ← pad_append hfirst, List.take_append_drop]

theorem blocks_pad_of_lt {s : Bytes} (hne : s ≠ []) (h : s.length < 16) :
    blocks (pad s) = [s ++ List.replicate (16 - s.length) 0] := by
  have hpos := List.length_pos_of_ne_nil hne
  have hpad : pad s = s ++ List.replicate (16 - s.length) 0 := by
    rw [pad, Nat.mod_eq_of_lt h, Nat.mod_eq_of_lt (by omega)]
  rw [hpad]
  apply blocks_of_length
  rw [List.length_append, List.length_replicate]
  omega

/-! ### Authentication -/

/-- The length of the associated data in front of it. -/
def encodeLength (n : Nat) : Bytes :=
  if n < 0xFF00 then beBytes 2 n
  else if n < 2 ^ 32 then [0xFF, 0xFE] ++ beBytes 4 n
  else [0xFF, 0xFF] ++ beBytes 8 n

/-- The first block: the flags, the nonce and the length of the message. -/
def firstBlock (M L : Nat) (nonce aad message : Bytes) : Bytes :=
  UInt8.ofNat (64 * (if aad = [] then 0 else 1) + 8 * ((M - 2) / 2) + (L - 1)) ::
    (nonce ++ beBytes L message.length)

def aadBlocks (aad : Bytes) : List Bytes :=
  if aad = [] then [] else blocks (pad (encodeLength aad.length ++ aad))

/-- All blocks that are authenticated, after the first one. -/
def authBlocks (aad message : Bytes) : List Bytes := aadBlocks aad ++ blocks (pad message)

section

variable (E : Bytes → Bytes)

def macStep (x block : Bytes) : Bytes := E (xor x block)

def cbcMac (M L : Nat) (nonce aad message : Bytes) : Bytes :=
  (authBlocks aad message).foldl (macStep E) (E (firstBlock M L nonce aad message))

/-! ### Encryption -/

/-- The counter block `i`. -/
def counterBlock (L : Nat) (nonce : Bytes) (i : Nat) : Bytes :=
  UInt8.ofNat (L - 1) :: (nonce ++ beBytes L i)

/-- Byte `j` of the keystream for the message, which begins with block 1. -/
def keystreamByte (L : Nat) (nonce : Bytes) (j : Nat) : UInt8 :=
  (E (counterBlock L nonce (j / 16 + 1))).getD (j % 16) 0

def crypt (L : Nat) (nonce message : Bytes) : Bytes :=
  message.mapIdx fun j b => b ^^^ keystreamByte E L nonce j

def tag (M L : Nat) (nonce aad message : Bytes) : Bytes :=
  xor ((cbcMac E M L nonce aad message).take M) ((E (counterBlock L nonce 0)).take M)

def encrypt (M L : Nat) (nonce aad message : Bytes) : Bytes × Bytes :=
  (crypt E L nonce message, tag E M L nonce aad message)

end

end CcmMode
