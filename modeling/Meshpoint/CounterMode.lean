import Meshpoint.ByteCodec

/-!
# Counter mode

Texts xored byte by byte with a keystream of 16-byte blocks.  Counter mode takes the blocks from
an arbitrary block function of successive big-endian counters.  Applying a keystream twice gives
the text back (`xorWith_xorWith`), whatever the blocks are.
-/

namespace CounterMode

open ByteCodec

/-! ### Keystreams -/

/-- Byte `j` of a keystream of blocks. -/
def blockByte (blocks : Nat → Bytes) (j : Nat) : UInt8 := (blocks (j / 16)).getD (j % 16) 0

def xorWith (stream : Nat → UInt8) (text : Bytes) : Bytes := text.mapIdx fun j b => b ^^^ stream j

@[simp] theorem length_xorWith (stream : Nat → UInt8) (text : Bytes) :
    (xorWith stream text).length = text.length := by
  simp [xorWith]

/-- **A keystream applied twice.** -/
theorem xorWith_xorWith (stream : Nat → UInt8) (text : Bytes) :
    xorWith stream (xorWith stream text) = text := by
  refine List.ext_getElem (by simp) fun j h₁ h₂ => ?_
  simp [xorWith, UInt8.xor_assoc]

theorem length_flatMap_blocks {blocks : Nat → Bytes} (hblock : ∀ i, (blocks i).length = 16)
    (n : Nat) : ((List.range n).flatMap blocks).length = 16 * n := by
  rw [List.length_flatMap, List.map_congr_left fun i _ => hblock i]
  simp [Nat.mul_comm]

theorem getElem?_flatMap_blocks {blocks : Nat → Bytes} (hblock : ∀ i, (blocks i).length = 16)
    {n j : Nat} (h : j < 16 * n) :
    ((List.range n).flatMap blocks)[j]? = some (blockByte blocks j) := by
  induction n with
  | zero => omega
  | succ n ih =>
    have hlength := length_flatMap_blocks hblock n
    rw [List.range_succ, List.flatMap_append, List.flatMap_singleton]
    rcases Nat.lt_or_ge j (16 * n) with hj | hj
    · rw [List.getElem?_append_left (by omega), ih hj]
    · have hdiv : j / 16 = n := by omega
      have hmod : j - 16 * n = j % 16 := by omega
      have hin : j % 16 < (blocks n).length := by
        rw [hblock]
        omega
      rw [List.getElem?_append_right (by omega), hlength, hmod, blockByte, hdiv,
        List.getD_eq_getElem?_getD, List.getElem?_eq_getElem hin, Option.getD_some]

theorem zipWith_flatMap_blocks {blocks : Nat → Bytes} (hblock : ∀ i, (blocks i).length = 16)
    {n : Nat} {text : Bytes} (h : text.length ≤ 16 * n) :
    List.zipWith (· ^^^ ·) text ((List.range n).flatMap blocks) =
      xorWith (blockByte blocks) text := by
  apply List.ext_getElem?
  intro j
  unfold xorWith
  rw [List.getElem?_zipWith, List.getElem?_mapIdx]
  rcases Nat.lt_or_ge j text.length with hj | hj
  · rw [List.getElem?_eq_getElem hj, getElem?_flatMap_blocks hblock (Nat.lt_of_lt_of_le hj h)]
    rfl
  · rw [List.getElem?_eq_none hj]
    rfl

/-! ### Counter mode -/

/-- The counter block `i` steps after the initial one. -/
def counterBlock (initial : Bytes) (i : Nat) : Bytes := beBytes 16 ((beValue initial + i) % 2 ^ 128)

/-- Byte `j` of the keystream. -/
def keystreamByte (block : Bytes → Bytes) (initial : Bytes) (j : Nat) : UInt8 :=
  (block (counterBlock initial (j / 16))).getD (j % 16) 0

def ctr (block : Bytes → Bytes) (initial text : Bytes) : Bytes :=
  text.mapIdx fun j b => b ^^^ keystreamByte block initial j

@[simp] theorem length_ctr (block : Bytes → Bytes) (initial text : Bytes) :
    (ctr block initial text).length = text.length := by
  simp [ctr]

/-- **Counter mode is an involution.** -/
theorem ctr_ctr (block : Bytes → Bytes) (initial text : Bytes) :
    ctr block initial (ctr block initial text) = text :=
  xorWith_xorWith (keystreamByte block initial) text

end CounterMode
