import Mathlib.Algebra.Group.Int.Defs
import Mathlib.Algebra.Group.Nat.Defs
import Mathlib.Data.List.Basic
import Mathlib.Data.Nat.Basic

/-!
# Byte strings and their textual codecs

Byte strings as lists of `UInt8`, with the encodings programs put them in: UTF-8,
hexadecimal, base64 (a lenient decoder that skips characters outside the
alphabet, as `binascii.a2b_base64` does) and little-endian 32-bit words, and the
xor checksum of a byte string.
-/

abbrev Bytes := List UInt8

namespace ByteCodec

/-! ### UTF-8 -/

def utf8Chars (cs : List Char) : Bytes := cs.flatMap String.utf8EncodeChar

/-- `s.encode()`. -/
def utf8 (s : String) : Bytes := utf8Chars s.toList

theorem utf8Chars_injective {cs ds : List Char} (h : utf8Chars cs = utf8Chars ds) : cs = ds := by
  have hbytes : cs.utf8Encode = ds.utf8Encode := by
    unfold List.utf8Encode
    exact congrArg List.toByteArray h
  have hdec := congrArg ByteArray.utf8Decode? hbytes
  rw [List.utf8Decode?_utf8Encode, List.utf8Decode?_utf8Encode] at hdec
  simpa using hdec

/-! ### Xor checksum -/

def xorAll (bs : Bytes) : UInt8 := bs.foldl (· ^^^ ·) 0

theorem foldl_xor (bs : Bytes) (h : UInt8) : bs.foldl (· ^^^ ·) h = h ^^^ xorAll bs := by
  induction bs generalizing h with
  | nil => simp [xorAll]
  | cons b bs ih =>
    simp only [xorAll, List.foldl_cons]
    rw [ih, ih (0 ^^^ b), UInt8.zero_xor, UInt8.xor_assoc]

/-! ### Hexadecimal -/

def hexDigitValue (c : Char) : Option Nat :=
  if '0' ≤ c ∧ c ≤ '9' then some (c.toNat - 48)
  else if 'a' ≤ c ∧ c ≤ 'f' then some (c.toNat - 87)
  else if 'A' ≤ c ∧ c ≤ 'F' then some (c.toNat - 55)
  else none

/-- `w` lower-case hexadecimal digits, most significant first. -/
def hexFixed : Nat → Nat → List Char
  | 0, _ => []
  | w + 1, n => hexFixed w (n / 16) ++ [Nat.digitChar (n % 16)]

/-- `binascii.unhexlify` on characters: pairs of digits and nothing else. -/
def unhexChars : List Char → Option Bytes
  | [] => some []
  | hi :: lo :: rest => do
    let h ← hexDigitValue hi
    let l ← hexDigitValue lo
    let bs ← unhexChars rest
    return UInt8.ofNat (h * 16 + l) :: bs
  | [_] => none

def unhexlify (s : String) : Option Bytes := unhexChars s.toList

def ofHex (s : String) : Bytes := (unhexlify s).getD []

/-- `bytes.fromhex` on characters: white space may stand between the bytes. -/
def fromHexChars : List Char → Option Bytes
  | [] => some []
  | [c] => if c.toNat = 32 || (9 ≤ c.toNat && c.toNat ≤ 13) then some [] else none
  | hi :: lo :: rest =>
    if hi.toNat = 32 || (9 ≤ hi.toNat && hi.toNat ≤ 13) then fromHexChars (lo :: rest)
    else do
      let h ← hexDigitValue hi
      let l ← hexDigitValue lo
      let bs ← fromHexChars rest
      return UInt8.ofNat (h * 16 + l) :: bs

/-- `binascii.hexlify` / `bytes.hex`. -/
def hexlify (bs : Bytes) : String :=
  String.ofList (bs.flatMap fun b => [Nat.digitChar (b.toNat / 16), Nat.digitChar (b.toNat % 16)])

/-! ### Base64 -/

def base64Value (c : Char) : Option Nat :=
  if 'A' ≤ c ∧ c ≤ 'Z' then some (c.toNat - 65)
  else if 'a' ≤ c ∧ c ≤ 'z' then some (c.toNat - 71)
  else if '0' ≤ c ∧ c ≤ '9' then some (c.toNat + 4)
  else if c = '+' then some 62
  else if c = '/' then some 63
  else none

/-- The decoder's loop: the position in the current quad, the bits carried over,
    the padding characters seen in it, and the output, newest byte first. -/
def a2bBase64 : List Char → (quadPos leftchar pads : Nat) → Bytes → Option Bytes
  | [], quadPos, _, _, out => if quadPos = 0 then some out.reverse else none
  | c :: rest, quadPos, leftchar, pads, out =>
    if c = '=' then
      if 2 ≤ quadPos then
        -- enough padding ends the input, whatever follows
        if 4 ≤ quadPos + (pads + 1) then some out.reverse
        else a2bBase64 rest quadPos leftchar (pads + 1) out
      else a2bBase64 rest quadPos leftchar pads out
    else
      match base64Value c with
      | none => a2bBase64 rest quadPos leftchar pads out
      | some v =>
        match quadPos with
        | 0 => a2bBase64 rest 1 v 0 out
        | 1 => a2bBase64 rest 2 (v % 16) 0 (UInt8.ofNat (leftchar * 4 + v / 16) :: out)
        | 2 => a2bBase64 rest 3 (v % 4) 0 (UInt8.ofNat (leftchar * 16 + v / 4) :: out)
        | _ => a2bBase64 rest 0 0 0 (UInt8.ofNat (leftchar * 64 + v) :: out)

/-- `base64.b64decode` of a text; `none` when it raises. -/
def b64decode (s : String) : Option Bytes :=
  if s.toList.all fun c => c.toNat < 128 then a2bBase64 s.toList 0 0 0 [] else none

def base64Char (v : Nat) : Char :=
  if v < 26 then Char.ofNat (v + 65)
  else if v < 52 then Char.ofNat (v + 71)
  else if v < 62 then Char.ofNat (v - 4)
  else if v = 62 then '+' else '/'

def b64encodeChars : Bytes → List Char
  | [] => []
  | [a] => [base64Char (a.toNat / 4), base64Char (a.toNat % 4 * 16), '=', '=']
  | [a, b] =>
    [base64Char (a.toNat / 4), base64Char (a.toNat % 4 * 16 + b.toNat / 16),
      base64Char (b.toNat % 16 * 4), '=']
  | a :: b :: c :: rest =>
    base64Char (a.toNat / 4) :: base64Char (a.toNat % 4 * 16 + b.toNat / 16) ::
      base64Char (b.toNat % 16 * 4 + c.toNat / 64) :: base64Char (c.toNat % 64) ::
        b64encodeChars rest

/-- `base64.b64encode`. -/
def b64encode (bs : Bytes) : String := String.ofList (b64encodeChars bs)

example : b64decode "AQ==" = some [1] := by decide

theorem base64Value_base64Char {v : Nat} (h : v < 64) :
    base64Value (base64Char v) = some v ∧ base64Char v ≠ '=' ∧ (base64Char v).toNat < 128 := by
  have hall : ∀ w : Fin 64, base64Value (base64Char w) = some w.val ∧ base64Char w ≠ '=' ∧
      (base64Char w).toNat < 128 := by decide
  exact hall ⟨v, h⟩

theorem b64encodeChars_ascii (bs : Bytes) :
    ∀ c ∈ b64encodeChars bs, c.toNat < 128 := by
  have hchar : ∀ v < 64, (base64Char v).toNat < 128 := fun v hv => (base64Value_base64Char hv).2.2
  have heq : '='.toNat < 128 := by decide
  induction bs using b64encodeChars.induct with
  | case1 => simp [b64encodeChars]
  | case2 a =>
    have ha := a.toNat_lt
    simp only [b64encodeChars, List.mem_cons, List.not_mem_nil, or_false]
    rintro c (rfl | rfl | rfl | rfl)
    · exact hchar _ (by omega)
    · exact hchar _ (by omega)
    · exact heq
    · exact heq
  | case3 a b =>
    have ha := a.toNat_lt
    have hb := b.toNat_lt
    simp only [b64encodeChars, List.mem_cons, List.not_mem_nil, or_false]
    rintro c (rfl | rfl | rfl | rfl)
    · exact hchar _ (by omega)
    · exact hchar _ (by omega)
    · exact hchar _ (by omega)
    · exact heq
  | case4 a b c rest ih =>
    have ha := a.toNat_lt
    have hb := b.toNat_lt
    have hc := c.toNat_lt
    simp only [b64encodeChars, List.mem_cons]
    rintro x (rfl | rfl | rfl | rfl | hx)
    · exact hchar _ (by omega)
    · exact hchar _ (by omega)
    · exact hchar _ (by omega)
    · exact hchar _ (by omega)
    · exact ih x hx

section Quad

variable {v : Nat} (h : v < 64) (rest : List Char) (leftchar pads : Nat) (out : Bytes)
include h

theorem a2bBase64_first :
    a2bBase64 (base64Char v :: rest) 0 leftchar pads out = a2bBase64 rest 1 v 0 out := by
  obtain ⟨hvalue, hne, -⟩ := base64Value_base64Char h
  simp only [a2bBase64, if_neg hne, hvalue]

theorem a2bBase64_second : a2bBase64 (base64Char v :: rest) 1 leftchar pads out =
    a2bBase64 rest 2 (v % 16) 0 (UInt8.ofNat (leftchar * 4 + v / 16) :: out) := by
  obtain ⟨hvalue, hne, -⟩ := base64Value_base64Char h
  simp only [a2bBase64, if_neg hne, hvalue]

theorem a2bBase64_third : a2bBase64 (base64Char v :: rest) 2 leftchar pads out =
    a2bBase64 rest 3 (v % 4) 0 (UInt8.ofNat (leftchar * 16 + v / 4) :: out) := by
  obtain ⟨hvalue, hne, -⟩ := base64Value_base64Char h
  simp only [a2bBase64, if_neg hne, hvalue]

theorem a2bBase64_fourth : a2bBase64 (base64Char v :: rest) 3 leftchar pads out =
    a2bBase64 rest 0 0 0 (UInt8.ofNat (leftchar * 64 + v) :: out) := by
  obtain ⟨hvalue, hne, -⟩ := base64Value_base64Char h
  simp only [a2bBase64, if_neg hne, hvalue]

end Quad

theorem ofNat_toNat_of_eq {b : UInt8} {n : Nat} (h : n = b.toNat) : UInt8.ofNat n = b := by
  rw [h]
  exact UInt8.ofNat_toNat

theorem a2bBase64_b64encodeChars (bs : Bytes) (leftchar pads : Nat) (out : Bytes) :
    a2bBase64 (b64encodeChars bs) 0 leftchar pads out = some (out.reverse ++ bs) := by
  induction bs using b64encodeChars.induct generalizing leftchar pads out with
  | case1 => simp [b64encodeChars, a2bBase64]
  | case2 a =>
    have ha := a.toNat_lt
    have hbyte : UInt8.ofNat (a.toNat / 4 * 4 + a.toNat % 4 * 16 / 16) = a :=
      ofNat_toNat_of_eq (by omega)
    rw [b64encodeChars, a2bBase64_first (by omega), a2bBase64_second (by omega), hbyte]
    simp [a2bBase64]
  | case3 a b =>
    have ha := a.toNat_lt
    have hb := b.toNat_lt
    have hfirst : UInt8.ofNat (a.toNat / 4 * 4 + (a.toNat % 4 * 16 + b.toNat / 16) / 16) = a :=
      ofNat_toNat_of_eq (by omega)
    have hsecond : UInt8.ofNat ((a.toNat % 4 * 16 + b.toNat / 16) % 16 * 16 +
        b.toNat % 16 * 4 / 4) = b := ofNat_toNat_of_eq (by omega)
    rw [b64encodeChars, a2bBase64_first (by omega), a2bBase64_second (by omega),
      a2bBase64_third (by omega), hfirst, hsecond]
    simp [a2bBase64]
  | case4 a b c rest ih =>
    have ha := a.toNat_lt
    have hb := b.toNat_lt
    have hc := c.toNat_lt
    have hfirst : UInt8.ofNat (a.toNat / 4 * 4 + (a.toNat % 4 * 16 + b.toNat / 16) / 16) = a :=
      ofNat_toNat_of_eq (by omega)
    have hsecond : UInt8.ofNat ((a.toNat % 4 * 16 + b.toNat / 16) % 16 * 16 +
        (b.toNat % 16 * 4 + c.toNat / 64) / 4) = b := ofNat_toNat_of_eq (by omega)
    have hthird : UInt8.ofNat ((b.toNat % 16 * 4 + c.toNat / 64) % 4 * 64 + c.toNat % 64) = c :=
      ofNat_toNat_of_eq (by omega)
    rw [b64encodeChars, a2bBase64_first (by omega), a2bBase64_second (by omega),
      a2bBase64_third (by omega), a2bBase64_fourth (by omega), ih, hfirst, hsecond, hthird]
    simp

/-- **Base64 decodes what it encoded.** -/
theorem b64decode_b64encode (bs : Bytes) : b64decode (b64encode bs) = some bs := by
  have hascii : (b64encodeChars bs).all (fun c => decide (c.toNat < 128)) = true := by
    simpa using b64encodeChars_ascii bs
  rw [b64decode, b64encode, String.toList_ofList, if_pos hascii, a2bBase64_b64encodeChars]
  rfl

/-! ### Words -/

/-- `w` bytes, least significant first. -/
def leBytes : Nat → Nat → Bytes
  | 0, _ => []
  | w + 1, n => UInt8.ofNat (n % 256) :: leBytes w (n / 256)

def leValue : Bytes → Nat
  | [] => 0
  | b :: bs => b.toNat + 256 * leValue bs

/-- `w` bytes, most significant first. -/
def beBytes (w n : Nat) : Bytes := (leBytes w n).reverse

def beValue (bs : Bytes) : Nat := leValue bs.reverse

@[simp] theorem length_leBytes (w n : Nat) : (leBytes w n).length = w := by
  induction w generalizing n with
  | zero => rfl
  | succ w ih => simp [leBytes, ih]

@[simp] theorem length_beBytes (w n : Nat) : (beBytes w n).length = w := by
  rw [beBytes, List.length_reverse, length_leBytes]

theorem leValue_leBytes {w n : Nat} (h : n < 256 ^ w) : leValue (leBytes w n) = n := by
  induction w generalizing n with
  | zero =>
    have : n = 0 := by simpa using h
    simp [leBytes, leValue, this]
  | succ w ih =>
    have hdiv : n / 256 < 256 ^ w := by
      rw [Nat.div_lt_iff_lt_mul (by decide)]
      rwa [Nat.pow_succ] at h
    have hbyte : (UInt8.ofNat (n % 256)).toNat = n % 256 := by
      rw [UInt8.toNat_ofNat']
      omega
    simp only [leBytes, leValue, ih hdiv, hbyte]
    omega

theorem leValue_lt (bs : Bytes) : leValue bs < 256 ^ bs.length := by
  induction bs with
  | nil => simp [leValue]
  | cons b bs ih =>
    have hb := b.toNat_lt
    simp only [leValue, List.length_cons, Nat.pow_succ]
    omega

theorem leValue_take_lt (bs : Bytes) (w : Nat) : leValue (bs.take w) < 256 ^ w :=
  lt_of_lt_of_le (leValue_lt _) (Nat.pow_le_pow_right (by decide) (List.length_take_le w bs))

theorem leBytes_leValue (bs : Bytes) : leBytes bs.length (leValue bs) = bs := by
  induction bs with
  | nil => rfl
  | cons b bs ih =>
    have hb := b.toNat_lt
    have hlow : (b.toNat + 256 * leValue bs) % 256 = b.toNat := by omega
    have hhigh : (b.toNat + 256 * leValue bs) / 256 = leValue bs := by omega
    simp only [List.length_cons, leBytes, leValue, hlow, hhigh, ih, UInt8.ofNat_toNat]

/-! ### Decoding UTF-8 with replacement -/

/-- A continuation byte within `[lo, hi]`. -/
def between (lo hi : Nat) (b : UInt8) : Bool := lo ≤ b.toNat && b.toNat ≤ hi

/-- The range of the second byte after a given first byte of three or four. -/
def secondRange (b₀ : UInt8) : Nat × Nat :=
  if b₀.toNat = 0xE0 then (0xA0, 0xBF) else if b₀.toNat = 0xED then (0x80, 0x9F)
  else if b₀.toNat = 0xF0 then (0x90, 0xBF) else if b₀.toNat = 0xF4 then (0x80, 0x8F)
  else (0x80, 0xBF)

def REPLACEMENT : Char := Char.ofNat 0xFFFD

/-- The character at the head of a byte string that begins with `b₀`, and how many
    of the following bytes belong to it; a maximal invalid part is one
    replacement character. -/
def utf8Head (b₀ : UInt8) (rest : Bytes) : Char × Nat :=
  if b₀.toNat < 0x80 then (Char.ofNat b₀.toNat, 0)
  else if between 0xC2 0xDF b₀ then
    match rest with
    | b₁ :: _ =>
      if between 0x80 0xBF b₁ then
        (Char.ofNat ((b₀.toNat - 0xC0) * 64 + (b₁.toNat - 0x80)), 1)
      else (REPLACEMENT, 0)
    | [] => (REPLACEMENT, 0)
  else if between 0xE0 0xEF b₀ then
    match rest with
    | b₁ :: rest₁ =>
      if between (secondRange b₀).1 (secondRange b₀).2 b₁ then
        match rest₁ with
        | b₂ :: _ =>
          if between 0x80 0xBF b₂ then
            (Char.ofNat ((b₀.toNat - 0xE0) * 4096 + (b₁.toNat - 0x80) * 64 + (b₂.toNat - 0x80)), 2)
          else (REPLACEMENT, 1)
        | [] => (REPLACEMENT, 1)
      else (REPLACEMENT, 0)
    | [] => (REPLACEMENT, 0)
  else if between 0xF0 0xF4 b₀ then
    match rest with
    | b₁ :: rest₁ =>
      if between (secondRange b₀).1 (secondRange b₀).2 b₁ then
        match rest₁ with
        | b₂ :: rest₂ =>
          if between 0x80 0xBF b₂ then
            match rest₂ with
            | b₃ :: _ =>
              if between 0x80 0xBF b₃ then
                (Char.ofNat ((b₀.toNat - 0xF0) * 262144 + (b₁.toNat - 0x80) * 4096 +
                  (b₂.toNat - 0x80) * 64 + (b₃.toNat - 0x80)), 3)
              else (REPLACEMENT, 2)
            | [] => (REPLACEMENT, 2)
          else (REPLACEMENT, 1)
        | [] => (REPLACEMENT, 1)
      else (REPLACEMENT, 0)
    | [] => (REPLACEMENT, 0)
  else (REPLACEMENT, 0)

/-- Decode at most `fuel` characters. -/
def utf8DecodeLoop : Nat → Bytes → List Char
  | 0, _ => []
  | _ + 1, [] => []
  | fuel + 1, b₀ :: rest =>
    (utf8Head b₀ rest).1 :: utf8DecodeLoop fuel (rest.drop (utf8Head b₀ rest).2)

/-- `bs.decode("utf-8", errors="replace")`. -/
def utf8DecodeReplace (bs : Bytes) : String := String.ofList (utf8DecodeLoop bs.length bs)

theorem toNat_ofNat_of_lt {n : Nat} (h : n < 256) : (UInt8.ofNat n).toNat = n := by
  rw [UInt8.toNat_ofNat']
  omega

theorem between_ofNat {lo hi n : Nat} (h : n < 256) (hlo : lo ≤ n) (hhi : n ≤ hi) :
    between lo hi (UInt8.ofNat n) = true := by
  simp only [between, toNat_ofNat_of_lt h, Bool.and_eq_true, decide_eq_true_eq]
  exact ⟨hlo, hhi⟩

theorem not_between_ofNat {lo hi n : Nat} (h : n < 256) (hout : n < lo ∨ hi < n) :
    between lo hi (UInt8.ofNat n) = false := by
  rw [Bool.eq_false_iff]
  simp only [between, toNat_ofNat_of_lt h, Bool.and_eq_true, decide_eq_true_eq, ne_eq]
  omega

/-- The second byte of a character's own encoding is in the range its first byte allows. -/
theorem between_secondRange (lead second : Nat) (hlead : lead < 256) (hsecond : second < 64)
    (hE0 : lead = 0xE0 → 32 ≤ second) (hED : lead = 0xED → second < 32)
    (hF0 : lead = 0xF0 → 16 ≤ second) (hF4 : lead = 0xF4 → second < 16) :
    between (secondRange (UInt8.ofNat lead)).1 (secondRange (UInt8.ofNat lead)).2
      (UInt8.ofNat (second + 128)) = true := by
  unfold secondRange
  rw [toNat_ofNat_of_lt hlead]
  split
  · have := hE0 (by assumption)
    exact between_ofNat (by omega) (by simp only; omega) (by simp only; omega)
  split
  · have := hED (by assumption)
    exact between_ofNat (by omega) (by simp only; omega) (by simp only; omega)
  split
  · have := hF0 (by assumption)
    exact between_ofNat (by omega) (by simp only; omega) (by simp only; omega)
  split
  · have := hF4 (by assumption)
    exact between_ofNat (by omega) (by simp only; omega) (by simp only; omega)
  · exact between_ofNat (by omega) (by simp only; omega) (by simp only; omega)

theorem utf8DecodeLoop_encode (c : Char) (rest : Bytes) (fuel : Nat) :
    utf8DecodeLoop (fuel + 1) (String.utf8EncodeChar c ++ rest) =
      c :: utf8DecodeLoop fuel rest := by
  have hvalid : c.toNat < 0xD800 ∨ 0xDFFF < c.toNat ∧ c.toNat < 0x110000 := c.valid
  have hofNat : ∀ n, n = c.toNat → Char.ofNat n = c := by
    intro n hn
    rw [hn, Char.ofNat_toNat]
  have hcont : ∀ n, n < 64 → between 0x80 0xBF (UInt8.ofNat (n + 128)) = true := by
    intro n hn
    exact between_ofNat (by omega) (by omega) (by omega)
  unfold String.utf8EncodeChar
  simp only [show c.val.toNat = c.toNat from rfl]
  -- one to four bytes, by the size of the code point
  split
  · rename_i h₁
    simp only [List.cons_append, List.nil_append, utf8DecodeLoop, utf8Head]
    rw [toNat_ofNat_of_lt (by omega), if_pos (by omega)]
    simp only [List.drop_zero, Char.ofNat_toNat]
  split
  · rename_i h₁ h₂
    have hlead : between 0xC2 0xDF (UInt8.ofNat (c.toNat / 64 % 32 + 192)) = true :=
      between_ofNat (by omega) (by omega) (by omega)
    simp only [List.cons_append, List.nil_append, utf8DecodeLoop, utf8Head, hlead,
      hcont (c.toNat % 64) (by omega), if_true]
    rw [toNat_ofNat_of_lt (by omega), toNat_ofNat_of_lt (by omega), if_neg (by omega)]
    simp only [List.drop_succ_cons, List.drop_zero]
    rw [hofNat _ (by omega)]
  split
  · rename_i h₁ h₂ h₃
    have hnot : between 0xC2 0xDF (UInt8.ofNat (c.toNat / 4096 % 16 + 224)) = false :=
      not_between_ofNat (by omega) (by omega)
    have hlead : between 0xE0 0xEF (UInt8.ofNat (c.toNat / 4096 % 16 + 224)) = true :=
      between_ofNat (by omega) (by omega) (by omega)
    have hsecond := between_secondRange (c.toNat / 4096 % 16 + 224)
      (c.toNat / 64 % 64) (by omega) (by omega) (by omega) (by omega) (by omega)
      (by omega)
    simp only [List.cons_append, List.nil_append, utf8DecodeLoop, utf8Head, hnot, hlead, hsecond,
      hcont (c.toNat % 64) (by omega), if_true, Bool.false_eq_true, if_false]
    rw [toNat_ofNat_of_lt (by omega), toNat_ofNat_of_lt (by omega), toNat_ofNat_of_lt (by omega),
      if_neg (by omega)]
    simp only [List.drop_succ_cons, List.drop_zero]
    rw [hofNat _ (by omega)]
  · rename_i h₁ h₂ h₃
    have hnot₂ : between 0xC2 0xDF (UInt8.ofNat (c.toNat / 262144 % 8 + 240)) = false :=
      not_between_ofNat (by omega) (by omega)
    have hnot₃ : between 0xE0 0xEF (UInt8.ofNat (c.toNat / 262144 % 8 + 240)) = false :=
      not_between_ofNat (by omega) (by omega)
    have hlead : between 0xF0 0xF4 (UInt8.ofNat (c.toNat / 262144 % 8 + 240)) = true :=
      between_ofNat (by omega) (by omega) (by omega)
    have hsecond := between_secondRange (c.toNat / 262144 % 8 + 240)
      (c.toNat / 4096 % 64) (by omega) (by omega) (by omega) (by omega) (by omega)
      (by omega)
    simp only [List.cons_append, List.nil_append, utf8DecodeLoop, utf8Head, hnot₂, hnot₃, hlead,
      hsecond, hcont (c.toNat / 64 % 64) (by omega), hcont (c.toNat % 64) (by omega), if_true,
      Bool.false_eq_true, if_false]
    rw [toNat_ofNat_of_lt (by omega), toNat_ofNat_of_lt (by omega), toNat_ofNat_of_lt (by omega),
      toNat_ofNat_of_lt (by omega), if_neg (by omega)]
    simp only [List.drop_succ_cons, List.drop_zero]
    rw [hofNat _ (by omega)]

theorem utf8DecodeLoop_utf8Chars (cs : List Char) {fuel : Nat} (h : cs.length ≤ fuel) :
    utf8DecodeLoop fuel (utf8Chars cs) = cs := by
  induction cs generalizing fuel with
  | nil => cases fuel <;> rfl
  | cons c cs ih =>
    obtain ⟨fuel, rfl⟩ : ∃ n, fuel = n + 1 := ⟨fuel - 1, by simp at h; omega⟩
    have hcons : utf8Chars (c :: cs) = String.utf8EncodeChar c ++ utf8Chars cs := by
      simp [utf8Chars]
    rw [hcons, utf8DecodeLoop_encode, ih (by simpa using h)]

theorem length_le_utf8Chars (cs : List Char) : cs.length ≤ (utf8Chars cs).length := by
  induction cs with
  | nil => simp
  | cons c cs ih =>
    have hpos := c.utf8Size_pos
    have hlen : (utf8Chars (c :: cs)).length = c.utf8Size + (utf8Chars cs).length := by
      simp [utf8Chars]
    rw [hlen, List.length_cons]
    omega

/-- **Decoding inverts encoding.** -/
theorem utf8DecodeReplace_utf8 (s : String) : utf8DecodeReplace (utf8 s) = s := by
  unfold utf8DecodeReplace utf8
  rw [utf8DecodeLoop_utf8Chars _ (length_le_utf8Chars _), String.ofList_toList]

end ByteCodec
