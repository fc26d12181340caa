import Meshpoint.ByteCodec

/-!
# Text operations of the Python runtime

`str.strip`, `str.lstrip` and `int(text, base)` as CPython computes them: white
space is the Unicode set of `str.isspace`, digits may come from any script, one
underscore may stand between two digits, and a sign and a `0x` may precede them.
What `str(n)` writes and what `f"{n:0wx}"` writes is read back.
-/

namespace PyText

open ByteCodec

/-! ### Stripping -/

/-- Code points of `str.isspace`. -/
def spaceCodes : List Nat :=
  [0x9, 0xa, 0xb, 0xc, 0xd, 0x1c, 0x1d, 0x1e, 0x1f, 0x20, 0x85, 0xa0, 0x1680, 0x2000, 0x2001,
    0x2002, 0x2003, 0x2004, 0x2005, 0x2006, 0x2007, 0x2008, 0x2009, 0x200a, 0x2028, 0x2029,
    0x202f, 0x205f, 0x3000]

def isSpace (c : Char) : Bool := spaceCodes.contains c.toNat

theorem forall_eq_false_of_all {p : Char → Bool} {cs : List Char}
    (h : (cs.all fun c => !p c) = true) : ∀ c ∈ cs, p c = false := by
  intro c hc
  simpa using List.all_eq_true.mp h c hc

/-- Drop the characters that meet `p` from the left. -/
def lstripWhere (p : Char → Bool) (s : String) : String := String.ofList (s.toList.dropWhile p)

/-- Drop the characters that meet `p` from both ends. -/
def stripWhere (p : Char → Bool) (s : String) : String :=
  String.ofList ((s.toList.dropWhile p).reverse.dropWhile p).reverse

/-- `s.strip()`. -/
def strip (s : String) : String := stripWhere isSpace s

/-- `s[:n]`. -/
def clip (n : Nat) (s : String) : String := String.ofList (s.toList.take n)

def asciiLower (s : String) : String := String.ofList (s.toList.map Char.toLower)

/-- `str.lower`: the letters of an ASCII text are lowered; what other texts become is
    left to the runtime's Unicode tables. -/
structure Casing where
  lower : String → String
  lower_ascii : ∀ s : String, (∀ c ∈ s.toList, c.toNat < 128) → lower s = asciiLower s

/-- `s.lower()` where the text is ASCII. -/
def Casing.ascii : Casing := ⟨asciiLower, fun _ _ => rfl⟩

/-! ### Integers -/

def decimalZeros : List Nat :=
  [0x30, 0x660, 0x6f0, 0x7c0, 0x966, 0x9e6, 0xa66, 0xae6, 0xb66, 0xbe6, 0xc66, 0xce6, 0xd66, 0xde6,
    0xe50, 0xed0, 0xf20, 0x1040, 0x1090, 0x17e0, 0x1810, 0x1946, 0x19d0, 0x1a80, 0x1a90, 0x1b50,
    0x1bb0, 0x1c40, 0x1c50, 0xa620, 0xa8d0, 0xa900, 0xa9d0, 0xa9f0, 0xaa50, 0xabf0, 0xff10, 0x104a0,
    0x10d30, 0x11066, 0x110f0, 0x11136, 0x111d0, 0x112f0, 0x11450, 0x114d0, 0x11650, 0x116c0,
    0x11730, 0x118e0, 0x11950, 0x11c50, 0x11d50, 0x11da0, 0x16a60, 0x16ac0, 0x16b50, 0x1d7ce,
    0x1d7d8, 0x1d7e2, 0x1d7ec, 0x1d7f6, 0x1e140, 0x1e2f0, 0x1e950, 0x1fbf0]

/-- The ASCII character a number is read with: digits and white space of other
    scripts are folded, anything else outside ASCII is no digit. -/
def foldNumeric (c : Char) : Char :=
  if c.toNat < 128 then c
  else if isSpace c then ' '
  else
    match decimalZeros.find? fun z => z ≤ c.toNat && c.toNat < z + 10 with
    | some z => Nat.digitChar (c.toNat - z)
    | none => '?'

def isCSpace (c : Char) : Bool := c.toNat = 32 || (9 ≤ c.toNat && c.toNat ≤ 13)

/-- Read digits with single underscores between them: the value, the number of
    digits and what follows. -/
def readDigits (base : Nat) : List Char → (value digits : Nat) → (afterUnderscore : Bool) →
    Option (Nat × Nat × List Char)
  | [], value, digits, afterUnderscore =>
    if afterUnderscore then none else some (value, digits, [])
  | c :: rest, value, digits, afterUnderscore =>
    if c = '_' then if afterUnderscore then none else readDigits base rest value digits true
    else
      match (hexDigitValue c).filter (· < base) with
      | some d => readDigits base rest (value * base + d) (digits + 1) false
      | none => if afterUnderscore then none else some (value, digits, c :: rest)

/-- Skip `0x` and one underscore after it. -/
def skipHexPrefix : List Char → List Char
  | '0' :: 'x' :: '_' :: rest => rest
  | '0' :: 'X' :: '_' :: rest => rest
  | '0' :: 'x' :: rest => rest
  | '0' :: 'X' :: rest => rest
  | cs => cs

/-- Magnitude: digits up to trailing white space, not starting with an underscore. -/
def readMagnitude (base : Nat) (cs : List Char) : Option Nat :=
  match if base = 16 then skipHexPrefix cs else cs with
  | '_' :: _ => none
  | body =>
    match readDigits base body 0 0 false with
    | none => none
    | some (value, digits, rest) => if digits ≠ 0 ∧ rest.all isCSpace then some value else none

/-- `int(s, base)` for base 10 or 16; `none` when it raises `ValueError`. -/
def intOfText (base : Nat) (s : String) : Option Int :=
  match (s.toList.map foldNumeric).dropWhile isCSpace with
  | '-' :: rest => (readMagnitude base rest).map fun n => -(n : Int)
  | '+' :: rest => (readMagnitude base rest).map fun n => (n : Int)
  | rest => (readMagnitude base rest).map fun n => (n : Int)

/-- `f"{n:0wx}"`: the sign counts towards the width. -/
def formatHex (w : Nat) (n : Int) : String :=
  let digits := Nat.toDigits 16 n.natAbs
  if n < 0 then String.ofList ('-' :: (List.replicate (w - 1 - digits.length) '0' ++ digits))
  else String.ofList (List.replicate (w - digits.length) '0' ++ digits)

/-! ### Hexadecimal texts -/

theorem hexDigitValue_digitChar :
    ∀ d < 16, hexDigitValue (Nat.digitChar d) = some d := by decide

theorem mem_hexFixed {w n : Nat} {c : Char} (h : c ∈ hexFixed w n) :
    ∃ d < 16, c = Nat.digitChar d := by
  induction w generalizing n with
  | zero => simp [hexFixed] at h
  | succ w ih =>
    rw [hexFixed, List.mem_append, List.mem_singleton] at h
    rcases h with h | rfl
    · exact ih h
    · exact ⟨n % 16, Nat.mod_lt _ (by decide), rfl⟩

/-- A hexadecimal digit is an ASCII character that no other part of a number starts with. -/
theorem digitChar_spec : ∀ d < 16,
    foldNumeric (Nat.digitChar d) = Nat.digitChar d ∧ isCSpace (Nat.digitChar d) = false ∧
      Nat.digitChar d ∉ ['-', '+', '_', 'x', 'X', '!'] ∧
      (Nat.digitChar d).toNat < 128 ∧ (Nat.digitChar d).toLower = Nat.digitChar d := by
  decide

theorem readDigits_hexFixed (w n value digits : Nat) (rest : List Char) :
    readDigits 16 (hexFixed w n ++ rest) value digits false =
      readDigits 16 rest (value * 16 ^ w + n % 16 ^ w) (digits + w) false := by
  induction w generalizing n rest with
  | zero => simp [hexFixed, Nat.mod_one]
  | succ w ih =>
    have hd : n % 16 < 16 := Nat.mod_lt _ (by decide)
    have hne : Nat.digitChar (n % 16) ≠ '_' := by
      intro h
      exact (digitChar_spec _ hd).2.2.1 (by simp [h])
    have hvalue : (value * 16 ^ w + n / 16 % 16 ^ w) * 16 + n % 16 =
        value * 16 ^ (w + 1) + n % 16 ^ (w + 1) := by
      rw [Nat.pow_succ', Nat.mod_mul, Nat.add_mul, Nat.mul_comm 16 (16 ^ w), Nat.mul_assoc,
        Nat.mul_comm 16 (n / 16 % 16 ^ w)]
      omega
    rw [hexFixed, List.append_assoc, ih, List.singleton_append, readDigits, if_neg hne,
      hexDigitValue_digitChar _ hd]
    simp only [Option.filter_some, hd, decide_true, if_true, hvalue, Nat.add_assoc]

theorem hexFixed_length (w n : Nat) : (hexFixed w n).length = w := by
  induction w generalizing n with
  | zero => rfl
  | succ w ih => simp [hexFixed, ih]

theorem hexFixed_eq_cons {w : Nat} (hw : 0 < w) (n : Nat) :
    ∃ d rest, d < 16 ∧ hexFixed w n = Nat.digitChar d :: rest := by
  cases h : hexFixed w n with
  | nil =>
    have hlen := hexFixed_length w n
    simp [h] at hlen
    omega
  | cons c rest =>
    obtain ⟨d, hd, rfl⟩ := mem_hexFixed (h ▸ List.mem_cons_self .. : c ∈ hexFixed w n)
    exact ⟨d, rest, hd, rfl⟩

theorem skipHexPrefix_hexFixed (w n : Nat) : skipHexPrefix (hexFixed w n) = hexFixed w n := by
  unfold skipHexPrefix
  split
  all_goals first
    | rfl
    | rename_i h
      have hx : 'x' ∈ hexFixed w n ∨ 'X' ∈ hexFixed w n := by simp [h]
      rcases hx with hx | hx <;>
      · obtain ⟨d, hd, hc⟩ := mem_hexFixed hx
        exact absurd (digitChar_spec _ hd).2.2.1 (by simp [← hc])

/-- **Round trip.**  A number printed with a fixed width is read back by `int(s, 16)`. -/
theorem intOfText_hexFixed {w n : Nat} (hw : 0 < w) (hn : n < 16 ^ w) :
    intOfText 16 (String.ofList (hexFixed w n)) = some (n : Int) := by
  have hfold : (hexFixed w n).map foldNumeric = hexFixed w n := by
    refine List.map_congr_left (fun c hc => ?_) |>.trans (List.map_id _)
    obtain ⟨d, hd, rfl⟩ := mem_hexFixed hc
    exact (digitChar_spec _ hd).1
  obtain ⟨d, rest, hd, hcons⟩ := hexFixed_eq_cons hw n
  have hspec := digitChar_spec _ hd
  have hdrop : (hexFixed w n).dropWhile isCSpace = hexFixed w n := by
    rw [hcons, List.dropWhile_cons_of_neg (by simp [hspec.2.1])]
  have hread : readMagnitude 16 (hexFixed w n) = some n := by
    have hdigits := readDigits_hexFixed w n 0 0 []
    simp only [List.append_nil, Nat.zero_mul, Nat.zero_add, Nat.mod_eq_of_lt hn] at hdigits
    unfold readMagnitude
    rw [if_pos rfl, skipHexPrefix_hexFixed]
    split
    · rename_i rest' heq
      exact absurd hspec.2.2.1 (by rw [hcons] at heq; simp [(List.cons.inj heq).1])
    · rw [hdigits]
      simp [readDigits]
      omega
  unfold intOfText
  rw [String.toList_ofList, hfold, hdrop]
  split
  · rename_i rest' heq
    exact absurd hspec.2.2.1 (by rw [hcons] at heq; simp [(List.cons.inj heq).1])
  · rename_i rest' heq
    exact absurd hspec.2.2.1 (by rw [hcons] at heq; simp [(List.cons.inj heq).1])
  · rw [hread]
    rfl

theorem hexFixed_zero (w : Nat) : hexFixed w 0 = List.replicate w '0' := by
  induction w with
  | zero => rfl
  | succ w ih => rw [hexFixed, Nat.zero_div, ih, List.replicate_succ']; rfl

theorem replicate_append_toDigits {w n : Nat} (hw : 0 < w) (hn : n < 16 ^ w) :
    (Nat.toDigits 16 n).length ≤ w ∧
      List.replicate (w - (Nat.toDigits 16 n).length) '0' ++ Nat.toDigits 16 n = hexFixed w n := by
  induction w generalizing n with
  | zero => omega
  | succ w ih =>
    by_cases hsmall : n < 16
    · rw [Nat.toDigits_of_lt_base hsmall, hexFixed, Nat.div_eq_of_lt hsmall,
        Nat.mod_eq_of_lt hsmall, hexFixed_zero]
      simp
    · have hw' : 0 < w := by
        rcases Nat.eq_zero_or_pos w with rfl | h
        · simp at hn
          omega
        · exact h
      obtain ⟨hlen, heq⟩ := @ih (n / 16) hw' (by rw [Nat.pow_succ] at hn; omega)
      rw [Nat.toDigits_of_base_le (by decide) (by omega), hexFixed, ← heq]
      refine ⟨by simp; omega, by simp⟩

theorem formatHex_eq_hexFixed {w n : Nat} (hw : 0 < w) (hn : n < 16 ^ w) :
    formatHex w n = String.ofList (hexFixed w n) := by
  have hpos : ¬ (n : Int) < 0 := by omega
  simp only [formatHex, if_neg hpos, Int.natAbs_natCast, (replicate_append_toDigits hw hn).2]

/-! ### Decimal texts -/

theorem toNat_of_isDigit {c : Char} (h : c.isDigit = true) : 48 ≤ c.toNat ∧ c.toNat ≤ 57 := by
  unfold Char.isDigit at h
  rw [Bool.and_eq_true, decide_eq_true_iff, decide_eq_true_iff] at h
  exact ⟨h.1, h.2⟩

theorem hexDigitValue_of_isDigit {c : Char} (h : c.isDigit = true) :
    hexDigitValue c = some (c.toNat - 48) := by
  unfold Char.isDigit at h
  rw [Bool.and_eq_true, decide_eq_true_iff, decide_eq_true_iff] at h
  exact if_pos h

theorem ne_of_isDigit {c other : Char} (h : c.isDigit = true)
    (hother : other.toNat < 48 ∨ 57 < other.toNat) : c ≠ other := by
  rintro rfl
  have := toNat_of_isDigit h
  omega

theorem readDigits_decimal (cs : List Char) (hcs : ∀ c ∈ cs, c.isDigit = true)
    (value digits : Nat) : readDigits 10 cs value digits false =
      some (Nat.ofDigitChars 10 cs value, digits + cs.length, []) := by
  induction cs generalizing value digits with
  | nil => rfl
  | cons c cs ih =>
    have hc := hcs c (List.mem_cons_self ..)
    have hrange := toNat_of_isDigit hc
    have hfilter : (some (c.toNat - 48)).filter (· < 10) = some (c.toNat - 48) := by
      rw [Option.filter_some, if_pos (decide_eq_true (by omega))]
    unfold readDigits
    rw [if_neg (ne_of_isDigit hc (by decide)), hexDigitValue_of_isDigit hc, hfilter]
    simp only
    rw [ih (fun c hc => hcs c (List.mem_cons_of_mem _ hc)), Nat.ofDigitChars_cons, Nat.mul_comm,
      List.length_cons]
    congr 3
    omega

theorem readMagnitude_digits {cs : List Char} (hcs : ∀ c ∈ cs, c.isDigit = true) (hne : cs ≠ []) :
    readMagnitude 10 cs = some (Nat.ofDigitChars 10 cs 0) := by
  have hread := readDigits_decimal cs hcs 0 0
  obtain ⟨c, rest, rfl⟩ := List.exists_cons_of_ne_nil hne
  have hc : c ≠ '_' := ne_of_isDigit (hcs c (List.mem_cons_self ..)) (by decide)
  unfold readMagnitude
  rw [if_neg (by decide)]
  split
  · rename_i heq
    rw [List.cons.injEq] at heq
    exact absurd heq.1 hc
  · rw [hread]
    simp

theorem map_foldNumeric_digits {cs : List Char} (hcs : ∀ c ∈ cs, c.isDigit = true) :
    cs.map foldNumeric = cs := by
  refine (List.map_congr_left fun c hc => ?_).trans (List.map_id _)
  have hrange := toNat_of_isDigit (hcs c hc)
  exact if_pos (by omega)

theorem intOfText_digits {cs : List Char} (hcs : ∀ c ∈ cs, c.isDigit = true) (hne : cs ≠ []) :
    intOfText 10 (String.ofList cs) = some ((Nat.ofDigitChars 10 cs 0 : Nat) : Int) := by
  have hmagnitude := readMagnitude_digits hcs hne
  obtain ⟨c, rest, rfl⟩ := List.exists_cons_of_ne_nil hne
  have hc : c.isDigit = true := hcs c (List.mem_cons_self ..)
  have hrange := toNat_of_isDigit hc
  have hdrop : (c :: rest).dropWhile isCSpace = c :: rest := by
    rw [List.dropWhile_cons_of_neg]
    unfold isCSpace
    simp
    omega
  unfold intOfText
  rw [String.toList_ofList, map_foldNumeric_digits hcs, hdrop]
  split
  · rename_i heq
    rw [List.cons.injEq] at heq
    exact absurd heq.1 (ne_of_isDigit hc (by decide))
  · rename_i heq
    rw [List.cons.injEq] at heq
    exact absurd heq.1 (ne_of_isDigit hc (by decide))
  · rw [hmagnitude]
    rfl

theorem isDigit_toDigits (n : Nat) : ∀ c ∈ Nat.toDigits 10 n, c.isDigit = true :=
  fun _ hc => Nat.isDigit_of_mem_toDigits (by decide) (by decide) hc

/-- **Round trip.**  A printed integer is read back by `int(s)`. -/
theorem intOfText_toString (n : Int) : intOfText 10 (toString n) = some n := by
  cases n with
  | ofNat n =>
    have htext : toString (Int.ofNat n) = String.ofList (Nat.toDigits 10 n) := by
      change Nat.repr n = _
      rw [Nat.repr_eq_ofList_toDigits]
    rw [htext, intOfText_digits (isDigit_toDigits n) Nat.toDigits_ne_nil,
      Nat.ofDigitChars_ten_toDigits]
    rfl
  | negSucc n =>
    have htext : (toString (Int.negSucc n)).toList = '-' :: Nat.toDigits 10 (n + 1) := by
      change ("-" ++ Nat.repr (n + 1)).toList = _
      rw [String.toList_append, Nat.repr_eq_ofList_toDigits, String.toList_ofList,
        String.toList_ofList]
      rfl
    have hmagnitude := readMagnitude_digits (isDigit_toDigits (n + 1)) Nat.toDigits_ne_nil
    rw [Nat.ofDigitChars_ten_toDigits] at hmagnitude
    unfold intOfText
    rw [htext, List.map_cons, map_foldNumeric_digits (isDigit_toDigits (n + 1))]
    change ((readMagnitude 10 (Nat.toDigits 10 (n + 1))).map fun m => -(m : Int)) = _
    rw [hmagnitude]
    rfl

end PyText
