import Meshpoint.ByteCodec

/-!
# JSON values and their text

Trees of JSON values over an arbitrary type of floating-point leaves, the text an
ASCII-only JSON writer produces for them (`", "` and `": "` as separators, every
character outside the printable ASCII range escaped), and the fact that the text
determines the value (`dumps_injective`).

Floats enter through `FloatText`: their decimal text is read back exactly, never
looks like an integer and holds no JSON punctuation.
-/

universe u

namespace JsonText

open ByteCodec

/-! ### Values -/

mutual

/-- A JSON value. -/
inductive Value (F : Type u) where
  | null
  | bool (b : Bool)
  | int (n : Int)
  | float (x : F)
  | str (s : String)
  | list (items : Values F)
  | dict (entries : Entries F)

/-- The items of a list. -/
inductive Values (F : Type u) where
  | nil
  | cons (head : Value F) (tail : Values F)

/-- The entries of a dictionary, oldest first. -/
inductive Entries (F : Type u) where
  | nil
  | cons (key : String) (value : Value F) (tail : Entries F)

end

@[elab_as_elim]
theorem Values.induction {F : Type u} {motive : Values F → Prop} (nil : motive .nil)
    (cons : ∀ head tail, motive tail → motive (.cons head tail)) (items : Values F) :
    motive items :=
  @Values.rec F (fun _ => True) motive (fun _ => True) trivial (fun _ => trivial)
    (fun _ => trivial) (fun _ => trivial) (fun _ => trivial) (fun _ _ => trivial)
    (fun _ _ => trivial) nil (fun head tail _ ih => cons head tail ih) trivial
    (fun _ _ _ _ _ => trivial) items

@[elab_as_elim]
theorem Entries.induction {F : Type u} {motive : Entries F → Prop} (nil : motive .nil)
    (cons : ∀ key value tail, motive tail → motive (.cons key value tail)) (entries : Entries F) :
    motive entries :=
  @Entries.rec F (fun _ => True) (fun _ => True) motive trivial (fun _ => trivial)
    (fun _ => trivial) (fun _ => trivial) (fun _ => trivial) (fun _ _ => trivial)
    (fun _ _ => trivial) trivial (fun _ _ _ _ => trivial) nil
    (fun key value tail _ ih => cons key value tail ih) entries

namespace Entries

variable {F : Type u}

/-- `d.get(key)`. -/
def get? (key : String) : Entries F → Option (Value F)
  | .nil => none
  | .cons k v rest => if k = key then some v else get? key rest

/-- `d[key] = value`: in place when the key is present. -/
def set (key : String) (value : Value F) : Entries F → Entries F
  | .nil => .cons key value .nil
  | .cons k v rest => if k = key then .cons k value rest else .cons k v (set key value rest)

/-- `{k: v for k, v in d.items() if p(k)}`. -/
def filterKeys (p : String → Bool) : Entries F → Entries F
  | .nil => .nil
  | .cons k v rest => if p k then .cons k v (filterKeys p rest) else filterKeys p rest

def append : Entries F → Entries F → Entries F
  | .nil, es => es
  | .cons k v rest, es => .cons k v (append rest es)

def ofList : List (String × Value F) → Entries F
  | [] => .nil
  | (k, v) :: rest => .cons k v (ofList rest)

def isEmpty : Entries F → Bool
  | .nil => true
  | .cons _ _ _ => false

end Entries

def Values.ofList {F : Type u} : List (Value F) → Values F
  | [] => .nil
  | v :: rest => .cons v (Values.ofList rest)

/-! ### Numbers and strings -/

def intText : Int → List Char
  | .ofNat n => Nat.toDigits 10 n
  | .negSucc n => '-' :: Nat.toDigits 10 (n + 1)

/-- The characters that may follow a value inside a list or dictionary. -/
def isCloser (c : Char) : Bool := c = ',' || c = ']' || c = '}'

/-- How the text of a value begins tells its constructor, numbers apart. -/
def headKind (c : Char) : Nat :=
  if c = 'n' then 0 else if c = 't' then 1 else if c = 'f' then 2 else if c = '"' then 3
  else if c = '[' then 4 else if c = '{' then 5 else if isCloser c then 6 else 7

/-- Decimal texts for a type of floats. -/
class FloatText (F : Type u) where
  text : F → List Char
  text_injective : ∀ x y, text x = text y → x = y
  text_ne_int : ∀ x n, text x ≠ intText n
  text_ne_nil : ∀ x, text x ≠ []
  text_plain : ∀ x, ∀ c ∈ text x, isCloser c = false
  text_head : ∀ x c rest, text x = c :: rest → headKind c = 7

/-- JSON without fractions. -/
instance : FloatText Empty where
  text := nofun
  text_injective := nofun
  text_ne_int := nofun
  text_ne_nil := nofun
  text_plain := nofun
  text_head := nofun

def escChar (c : Char) : List Char :=
  if c = '"' then ['\\', '"']
  else if c = '\\' then ['\\', '\\']
  else if c = '\n' then ['\\', 'n']
  else if c = '\r' then ['\\', 'r']
  else if c = '\t' then ['\\', 't']
  else if c = Char.ofNat 8 then ['\\', 'b']
  else if c = Char.ofNat 12 then ['\\', 'f']
  else if 32 ≤ c.toNat ∧ c.toNat ≤ 126 then [c]
  else if c.toNat < 0x10000 then '\\' :: 'u' :: hexFixed 4 c.toNat
  else
    -- a surrogate pair
    ('\\' :: 'u' :: hexFixed 4 (0xD800 + (c.toNat - 0x10000) / 0x400)) ++
      ('\\' :: 'u' :: hexFixed 4 (0xDC00 + (c.toNat - 0x10000) % 0x400))

def strText (s : String) : List Char := '"' :: (s.toList.flatMap escChar ++ ['"'])

/-! ### The writer -/

mutual

/-- `json.dumps`. -/
def dumps {F : Type u} [FloatText F] : Value F → List Char
  | .null => ['n', 'u', 'l', 'l']
  | .bool true => ['t', 'r', 'u', 'e']
  | .bool false => ['f', 'a', 'l', 's', 'e']
  | .int n => intText n
  | .float x => FloatText.text x
  | .str s => strText s
  | .list .nil => ['[', ']']
  | .list (.cons v rest) => '[' :: (dumps v ++ dumpsItems rest)
  | .dict .nil => ['{', '}']
  | .dict (.cons k v rest) => '{' :: (strText k ++ ':' :: ' ' :: (dumps v ++ dumpsEntries rest))

/-- The remaining items of a list, with the closing bracket. -/
def dumpsItems {F : Type u} [FloatText F] : Values F → List Char
  | .nil => [']']
  | .cons v rest => ',' :: ' ' :: (dumps v ++ dumpsItems rest)

/-- The remaining entries of a dictionary, with the closing brace. -/
def dumpsEntries {F : Type u} [FloatText F] : Entries F → List Char
  | .nil => ['}']
  | .cons k v rest =>
    ',' :: ' ' :: (strText k ++ ':' :: ' ' :: (dumps v ++ dumpsEntries rest))

end

/-! ### Strings are self-delimiting -/

def hexValue (c : Char) : Nat :=
  if c.toNat ≤ 57 then c.toNat - 48 else c.toNat - 87

theorem hexValue_digitChar {d : Nat} (h : d < 16) : hexValue (Nat.digitChar d) = d := by
  revert h
  revert d
  decide

def hexValue₄ (a b c d : Char) : Nat :=
  hexValue a * 4096 + hexValue b * 256 + hexValue c * 16 + hexValue d

def readChar : List Char → Option (Char × List Char)
  | '\\' :: '"' :: rest => some ('"', rest)
  | '\\' :: '\\' :: rest => some ('\\', rest)
  | '\\' :: 'n' :: rest => some ('\n', rest)
  | '\\' :: 'r' :: rest => some ('\r', rest)
  | '\\' :: 't' :: rest => some ('\t', rest)
  | '\\' :: 'b' :: rest => some (Char.ofNat 8, rest)
  | '\\' :: 'f' :: rest => some (Char.ofNat 12, rest)
  | '\\' :: 'u' :: a :: b :: c :: d :: rest =>
    if hexValue₄ a b c d < 0xD800 ∨ 0xDC00 ≤ hexValue₄ a b c d then
      some (Char.ofNat (hexValue₄ a b c d), rest)
    else
      match rest with
      | '\\' :: 'u' :: a' :: b' :: c' :: d' :: rest' =>
        some (Char.ofNat (0x10000 + (hexValue₄ a b c d - 0xD800) * 0x400 +
          (hexValue₄ a' b' c' d' - 0xDC00)), rest')
      | _ => none
  | c :: rest => some (c, rest)
  | [] => none

theorem hexFixed_four (n : Nat) :
    hexFixed 4 n = [Nat.digitChar (n / 4096 % 16), Nat.digitChar (n / 256 % 16),
      Nat.digitChar (n / 16 % 16), Nat.digitChar (n % 16)] := by
  simp [hexFixed, Nat.div_div_eq_div_mul]

theorem hexValue₄_digits {n : Nat} (h : n < 0x10000) :
    hexValue₄ (Nat.digitChar (n / 4096 % 16)) (Nat.digitChar (n / 256 % 16))
      (Nat.digitChar (n / 16 % 16)) (Nat.digitChar (n % 16)) = n := by
  unfold hexValue₄
  rw [hexValue_digitChar (by omega), hexValue_digitChar (by omega),
    hexValue_digitChar (by omega), hexValue_digitChar (by omega)]
  omega

theorem readChar_of_ne {c : Char} {rest : List Char} (h : c ≠ '\\') :
    readChar (c :: rest) = some (c, rest) := by
  unfold readChar
  split <;> simp_all

theorem readChar_escChar (c : Char) (rest : List Char) :
    readChar (escChar c ++ rest) = some (c, rest) := by
  unfold escChar
  split
  · subst_vars; rfl
  split
  · subst_vars; rfl
  split
  · subst_vars; rfl
  split
  · subst_vars; rfl
  split
  · subst_vars; rfl
  split
  · subst_vars; rfl
  split
  · subst_vars; rfl
  split
  · rename_i hslash _ _ _ _ _ _
    exact readChar_of_ne hslash
  have hvalid : c.toNat < 0xD800 ∨ 0xDFFF < c.toNat ∧ c.toNat < 0x110000 := c.valid
  split
  · rename_i hlt
    simp only [hexFixed_four, List.cons_append, List.nil_append, readChar,
      hexValue₄_digits hlt]
    rw [if_pos (by omega), Char.ofNat_toNat]
  · -- the two halves of the surrogate pair
    rename_i hge
    have hhigh : 0xD800 + (c.toNat - 0x10000) / 0x400 < 0x10000 := by omega
    have hlow : 0xDC00 + (c.toNat - 0x10000) % 0x400 < 0x10000 := by omega
    simp only [hexFixed_four, List.cons_append, List.nil_append, readChar,
      hexValue₄_digits hhigh, hexValue₄_digits hlow]
    rw [if_neg (by omega)]
    have hc : 0x10000 + (0xD800 + (c.toNat - 0x10000) / 0x400 - 0xD800) * 0x400 +
        (0xDC00 + (c.toNat - 0x10000) % 0x400 - 0xDC00) = c.toNat := by omega
    rw [hc, Char.ofNat_toNat]

theorem escChar_append_cancel {c d : Char} {r s : List Char}
    (h : escChar c ++ r = escChar d ++ s) : c = d ∧ r = s := by
  have hread := readChar_escChar c r
  rw [h, readChar_escChar d s] at hread
  simp only [Option.some.injEq, Prod.mk.injEq] at hread
  exact ⟨hread.1.symm, hread.2.symm⟩

theorem escChar_ne_quote (c : Char) (r s : List Char) : escChar c ++ r ≠ '"' :: s := by
  intro h
  have hread := readChar_escChar c r
  rw [h, readChar_of_ne (by decide)] at hread
  simp only [Option.some.injEq, Prod.mk.injEq] at hread
  rw [← hread.1] at h
  simp [escChar] at h

theorem escaped_append_cancel {cs ds : List Char} {r s : List Char}
    (h : cs.flatMap escChar ++ '"' :: r = ds.flatMap escChar ++ '"' :: s) : cs = ds ∧ r = s := by
  induction cs generalizing ds with
  | nil =>
    cases ds with
    | nil => exact ⟨rfl, by simpa using h⟩
    | cons d ds =>
      rw [List.flatMap_cons, List.append_assoc] at h
      exact absurd h.symm (escChar_ne_quote d _ _)
  | cons c cs ih =>
    cases ds with
    | nil =>
      rw [List.flatMap_cons, List.append_assoc] at h
      exact absurd h (escChar_ne_quote c _ _)
    | cons d ds =>
      simp only [List.flatMap_cons, List.append_assoc] at h
      obtain ⟨hc, hrest⟩ := escChar_append_cancel h
      obtain ⟨hcs, hr⟩ := ih hrest
      exact ⟨by rw [hc, hcs], hr⟩

theorem strText_append_cancel {x y : String} {r s : List Char}
    (h : strText x ++ r = strText y ++ s) : x = y ∧ r = s := by
  simp only [strText, List.cons_append, List.append_assoc, List.nil_append, List.cons.injEq,
    true_and] at h
  obtain ⟨hcs, hr⟩ := escaped_append_cancel h
  exact ⟨String.toList_inj.mp hcs, hr⟩

/-! ### The text determines the value -/

/-- What may follow a value: nothing, or a closing character. -/
def Closed (r : List Char) : Prop := ∀ c ∈ r.head?, isCloser c = true

theorem token_append_cancel {t t' r s : List Char} (ht : ∀ c ∈ t, isCloser c = false)
    (ht' : ∀ c ∈ t', isCloser c = false) (hr : Closed r) (hs : Closed s)
    (h : t ++ r = t' ++ s) : t = t' ∧ r = s := by
  induction t generalizing t' with
  | nil =>
    cases t' with
    | nil => exact ⟨rfl, h⟩
    | cons c t' =>
      have hc := hr c (by rw [List.nil_append] at h; rw [h]; rfl)
      rw [ht' c (by simp)] at hc
      cases hc
  | cons c t ih =>
    cases t' with
    | nil =>
      have hc := hs c (by rw [List.nil_append] at h; rw [← h]; rfl)
      rw [ht c (by simp)] at hc
      cases hc
    | cons c' t' =>
      simp only [List.cons_append, List.cons.injEq] at h
      obtain ⟨htt, hrs⟩ := ih (fun x hx => ht x (by simp [hx])) (fun x hx => ht' x (by simp [hx])) h.2
      exact ⟨by rw [h.1, htt], hrs⟩

theorem isDigit_headKind {c : Char} (h : c.isDigit = true) : headKind c = 7 ∧ isCloser c = false := by
  have hne : ∀ d : Char, d.isDigit = false → c ≠ d := by
    intro d hd hcd
    rw [hcd, hd] at h
    cases h
  have hcloser : isCloser c = false := by
    simp [isCloser, hne ',' (by decide), hne ']' (by decide), hne '}' (by decide)]
  refine ⟨?_, hcloser⟩
  unfold headKind
  rw [if_neg (hne _ (by decide)), if_neg (hne _ (by decide)), if_neg (hne _ (by decide)),
    if_neg (hne _ (by decide)), if_neg (hne _ (by decide)), if_neg (hne _ (by decide)), hcloser]
  rfl

theorem isDigit_of_mem_toDigits {n : Nat} {c : Char} (h : c ∈ Nat.toDigits 10 n) :
    c.isDigit = true :=
  Nat.isDigit_of_mem_toDigits (by decide) (by decide) h

theorem intText_plain (n : Int) : ∀ c ∈ intText n, isCloser c = false := by
  intro c hc
  cases n with
  | ofNat n => exact (isDigit_headKind (isDigit_of_mem_toDigits hc)).2
  | negSucc n =>
    rcases List.mem_cons.mp hc with rfl | hc
    · decide
    · exact (isDigit_headKind (isDigit_of_mem_toDigits hc)).2

theorem intText_head (n : Int) (c : Char) (rest : List Char) (h : intText n = c :: rest) :
    headKind c = 7 := by
  cases n with
  | ofNat n =>
    have hmem : c ∈ Nat.toDigits 10 n := by
      have : Nat.toDigits 10 n = c :: rest := h
      rw [this]
      simp
    exact (isDigit_headKind (isDigit_of_mem_toDigits hmem)).1
  | negSucc n =>
    simp only [intText, List.cons.injEq] at h
    rw [← h.1]
    decide

theorem intText_ne_nil (n : Int) : intText n ≠ [] := by
  cases n with
  | ofNat n => exact Nat.toDigits_ne_nil
  | negSucc n => simp [intText]

theorem toDigits_injective {m n : Nat} (h : Nat.toDigits 10 m = Nat.toDigits 10 n) : m = n := by
  have := congrArg (fun l => Nat.ofDigitChars 10 l 0) h
  simpa only [Nat.ofDigitChars_ten_toDigits] using this

theorem toDigits_ne_minus (m : Nat) (rest : List Char) : Nat.toDigits 10 m ≠ '-' :: rest := by
  intro h
  have hdigit : ('-' : Char).isDigit = true :=
    isDigit_of_mem_toDigits (n := m) (by rw [h]; simp)
  revert hdigit
  decide

theorem intText_injective {m n : Int} (h : intText m = intText n) : m = n := by
  cases m with
  | ofNat m =>
    cases n with
    | ofNat n => rw [toDigits_injective h]
    | negSucc n => exact absurd h (toDigits_ne_minus m _)
  | negSucc m =>
    cases n with
    | ofNat n => exact absurd h.symm (toDigits_ne_minus n _)
    | negSucc n =>
      simp only [intText, List.cons.injEq, true_and] at h
      have := toDigits_injective h
      rw [Nat.succ_injective this]

section Injective

variable {F : Type u} [FloatText F]

def kind : Value F → Nat
  | .null => 0
  | .bool true => 1
  | .bool false => 2
  | .str _ => 3
  | .list _ => 4
  | .dict _ => 5
  | .int _ => 7
  | .float _ => 7

theorem headKind_dumps (v : Value F) : ∃ c rest, dumps v = c :: rest ∧ headKind c = kind v := by
  have hnumber : ∀ t : List Char, t ≠ [] → (∀ c rest, t = c :: rest → headKind c = 7) →
      ∃ c rest, t = c :: rest ∧ headKind c = 7 := by
    intro t hne hhead
    obtain ⟨c, rest, rfl⟩ := List.exists_cons_of_ne_nil hne
    exact ⟨c, rest, rfl, hhead c rest rfl⟩
  cases v with
  | null => exact ⟨_, _, rfl, rfl⟩
  | bool b => cases b <;> exact ⟨_, _, rfl, rfl⟩
  | int n => exact hnumber _ (intText_ne_nil n) (intText_head n)
  | float x => exact hnumber _ (FloatText.text_ne_nil x) (FloatText.text_head x)
  | str s => exact ⟨_, _, rfl, rfl⟩
  | list items => cases items <;> exact ⟨_, _, rfl, rfl⟩
  | dict entries => cases entries <;> exact ⟨_, _, rfl, rfl⟩

theorem kind_eq_of_dumps {v w : Value F} {r s : List Char} (h : dumps v ++ r = dumps w ++ s) :
    kind v = kind w := by
  obtain ⟨c, rest, hv, hcv⟩ := headKind_dumps v
  obtain ⟨d, rest', hw, hdw⟩ := headKind_dumps w
  rw [hv, hw, List.cons_append, List.cons_append, List.cons.injEq] at h
  rw [← hcv, ← hdw, h.1]

theorem dumps_ne_closer (v : Value F) {c : Char} (hc : headKind c = 6) (r s : List Char) :
    dumps v ++ r ≠ c :: s := by
  intro h
  obtain ⟨d, rest, hv, hd⟩ := headKind_dumps v
  rw [hv, List.cons_append, List.cons.injEq] at h
  rw [h.1, hc] at hd
  revert hd
  cases v with
  | bool b => cases b <;> simp [kind]
  | _ => simp [kind]

theorem closed_dumpsItems (xs : Values F) (r : List Char) : Closed (dumpsItems xs ++ r) := by
  cases xs <;> (intro c hc; cases hc; decide)

theorem closed_dumpsEntries (es : Entries F) (r : List Char) : Closed (dumpsEntries es ++ r) := by
  cases es <;> (intro c hc; cases hc; decide)

mutual

theorem dumps_append_cancel : ∀ (v w : Value F) {r s : List Char}, Closed r → Closed s →
    dumps v ++ r = dumps w ++ s → v = w ∧ r = s
  | .null, w, r, s, hr, hs, h => by
    have hk := kind_eq_of_dumps h
    cases w with
    | null => exact ⟨rfl, by simpa [dumps] using h⟩
    | bool b => cases b <;> cases hk
    | _ => cases hk
  | .bool true, w, r, s, hr, hs, h => by
    have hk := kind_eq_of_dumps h
    cases w with
    | bool b =>
      cases b with
      | true => exact ⟨rfl, by simpa [dumps] using h⟩
      | false => cases hk
    | _ => cases hk
  | .bool false, w, r, s, hr, hs, h => by
    have hk := kind_eq_of_dumps h
    cases w with
    | bool b =>
      cases b with
      | true => cases hk
      | false => exact ⟨rfl, by simpa [dumps] using h⟩
    | _ => cases hk
  | .int n, w, r, s, hr, hs, h => by
    have hk := kind_eq_of_dumps h
    cases w with
    | int m =>
      obtain ⟨ht, hrs⟩ := token_append_cancel (intText_plain n) (intText_plain m) hr hs h
      exact ⟨by rw [intText_injective ht], hrs⟩
    | float x =>
      obtain ⟨ht, -⟩ := token_append_cancel (intText_plain n) (FloatText.text_plain x) hr hs h
      exact absurd ht.symm (FloatText.text_ne_int x n)
    | bool b => cases b <;> cases hk
    | _ => cases hk
  | .float x, w, r, s, hr, hs, h => by
    have hk := kind_eq_of_dumps h
    cases w with
    | int m =>
      obtain ⟨ht, -⟩ := token_append_cancel (FloatText.text_plain x) (intText_plain m) hr hs h
      exact absurd ht (FloatText.text_ne_int x m)
    | float y =>
      obtain ⟨ht, hrs⟩ :=
        token_append_cancel (FloatText.text_plain x) (FloatText.text_plain y) hr hs h
      exact ⟨by rw [FloatText.text_injective x y ht], hrs⟩
    | bool b => cases b <;> cases hk
    | _ => cases hk
  | .str x, w, r, s, hr, hs, h => by
    have hk := kind_eq_of_dumps h
    cases w with
    | str y =>
      obtain ⟨hxy, hrs⟩ := strText_append_cancel h
      exact ⟨by rw [hxy], hrs⟩
    | bool b => cases b <;> cases hk
    | _ => cases hk
  | .list .nil, w, r, s, hr, hs, h => by
    have hk := kind_eq_of_dumps h
    cases w with
    | list ys =>
      cases ys with
      | nil => exact ⟨rfl, by simpa [dumps] using h⟩
      | cons w ws =>
        simp only [dumps, List.cons_append, List.cons.injEq, true_and, List.append_assoc] at h
        exact absurd h.symm (dumps_ne_closer w (by decide) _ _)
    | bool b => cases b <;> cases hk
    | _ => cases hk
  | .list (.cons v vs), w, r, s, hr, hs, h => by
    have hk := kind_eq_of_dumps h
    cases w with
    | list ys =>
      cases ys with
      | nil =>
        simp only [dumps, List.cons_append, List.cons.injEq, true_and, List.append_assoc] at h
        exact absurd h (dumps_ne_closer v (by decide) _ _)
      | cons w ws =>
        simp only [dumps, List.cons_append, List.cons.injEq, true_and, List.append_assoc] at h
        obtain ⟨hvw, hrest⟩ :=
          dumps_append_cancel v w (closed_dumpsItems vs r) (closed_dumpsItems ws s) h
        obtain ⟨hvs, hrs⟩ := dumpsItems_append_cancel vs ws hrest
        exact ⟨by rw [hvw, hvs], hrs⟩
    | bool b => cases b <;> cases hk
    | _ => cases hk
  | .dict .nil, w, r, s, hr, hs, h => by
    have hk := kind_eq_of_dumps h
    cases w with
    | dict fs =>
      cases fs with
      | nil => exact ⟨rfl, by simpa [dumps] using h⟩
      | cons k w fs =>
        simp only [dumps, strText, List.cons_append, List.cons.injEq, true_and] at h
        exact absurd h.1 (by decide)
    | bool b => cases b <;> cases hk
    | _ => cases hk
  | .dict (.cons k v es), w, r, s, hr, hs, h => by
    have hk := kind_eq_of_dumps h
    cases w with
    | dict fs =>
      cases fs with
      | nil =>
        simp only [dumps, strText, List.cons_append, List.cons.injEq, true_and] at h
        exact absurd h.1 (by decide)
      | cons k' w fs =>
        simp only [dumps, List.cons_append, List.cons.injEq, true_and, List.append_assoc] at h
        obtain ⟨hkey, hrest⟩ := strText_append_cancel h
        simp only [List.cons.injEq, true_and] at hrest
        obtain ⟨hvw, hrest⟩ :=
          dumps_append_cancel v w (closed_dumpsEntries es r) (closed_dumpsEntries fs s) hrest
        obtain ⟨hes, hrs⟩ := dumpsEntries_append_cancel es fs hrest
        exact ⟨by rw [hkey, hvw, hes], hrs⟩
    | bool b => cases b <;> cases hk
    | _ => cases hk

theorem dumpsItems_append_cancel : ∀ (vs ws : Values F) {r s : List Char},
    dumpsItems vs ++ r = dumpsItems ws ++ s → vs = ws ∧ r = s
  | .nil, .nil, r, s, h => ⟨rfl, by simpa [dumpsItems] using h⟩
  | .nil, .cons w ws, r, s, h => by
    simp only [dumpsItems, List.cons_append, List.cons.injEq] at h
    exact absurd h.1 (by decide)
  | .cons v vs, .nil, r, s, h => by
    simp only [dumpsItems, List.cons_append, List.cons.injEq] at h
    exact absurd h.1 (by decide)
  | .cons v vs, .cons w ws, r, s, h => by
    simp only [dumpsItems, List.cons_append, List.cons.injEq, true_and, List.append_assoc] at h
    obtain ⟨hvw, hrest⟩ :=
      dumps_append_cancel v w (closed_dumpsItems vs r) (closed_dumpsItems ws s) h
    obtain ⟨hvs, hrs⟩ := dumpsItems_append_cancel vs ws hrest
    exact ⟨by rw [hvw, hvs], hrs⟩

theorem dumpsEntries_append_cancel : ∀ (es fs : Entries F) {r s : List Char},
    dumpsEntries es ++ r = dumpsEntries fs ++ s → es = fs ∧ r = s
  | .nil, .nil, r, s, h => ⟨rfl, by simpa [dumpsEntries] using h⟩
  | .nil, .cons k w fs, r, s, h => by
    simp only [dumpsEntries, List.cons_append, List.cons.injEq] at h
    exact absurd h.1 (by decide)
  | .cons k v es, .nil, r, s, h => by
    simp only [dumpsEntries, List.cons_append, List.cons.injEq] at h
    exact absurd h.1 (by decide)
  | .cons k v es, .cons k' w fs, r, s, h => by
    simp only [dumpsEntries, List.cons_append, List.cons.injEq, true_and, List.append_assoc] at h
    obtain ⟨hkey, hrest⟩ := strText_append_cancel h
    simp only [List.cons.injEq, true_and] at hrest
    obtain ⟨hvw, hrest⟩ :=
      dumps_append_cancel v w (closed_dumpsEntries es r) (closed_dumpsEntries fs s) hrest
    obtain ⟨hes, hrs⟩ := dumpsEntries_append_cancel es fs hrest
    exact ⟨by rw [hkey, hvw, hes], hrs⟩

end

/-- **The text of a JSON value determines it.** -/
theorem dumps_injective {v w : Value F} (h : dumps v = dumps w) : v = w := by
  have hnil : Closed [] := by intro c hc; cases hc
  exact (dumps_append_cancel v w (r := []) (s := []) hnil hnil (by rw [h])).1

end Injective

end JsonText
