import Meshpoint.ByteCodec

/-!
# The protocol-buffer wire format

Base-128 varints and the field sequence of a message: a tag (field number and
wire type) and a value.  Fields of unknown groups are skipped with their groups,
which must be closed in order and nest at most a hundred deep.

`readVarint_encodeVarint` and `readItem_...` say what a reader makes of the
bytes a writer produced, with anything behind them; `parseFields_writeFields` is the
round trip of whole messages and `onWire_of_parseFields` what a parser accepts at all.
-/

namespace ProtoWire

open ByteCodec

/-! ### Varints -/

/-- `_encode_varint`-style writer: seven bits per byte, least significant first. -/
def encodeVarintFuel : Nat → Nat → Bytes
  | 0, value => [UInt8.ofNat (value % 128)]
  | fuel + 1, value =>
    if 127 < value then UInt8.ofNat (value % 128 + 128) :: encodeVarintFuel fuel (value / 128)
    else [UInt8.ofNat (value % 128)]

def encodeVarint (value : Nat) : Bytes := encodeVarintFuel value value

/-- Read a varint of at most `limit` bytes: the value and what follows. -/
def readVarint : (limit : Nat) → Bytes → Option (Nat × Bytes)
  | 0, _ => none
  | _ + 1, [] => none
  | limit + 1, b :: rest =>
    if b.toNat < 128 then some (b.toNat, rest)
    else (readVarint limit rest).map fun p => (b.toNat - 128 + 128 * p.1, p.2)

theorem readVarint_encodeVarintFuel {limit fuel value : Nat} (hfuel : value ≤ fuel)
    (hlimit : value < 128 ^ limit) (rest : Bytes) (hpos : 0 < limit) :
    readVarint limit (encodeVarintFuel fuel value ++ rest) = some (value, rest) := by
  induction fuel generalizing limit value with
  | zero =>
    obtain ⟨limit, rfl⟩ : ∃ n, limit = n + 1 := ⟨limit - 1, by omega⟩
    have hvalue : value = 0 := by omega
    subst hvalue
    rfl
  | succ fuel ih =>
    obtain ⟨limit, rfl⟩ : ∃ n, limit = n + 1 := ⟨limit - 1, by omega⟩
    by_cases hbig : 127 < value
    · have hdiv : value / 128 < 128 ^ limit := by
        rw [Nat.div_lt_iff_lt_mul (by decide)]
        rwa [Nat.pow_succ] at hlimit
      have hlimitPos : 0 < limit := by
        rcases Nat.eq_zero_or_pos limit with h | h
        · subst h
          simp at hdiv
          omega
        · exact h
      simp only [encodeVarintFuel, if_pos hbig, List.cons_append, readVarint]
      rw [toNat_ofNat_of_lt (by omega), if_neg (by omega),
        ih (by omega) hdiv hlimitPos]
      simp only [Option.map_some]
      congr 2
      omega
    · simp only [encodeVarintFuel, if_neg hbig, List.cons_append, List.nil_append, readVarint]
      rw [toNat_ofNat_of_lt (by omega), if_pos (by omega)]
      congr 2
      omega

/-- **Reading a varint back.** -/
theorem readVarint_encodeVarint {limit value : Nat} (hlimit : value < 128 ^ limit)
    (hpos : 0 < limit) (rest : Bytes) :
    readVarint limit (encodeVarint value ++ rest) = some (value, rest) :=
  readVarint_encodeVarintFuel (Nat.le_refl value) hlimit rest hpos

/-! ### Minimal varints -/

theorem encodeVarintFuel_eq {fuel fuel' value : Nat} (hfuel : value ≤ fuel)
    (hfuel' : value ≤ fuel') : encodeVarintFuel fuel value = encodeVarintFuel fuel' value := by
  induction fuel generalizing fuel' value with
  | zero =>
    rw [Nat.le_zero.mp hfuel]
    cases fuel' <;> rfl
  | succ fuel ih =>
    cases fuel' with
    | zero =>
      rw [Nat.le_zero.mp hfuel']
      rfl
    | succ fuel' =>
      simp only [encodeVarintFuel]
      by_cases hbig : 127 < value
      · have hdiv : value / 128 ≤ fuel ∧ value / 128 ≤ fuel' := by omega
        rw [if_pos hbig, if_pos hbig, ih hdiv.1 hdiv.2]
      · rw [if_neg hbig, if_neg hbig]

theorem encodeVarint_of_lt {value : Nat} (h : value < 128) :
    encodeVarint value = [UInt8.ofNat value] := by
  have hmod : value % 128 = value := Nat.mod_eq_of_lt h
  cases value with
  | zero => rfl
  | succ n => rw [encodeVarint, encodeVarintFuel, if_neg (by omega), hmod]

theorem encodeVarint_of_ge {value : Nat} (h : 128 ≤ value) :
    encodeVarint value = UInt8.ofNat (value % 128 + 128) :: encodeVarint (value / 128) := by
  cases value with
  | zero => exact absurd h (by decide)
  | succ n =>
    rw [encodeVarint, encodeVarintFuel, if_pos (by omega), encodeVarint,
      encodeVarintFuel_eq (by omega) (Nat.le_refl _)]

theorem encodeVarint_ne_nil (value : Nat) : encodeVarint value ≠ [] := by
  by_cases h : value < 128
  · simp [encodeVarint_of_lt h]
  · simp [encodeVarint_of_ge (Nat.le_of_not_lt h)]

theorem lt_pow_length_encodeVarint (value : Nat) :
    value < 128 ^ (encodeVarint value).length := by
  induction value using Nat.strongRecOn with
  | ind value ih =>
    by_cases h : value < 128
    · simpa [encodeVarint_of_lt h] using h
    · rw [encodeVarint_of_ge (Nat.le_of_not_lt h), List.length_cons, Nat.pow_succ]
      have hrest := ih (value / 128) (by omega)
      rw [Nat.div_lt_iff_lt_mul (by decide)] at hrest
      exact hrest

/-- A varint of any length: the limit is the number of bytes there are. -/
def decodeVarint (bs : Bytes) : Option (Nat × Bytes) := readVarint bs.length bs

theorem decodeVarint_encodeVarint (value : Nat) (rest : Bytes) :
    decodeVarint (encodeVarint value ++ rest) = some (value, rest) := by
  have hpos := List.length_pos_of_ne_nil (encodeVarint_ne_nil value)
  have hlength : (encodeVarint value).length ≤ (encodeVarint value ++ rest).length := by simp
  exact readVarint_encodeVarint (Nat.lt_of_lt_of_le (lt_pow_length_encodeVarint value)
    (Nat.pow_le_pow_right (by decide) hlength)) (by omega) rest

/-- **The encoding is minimal.** Bytes that read as a number are at least as many as its encoding
    has, and where they are as many they are the encoding. -/
theorem readVarint_minimal {limit : Nat} {bs : Bytes} {value : Nat}
    (h : readVarint limit bs = some (value, [])) :
    (encodeVarint value).length ≤ bs.length ∧
      (bs.length = (encodeVarint value).length → bs = encodeVarint value) := by
  induction bs generalizing limit value with
  | nil => cases limit <;> simp [readVarint] at h
  | cons b bs ih =>
    cases limit with
    | zero => simp [readVarint] at h
    | succ limit =>
      by_cases hlast : b.toNat < 128
      · simp only [readVarint, if_pos hlast, Option.some.injEq, Prod.mk.injEq] at h
        obtain ⟨rfl, rfl⟩ := h
        rw [encodeVarint_of_lt hlast, UInt8.ofNat_toNat]
        exact ⟨Nat.le_refl _, fun _ => rfl⟩
      · simp only [readVarint, if_neg hlast, Option.map_eq_some_iff, Prod.mk.injEq] at h
        obtain ⟨⟨high, _⟩, hread, rfl, rfl⟩ := h
        obtain ⟨hle, heq⟩ := ih hread
        have hbyte : b.toNat < 256 := b.toNat_lt
        have hbs : 0 < bs.length := by
          have hpos := List.length_pos_of_ne_nil (encodeVarint_ne_nil high)
          omega
        by_cases hzero : high = 0
        · -- a last byte of zero: the number has a shorter encoding
          subst hzero
          rw [encodeVarint_of_lt (by omega)]
          simp only [List.length_cons, List.length_nil]
          omega
        · have hmod : (b.toNat - 128 + 128 * high) % 128 + 128 = b.toNat := by omega
          have hdiv : (b.toNat - 128 + 128 * high) / 128 = high := by omega
          rw [encodeVarint_of_ge (by omega), hmod, hdiv, UInt8.ofNat_toNat]
          refine ⟨Nat.succ_le_succ hle, fun hlength => ?_⟩
          rw [heq (Nat.succ.inj hlength)]

/-! ### Fields -/

/-- A value on the wire. -/
inductive WireValue where
  | varint (n : Nat)
  | fixed64 (bs : Bytes)
  | bytes (bs : Bytes)
  | fixed32 (bs : Bytes)
deriving DecidableEq, Repr

/-- What one tag starts. -/
inductive Item where
  | field (number : Nat) (value : WireValue)
  | startGroup (number : Nat)
  | endGroup (number : Nat)
deriving DecidableEq, Repr

/-- Split off `n` bytes. -/
def takeExactly (n : Nat) (bs : Bytes) : Option (Bytes × Bytes) :=
  if n ≤ bs.length then some (bs.take n, bs.drop n) else none

def readItem (bs : Bytes) : Option (Item × Bytes) := do
  let (tag, rest) ← readVarint 5 bs
  let number := tag / 8
  if number = 0 ∨ 2 ^ 32 ≤ tag then none
  else
    match tag % 8 with
    | 0 => (readVarint 10 rest).map fun p => (.field number (.varint (p.1 % 2 ^ 64)), p.2)
    | 1 => (takeExactly 8 rest).map fun p => (.field number (.fixed64 p.1), p.2)
    | 2 => do
      let (n, rest) ← readVarint 10 rest
      (takeExactly n rest).map fun p => (.field number (.bytes p.1), p.2)
    | 3 => some (.startGroup number, rest)
    | 4 => some (.endGroup number, rest)
    | 5 => (takeExactly 4 rest).map fun p => (.field number (.fixed32 p.1), p.2)
    | _ => none

/-- Read all fields of a message; `groups` are the open groups, innermost first,
    whose fields are skipped. -/
def readFields : Nat → (groups : List Nat) → Bytes → Option (List (Nat × WireValue))
  | _, groups, [] => if groups = [] then some [] else none
  | 0, _, _ :: _ => none
  | fuel + 1, groups, bs =>
    match readItem bs with
    | none => none
    | some (.field number value, rest) =>
      (readFields fuel groups rest).map fun fields =>
        if groups = [] then (number, value) :: fields else fields
    | some (.startGroup number, rest) =>
      if groups.length < 100 then readFields fuel (number :: groups) rest else none
    | some (.endGroup number, rest) =>
      match groups with
      | [] => none
      | top :: outer => if top = number then readFields fuel outer rest else none

/-- The fields of a serialised message; every item takes at least one byte. -/
def parseFields (bs : Bytes) : Option (List (Nat × WireValue)) := readFields bs.length [] bs

/-- The value of a scalar field: the last one on the wire wins. -/
def lastOf {α : Type} (select : WireValue → Option α) (number : Nat) (default : α)
    (fields : List (Nat × WireValue)) : α :=
  fields.foldl (fun acc field =>
    if field.1 = number then (select field.2).getD acc else acc) default

def WireValue.varint? : WireValue → Option Nat
  | .varint n => some n
  | _ => none

def WireValue.bytes? : WireValue → Option Bytes
  | .bytes bs => some bs
  | _ => none

def WireValue.fixed32? : WireValue → Option Nat
  | .fixed32 bs => some (leValue bs)
  | _ => none

/-! ### Reading what a writer wrote -/

theorem takeExactly_append (bs rest : Bytes) :
    takeExactly bs.length (bs ++ rest) = some (bs, rest) := by
  simp [takeExactly]

theorem readVarint_tag {tag : UInt8} (h : tag.toNat < 128) (rest : Bytes) :
    readVarint 5 (tag :: rest) = some (tag.toNat, rest) := by
  simp [readVarint, h]

theorem readItem_varint (tag : UInt8) (value : Nat) (htag : tag.toNat < 128)
    (hnumber : tag.toNat / 8 ≠ 0) (hwire : tag.toNat % 8 = 0) (hvalue : value < 2 ^ 64)
    (rest : Bytes) : readItem (tag :: (encodeVarint value ++ rest)) =
      some (.field (tag.toNat / 8) (.varint value), rest) := by
  have hread : readVarint 10 (encodeVarint value ++ rest) = some (value, rest) :=
    readVarint_encodeVarint (lt_of_lt_of_le hvalue (by decide)) (by decide) rest
  simp only [readItem, readVarint_tag htag, Option.bind_eq_bind, Option.bind_some]
  rw [if_neg (by omega), hwire]
  simp only [hread, Option.map_some, Nat.mod_eq_of_lt hvalue]

theorem readItem_bytes (tag : UInt8) (payload : Bytes) (htag : tag.toNat < 128)
    (hnumber : tag.toNat / 8 ≠ 0) (hwire : tag.toNat % 8 = 2) (hlen : payload.length < 2 ^ 64)
    (rest : Bytes) : readItem (tag :: (encodeVarint payload.length ++ (payload ++ rest))) =
      some (.field (tag.toNat / 8) (.bytes payload), rest) := by
  have hread : readVarint 10 (encodeVarint payload.length ++ (payload ++ rest)) =
      some (payload.length, payload ++ rest) :=
    readVarint_encodeVarint (lt_of_lt_of_le hlen (by decide)) (by decide) (payload ++ rest)
  simp only [readItem, readVarint_tag htag, Option.bind_eq_bind, Option.bind_some]
  rw [if_neg (by omega), hwire]
  simp only [hread, Option.bind_some, takeExactly_append, Option.map_some]

theorem readItem_fixed32 (tag : UInt8) (word : Bytes) (htag : tag.toNat < 128)
    (hnumber : tag.toNat / 8 ≠ 0) (hwire : tag.toNat % 8 = 5) (hlen : word.length = 4)
    (rest : Bytes) : readItem (tag :: (word ++ rest)) =
      some (.field (tag.toNat / 8) (.fixed32 word), rest) := by
  have htake := takeExactly_append word rest
  rw [hlen] at htake
  simp only [readItem, readVarint_tag htag, Option.bind_eq_bind, Option.bind_some]
  rw [if_neg (by omega), hwire]
  simp only [htake, Option.map_some]

theorem readFields_cons {fuel number : Nat} {bs rest : Bytes} {value : WireValue} (hne : bs ≠ [])
    (h : readItem bs = some (.field number value, rest)) :
    readFields (fuel + 1) [] bs = (readFields fuel [] rest).map fun fields =>
      (number, value) :: fields := by
  cases bs with
  | nil => exact absurd rfl hne
  | cons b bs => simp [readFields, h]

/-! ### A writer -/

def writeField : Nat × WireValue → Bytes
  | (number, .varint n) => encodeVarint (number * 8) ++ encodeVarint n
  | (number, .fixed64 bs) => encodeVarint (number * 8 + 1) ++ bs
  | (number, .bytes bs) => encodeVarint (number * 8 + 2) ++ (encodeVarint bs.length ++ bs)
  | (number, .fixed32 bs) => encodeVarint (number * 8 + 5) ++ bs

def WireValue.Fits : WireValue → Prop
  | .varint n => n < 2 ^ 64
  | .fixed64 bs => bs.length = 8
  | .bytes bs => bs.length < 2 ^ 64
  | .fixed32 bs => bs.length = 4

def FieldFits (field : Nat × WireValue) : Prop :=
  0 < field.1 ∧ field.1 < 2 ^ 29 ∧ field.2.Fits

theorem writeField_ne_nil (field : Nat × WireValue) : writeField field ≠ [] := by
  obtain ⟨number, value⟩ := field
  cases value <;> simp [writeField, encodeVarint_ne_nil]

theorem readItem_writeField {field : Nat × WireValue} (h : FieldFits field) (rest : Bytes) :
    readItem (writeField field ++ rest) = some (.field field.1 field.2, rest) := by
  obtain ⟨number, value⟩ := field
  obtain ⟨hpos, hnumber, hvalue⟩ := h
  simp only at hpos hnumber
  have htag : ∀ wire < 8, ∀ after, readVarint 5 (encodeVarint (number * 8 + wire) ++ after) =
      some (number * 8 + wire, after) := fun wire hwire after =>
    readVarint_encodeVarint (by omega) (by decide) after
  have hvarint : ∀ n < 2 ^ 64, ∀ after, readVarint 10 (encodeVarint n ++ after) =
      some (n, after) := fun n hn after =>
    readVarint_encodeVarint (lt_of_lt_of_le hn (by decide)) (by decide) after
  have hdiv : ∀ wire < 8, (number * 8 + wire) / 8 = number := by omega
  have hmod : ∀ wire < 8, (number * 8 + wire) % 8 = wire := by omega
  cases value with
  | varint n =>
    have hfirst := htag 0 (by decide) (encodeVarint n ++ rest)
    have hdiv' := hdiv 0 (by decide)
    have hmod' := hmod 0 (by decide)
    rw [Nat.add_zero] at hfirst hdiv' hmod'
    rw [writeField, List.append_assoc]
    simp only [readItem, hfirst, Option.bind_eq_bind, Option.bind_some, hdiv', hmod']
    rw [if_neg (by omega), hvarint n hvalue rest]
    simp only [Option.map_some, Nat.mod_eq_of_lt hvalue]
  | fixed64 bs =>
    have htake := takeExactly_append bs rest
    rw [show bs.length = 8 from hvalue] at htake
    rw [writeField, List.append_assoc]
    simp only [readItem, htag 1 (by decide), Option.bind_eq_bind, Option.bind_some,
      hdiv 1 (by decide), hmod 1 (by decide)]
    rw [if_neg (by omega), htake]
    rfl
  | bytes bs =>
    rw [writeField, List.append_assoc, List.append_assoc]
    simp only [readItem, htag 2 (by decide), Option.bind_eq_bind, Option.bind_some,
      hdiv 2 (by decide), hmod 2 (by decide)]
    rw [if_neg (by omega), hvarint bs.length hvalue (bs ++ rest)]
    simp only [Option.bind_some, takeExactly_append, Option.map_some]
  | fixed32 bs =>
    have htake := takeExactly_append bs rest
    rw [show bs.length = 4 from hvalue] at htake
    rw [writeField, List.append_assoc]
    simp only [readItem, htag 5 (by decide), Option.bind_eq_bind, Option.bind_some,
      hdiv 5 (by decide), hmod 5 (by decide)]
    rw [if_neg (by omega), htake]
    rfl

/-- **Fields come back as they were written**, all of them and in their order. -/
theorem parseFields_writeFields {fields : List (Nat × WireValue)}
    (h : ∀ field ∈ fields, FieldFits field) :
    parseFields (fields.flatMap writeField) = some fields := by
  have hall : ∀ fuel, (fields.flatMap writeField).length ≤ fuel →
      readFields fuel [] (fields.flatMap writeField) = some fields := by
    induction fields with
    | nil =>
      intro fuel _
      cases fuel <;> simp [readFields]
    | cons field fields ih =>
      intro fuel hfuel
      rw [List.flatMap_cons] at hfuel ⊢
      have hpos := List.length_pos_of_ne_nil (writeField_ne_nil field)
      rw [List.length_append] at hfuel
      obtain ⟨fuel, rfl⟩ : ∃ n, fuel = n + 1 := ⟨fuel - 1, by omega⟩
      rw [readFields_cons (by simp [writeField_ne_nil])
        (readItem_writeField (h field List.mem_cons_self) _),
        ih (fun f hf => h f (List.mem_cons_of_mem _ hf)) fuel (by omega)]
      rfl
  exact hall _ (Nat.le_refl _)

/-! ### What a parser accepts -/

/-- The bounds that the wire itself puts on a value. -/
def WireValue.OnWire : WireValue → Prop
  | .varint n => n < 2 ^ 64
  | .fixed64 bs => bs.length = 8
  | .bytes _ => True
  | .fixed32 bs => bs.length = 4

theorem onWire_of_readItem {bs rest : Bytes} {number : Nat} {value : WireValue}
    (h : readItem bs = some (.field number value, rest)) : value.OnWire := by
  have htake : ∀ {n : Nat} {bs taken rest : Bytes}, takeExactly n bs = some (taken, rest) →
      taken.length = n := by
    intro n bs taken rest htaken
    unfold takeExactly at htaken
    split at htaken
    · rename_i hn
      cases htaken
      exact List.length_take_of_le hn
    · cases htaken
  simp only [readItem, Option.bind_eq_bind, Option.bind_eq_some_iff] at h
  obtain ⟨⟨tag, after⟩, -, h⟩ := h
  simp only at h
  split at h
  · cases h
  · split at h
    · simp only [Option.map_eq_some_iff, Prod.mk.injEq, Item.field.injEq] at h
      obtain ⟨_, -, ⟨-, rfl⟩, -⟩ := h
      exact Nat.mod_lt _ (by decide)
    · simp only [Option.map_eq_some_iff, Prod.mk.injEq, Item.field.injEq] at h
      obtain ⟨_, htaken, ⟨-, rfl⟩, -⟩ := h
      exact htake htaken
    · simp only [Option.bind_eq_some_iff, Option.map_eq_some_iff, Prod.mk.injEq,
        Item.field.injEq] at h
      obtain ⟨_, -, _, -, ⟨-, rfl⟩, -⟩ := h
      trivial
    · cases h
    · cases h
    · simp only [Option.map_eq_some_iff, Prod.mk.injEq, Item.field.injEq] at h
      obtain ⟨_, htaken, ⟨-, rfl⟩, -⟩ := h
      exact htake htaken
    · cases h

theorem onWire_of_readFields {fuel : Nat} {groups : List Nat} {bs : Bytes}
    {fields : List (Nat × WireValue)} (h : readFields fuel groups bs = some fields) :
    ∀ field ∈ fields, field.2.OnWire := by
  induction fuel generalizing groups bs fields with
  | zero =>
    cases bs with
    | nil =>
      unfold readFields at h
      split at h
      · cases h
        simp
      · cases h
    | cons b bs => simp [readFields] at h
  | succ fuel ih =>
    cases bs with
    | nil =>
      unfold readFields at h
      split at h
      · cases h
        simp
      · cases h
    | cons b bs =>
      simp only [readFields] at h
      split at h
      · cases h
      · rename_i number value rest hitem
        obtain ⟨tail, htail, rfl⟩ := Option.map_eq_some_iff.mp h
        split
        · rintro field hfield
          rcases List.mem_cons.mp hfield with rfl | hfield
          · exact onWire_of_readItem hitem
          · exact ih htail field hfield
        · exact ih htail
      · split at h
        · exact ih h
        · cases h
      · split at h
        · cases h
        · split at h
          · exact ih h
          · cases h

theorem onWire_of_parseFields {bs : Bytes} {fields : List (Nat × WireValue)}
    (h : parseFields bs = some fields) : ∀ field ∈ fields, field.2.OnWire :=
  onWire_of_readFields h

end ProtoWire
