import Meshpoint.AcceptedSettings
import Meshpoint.LorawanUplink

/-!
# Where the sensor fields of a payload are read

`decode_payload` (`src/decode/lorawan_payload_formats.py`) on the tables of fields that
`PUT /config/lorawan` accepts.  `placed` says where the listed fields are, `Meets` that every
field inside the payload comes out as its number times its scale, that the others leave no
entry, and that the entries of the frame stay.  `meets_iff` is the exact condition: the saved
form of a field without an offset has `None` there, which no size is added to, a negative
offset counts from the end, and fields of one name take each other's place.

Floats are doubles (`BinaryFloat`): the nearest one to each product, rounded to six decimals.
-/

namespace Meshpoint.PayloadLayout

open JsonText ByteCodec LorawanJoin LorawanFrames LorawanUplink Raising
open AcceptedSettings (roundHalfEven)

/-! ### Doubles -/

/-- Rounded to six decimals, and to the even one of two. -/
def sixDecimals (x : ℚ) : ℚ := roundHalfEven (x * 1000000) / 1000000

/-- Floats that stand for rational numbers and are rounded to the nearest one of these. -/
class BinaryFloat (F : Type) extends StationFloat F where
  /-- The number of a float; `none` for infinities and NaN. -/
  toRat : F → Option ℚ
  /-- The float number nearest to a number; `none` past the largest one. -/
  nearest : ℚ → Option ℚ
  nearest_nearest : ∀ p q, nearest p = some q → nearest q = some q
  isOne_iff : ∀ x, isOne x = true ↔ toRat x = some 1
  /-- `round(n * x, 6)` rounds twice.  The integers of two words are floats. -/
  toRat_scaled : ∀ (n : Int) x, n.natAbs < 2 ^ 32 →
    toRat (scaled n x) =
      (toRat x).bind fun s => (nearest (n * s)).bind fun y => nearest (sixDecimals y)

section

variable {F : Type} [BinaryFloat F]

def valueNumber : Value F → Option ℚ
  | .int n => some n
  | .float x => BinaryFloat.toRat x
  | _ => none

/-- What a number times a scale is rounded to; a scale of one leaves the number alone. -/
def rounded (n : Int) (scale : F) : Option ℚ :=
  (BinaryFloat.toRat scale).bind fun s =>
    if s = 1 then some (n : ℚ)
    else (BinaryFloat.nearest F (n * s)).bind fun y => BinaryFloat.nearest F (sixDecimals y)

theorem valueNumber_scaledValue {n : Int} (hsize : n.natAbs < 2 ^ 32) (scale : F) :
    valueNumber (scaledValue (some scale) n) = rounded n scale := by
  unfold rounded
  simp only [scaledValue]
  by_cases hone : StationFloat.isOne scale = true
  · rw [if_pos hone, (BinaryFloat.isOne_iff scale).mp hone]
    rfl
  · rw [if_neg hone]
    change BinaryFloat.toRat (StationFloat.scaled n scale) = _
    rw [BinaryFloat.toRat_scaled n scale hsize]
    cases hs : BinaryFloat.toRat scale with
    | none => rfl
    | some s =>
      have hne : s ≠ 1 := by
        rintro rfl
        exact hone ((BinaryFloat.isOne_iff scale).mpr hs)
      simp only [Option.bind_some, if_neg hne]

theorem rounded_eq_iff {n : Int} {scale : F} {s : ℚ} (hs : BinaryFloat.toRat scale = some s)
    (hne : s ≠ 1) :
    rounded n scale = some (n * s) ↔
      BinaryFloat.nearest F (n * s) = some (n * s) ∧
        BinaryFloat.nearest F (sixDecimals (n * s)) = some (n * s) := by
  unfold rounded
  rw [hs, Option.bind_some, if_neg hne]
  constructor
  · intro h
    obtain ⟨y, hy, hsix⟩ := Option.bind_eq_some_iff.mp h
    have hfloat := BinaryFloat.nearest_nearest _ _ hsix
    obtain rfl : n * s = y := Option.some.inj (hfloat.symm.trans hy)
    exact ⟨hfloat, hsix⟩
  · rintro ⟨hfloat, hsix⟩
    rw [hfloat, Option.bind_some, hsix]

end

/-! ### Fields in their places -/

section

variable {F : Type}

/-- `_FIELD_TYPES[entry.type]`. -/
def specOf (entry : PayloadFieldEntry F) : FieldSpec := (fieldSpec entry.type).get entry.type_known

/-- The number that the payload holds for a field from a byte on. -/
def numberAt (payload : Bytes) (entry : PayloadFieldEntry F) (start : Nat) : Int :=
  (specOf entry).number ((payload.drop start).take (specOf entry).size)

/-- A listed field with the place of its first byte. -/
structure Placed (F : Type) where
  entry : PayloadFieldEntry F
  start : Int

/-- The places of the fields: the explicit offset, or right after the field listed before. -/
def placed : List (PayloadFieldEntry F) → (cursor : Int) → List (Placed F)
  | [], _ => []
  | entry :: rest, cursor =>
    let start := entry.offset.getD cursor
    ⟨entry, start⟩ :: placed rest (start + entry.size)

def Placed.FitsIn (length : Nat) (field : Placed F) : Prop :=
  0 ≤ field.start ∧ field.start + field.entry.size ≤ length

/-- The entries of a frame that no sensor may take the place of. -/
def FRAME_KEYS : List String := ["dev_addr", "fcnt", "fport", "mic"]

/-- `decoded_payload.update(app_fields)` of a frame that was decrypted. -/
def merged (frame : DataFrame) (confirmed : Bool) (plaintext : Bytes) (fields : Entries F) :
    Entries F :=
  updateEntries (frameEntries frame confirmed)
    (.cons "frm_payload_decrypted" (.str (hexUpper plaintext)) fields)

end

section

variable {F : Type} [BinaryFloat F]

/-- The value is the number of a field times its scale. -/
def IsReading (payload : Bytes) (field : Placed F) (value : Value F) : Prop :=
  ∃ s ∈ BinaryFloat.toRat field.entry.scale,
    valueNumber value = some (numberAt payload field.entry field.start.toNat * s)

/-- Decoding returns the fields that are inside the payload and leaves the frame alone. -/
def Meets (entries : List (PayloadFieldEntry F)) (payload : Bytes) : Prop :=
  ∃ fields, decodePayload (entries.map PayloadFieldEntry.modelDump) payload = .ok fields ∧
    (∀ field ∈ placed entries 0, field.FitsIn payload.length →
      ∃ value, fields.get? field.entry.name = some value ∧ IsReading payload field value) ∧
    (∀ name, (∀ field ∈ placed entries 0, field.FitsIn payload.length → field.entry.name ≠ name) →
      fields.get? name = none) ∧
    ∀ (frame : DataFrame) (confirmed : Bool), ∀ key ∈ FRAME_KEYS,
      (merged frame confirmed payload fields).get? key =
        (frameEntries frame confirmed : Entries F).get? key

end

/-! ### What the loop reads -/

section

variable {F : Type}

/-- Where `unpack_from` reads a field; `none` for one that is passed over. -/
def readStart (length : Nat) (entry : PayloadFieldEntry F) : Option Nat :=
  entry.offset.bind fun offset =>
    if entry.name = "" ∨ length < offset + entry.size then none
    else some (if offset < 0 then offset + length else offset).toNat

/-- The last field of a name that is read, with where. -/
def lastRead (length : Nat) (name : String) :
    List (PayloadFieldEntry F) → Option (PayloadFieldEntry F × Nat)
  | [] => none
  | entry :: rest =>
    (lastRead length name rest).or
      (if entry.name = name then (readStart length entry).map fun start => (entry, start) else none)

theorem lastRead_eq_some {length : Nat} {name : String} {entries : List (PayloadFieldEntry F)}
    {entry : PayloadFieldEntry F} {start : Nat}
    (h : lastRead length name entries = some (entry, start)) :
    entry ∈ entries ∧ entry.name = name ∧ readStart length entry = some start := by
  induction entries with
  | nil => cases h
  | cons head rest ih =>
    rw [lastRead] at h
    cases hrest : lastRead length name rest with
    | some later =>
      rw [hrest, Option.some_or] at h
      obtain ⟨hmem, hfacts⟩ := ih (hrest.trans h)
      exact ⟨List.mem_cons_of_mem _ hmem, hfacts⟩
    | none =>
      rw [hrest, Option.none_or] at h
      split at h
      · rename_i hname
        obtain ⟨found, hfound, hpair⟩ := Option.map_eq_some_iff.mp h
        cases hpair
        exact ⟨List.mem_cons_self, hname, hfound⟩
      · cases h

theorem lastRead_isSome {length : Nat} {entries : List (PayloadFieldEntry F)}
    {entry : PayloadFieldEntry F} (hmem : entry ∈ entries) {start : Nat}
    (hread : readStart length entry = some start) :
    (lastRead length entry.name entries).isSome = true := by
  induction entries with
  | nil => cases hmem
  | cons head rest ih =>
    rw [lastRead, Option.isSome_or]
    rcases List.mem_cons.mp hmem with rfl | hlater
    · rw [if_pos rfl, hread]
      exact Bool.or_true _
    · rw [ih hlater]
      rfl

theorem unpackFrom_eq {spec : FieldSpec} {payload : Bytes} {offset raw : Int}
    (h : unpackFrom spec payload offset = .ok raw) :
    raw = spec.number ((payload.drop
      (if offset < 0 then offset + payload.length else offset).toNat).take spec.size) := by
  simp only [unpackFrom] at h
  split at h
  · cases h
  · by_cases hlong : (payload.length : Int) <
        (if offset < 0 then offset + payload.length else offset) + spec.size
    · rw [if_pos hlong] at h
      cases h
    · rw [if_neg hlong] at h
      cases h
      rfl

variable [StationFloat F]

/-- What is stored of a field that is read from a byte on. -/
def storedValue (payload : Bytes) (read : PayloadFieldEntry F × Nat) : Value F :=
  scaledValue (some read.1.scale) (numberAt payload read.1 read.2)

def readInto (payload : Bytes) (entry : PayloadFieldEntry F) (result : Entries F) : Entries F :=
  match readStart payload.length entry with
  | none => result
  | some start => result.set entry.name (storedValue payload (entry, start))

theorem decodeFields_cons {payload : Bytes} {entry : PayloadFieldEntry F}
    {rest : List (PayloadField F)} {cursor : Int} {result out : Entries F}
    (h : decodeFields payload (entry.modelDump :: rest) cursor result = .ok out) :
    ∃ cursor', decodeFields payload rest cursor' (readInto payload entry result) = .ok out := by
  have hspec : fieldSpec entry.type = some (specOf entry) :=
    (Option.some_get entry.type_known).symm
  have hsize : (specOf entry).size = entry.size := rfl
  rw [decodeFields_modelDump payload entry rest cursor result hspec, hsize] at h
  unfold readInto readStart
  by_cases hname : entry.name = ""
  · rw [if_pos hname] at h
    refine ⟨cursor, ?_⟩
    cases entry.offset with
    | none => exact h
    | some offset =>
      rw [Option.bind_some, if_pos (Or.inl hname)]
      exact h
  · rw [if_neg hname] at h
    cases hoffset : entry.offset with
    | none =>
      rw [hoffset] at h
      cases h
    | some offset =>
      rw [hoffset] at h
      simp only at h
      refine ⟨offset + entry.size, ?_⟩
      rw [Option.bind_some]
      by_cases hpast : (payload.length : Int) < offset + entry.size
      · rw [if_pos hpast] at h
        rw [if_pos (Or.inr hpast)]
        exact h
      · rw [if_neg hpast] at h
        rw [if_neg (not_or.mpr ⟨hname, hpast⟩)]
        cases hraw : unpackFrom (specOf entry) payload offset with
        | error e =>
          rw [hraw] at h
          cases h
        | ok raw =>
          rw [hraw] at h
          obtain rfl := unpackFrom_eq hraw
          exact h

theorem get?_readInto {payload : Bytes} {entry : PayloadFieldEntry F} {result : Entries F}
    (name : String) :
    (readInto payload entry result).get? name =
      ((if entry.name = name then
          (readStart payload.length entry).map fun start => (entry, start) else none).map
        (storedValue payload)).or (result.get? name) := by
  unfold readInto
  by_cases hname : entry.name = name
  · subst hname
    rw [if_pos rfl]
    cases readStart payload.length entry with
    | none => rfl
    | some start => exact get?_set_self _ _ _
  · rw [if_neg hname]
    cases readStart payload.length entry with
    | none => rfl
    | some start => exact get?_set_ne hname _ _

theorem get?_decodeFields_dump {payload : Bytes} (name : String)
    (entries : List (PayloadFieldEntry F)) (cursor : Int) (result out : Entries F)
    (h : decodeFields payload (entries.map PayloadFieldEntry.modelDump) cursor result = .ok out) :
    out.get? name =
      ((lastRead payload.length name entries).map (storedValue payload)).or
        (result.get? name) := by
  induction entries generalizing cursor result with
  | nil =>
    cases h
    rfl
  | cons entry rest ih =>
    obtain ⟨cursor', hrest⟩ := decodeFields_cons h
    rw [ih cursor' _ hrest, get?_readInto, lastRead, Option.map_or, Option.or_assoc]

end

/-! ### Places -/

section

variable {F : Type}

theorem mem_of_mem_placed {entries : List (PayloadFieldEntry F)} {cursor : Int} {field : Placed F}
    (h : field ∈ placed entries cursor) :
    field.entry ∈ entries ∧ ∀ offset ∈ field.entry.offset, field.start = offset := by
  induction entries generalizing cursor with
  | nil => cases h
  | cons entry rest ih =>
    rcases List.mem_cons.mp h with rfl | hlater
    · refine ⟨List.mem_cons_self, ?_⟩
      intro offset hoffset
      exact congrArg (Option.getD · cursor) (Option.mem_def.mp hoffset)
    · obtain ⟨hmem, hstart⟩ := ih hlater
      exact ⟨List.mem_cons_of_mem _ hmem, hstart⟩

theorem mem_placed {entries : List (PayloadFieldEntry F)} {entry : PayloadFieldEntry F}
    (hmem : entry ∈ entries) {offset : Int} (hoffset : entry.offset = some offset) (cursor : Int) :
    ⟨entry, offset⟩ ∈ placed entries cursor := by
  induction entries generalizing cursor with
  | nil => cases hmem
  | cons head rest ih =>
    rcases List.mem_cons.mp hmem with rfl | hlater
    · rw [placed, hoffset]
      exact List.mem_cons_self
    · exact List.mem_cons_of_mem _ (ih hlater _)

/-- What is read from a field: it has a name, and an offset that is not past the end. -/
theorem readStart_eq_some_iff {length : Nat} {entry : PayloadFieldEntry F} {start : Nat} :
    readStart length entry = some start ↔
      entry.name ≠ "" ∧ ∃ offset, entry.offset = some offset ∧ offset + entry.size ≤ length ∧
        (if offset < 0 then offset + length else offset).toNat = start := by
  unfold readStart
  constructor
  · intro h
    obtain ⟨offset, hoffset, hread⟩ := Option.bind_eq_some_iff.mp h
    split at hread
    · cases hread
    · rename_i hnot
      obtain ⟨hname, hpast⟩ := not_or.mp hnot
      exact ⟨hname, offset, hoffset, Int.not_lt.mp hpast, Option.some.inj hread⟩
  · rintro ⟨hname, offset, hoffset, hfits, rfl⟩
    rw [hoffset, Option.bind_some, if_neg (not_or.mpr ⟨hname, Int.not_lt.mpr hfits⟩)]

theorem readStart_of_fits {entries : List (PayloadFieldEntry F)} {length : Nat} {field : Placed F}
    (hmem : field ∈ placed entries 0) (hfits : field.FitsIn length)
    (hname : field.entry.name ≠ "") (hreadable : field.entry.ReadableIn length) :
    readStart length field.entry = some field.start.toNat := by
  obtain hblank | ⟨offset, hoffset, -⟩ := hreadable
  · exact absurd hblank hname
  · have hstart := (mem_of_mem_placed hmem).2 offset hoffset
    refine readStart_eq_some_iff.mpr ⟨hname, offset, hoffset, hstart ▸ hfits.2, ?_⟩
    rw [if_neg (Int.not_lt.mpr (hstart ▸ hfits.1)), hstart]

theorem size_le_four (entry : PayloadFieldEntry F) : (specOf entry).size ≤ 4 := by
  have hknown : ∀ entry ∈ FIELD_TYPES, entry.2.size ≤ 4 := by decide
  have hspec : fieldSpec entry.type = some (specOf entry) := (Option.some_get entry.type_known).symm
  obtain ⟨found, hfound, hsame⟩ := Option.map_eq_some_iff.mp hspec
  rw [← hsame]
  exact hknown found (List.mem_of_find?_eq_some hfound)

theorem natAbs_number_lt {spec : FieldSpec} (hsize : spec.size ≤ 4) {bytes : Bytes}
    (hlength : bytes.length ≤ spec.size) : (spec.number bytes).natAbs < 2 ^ 32 := by
  have hword : (2 : Nat) ^ (8 * spec.size) ≤ 2 ^ 32 := Nat.pow_le_pow_right (by decide) (by omega)
  have hvalue : leValue (if spec.bigEndian then bytes.reverse else bytes) < 2 ^ 32 := by
    refine (leValue_lt _).trans_le ?_
    have hsame : (if spec.bigEndian then bytes.reverse else bytes).length = bytes.length := by
      split
      · exact List.length_reverse
      · rfl
    rw [hsame]
    exact Nat.pow_le_pow_right (show 0 < 256 by decide) (hlength.trans hsize)
  have hpos : 0 < (2 : Nat) ^ (8 * spec.size - 1) := Nat.pow_pos (by decide)
  unfold FieldSpec.number
  generalize leValue (if spec.bigEndian then bytes.reverse else bytes) = n at hvalue ⊢
  simp only
  split
  · rename_i h
    have hcast : ((2 : Int) ^ (8 * spec.size)) = ((2 ^ (8 * spec.size) : Nat) : Int) :=
      (Int.natCast_pow 2 _).symm
    rw [hcast]
    generalize (2 : Nat) ^ (8 * spec.size) = word at hword ⊢
    omega
  · omega

theorem natAbs_numberAt_lt (payload : Bytes) (entry : PayloadFieldEntry F) (start : Nat) :
    (numberAt payload entry start).natAbs < 2 ^ 32 :=
  natAbs_number_lt (size_le_four entry) (List.length_take_le _ _)

/-! ### Merging -/

theorem get?_updateEntries_of_added {key : String} : ∀ added : Entries F, added.get? key ≠ none →
    ∀ es es', (updateEntries es added).get? key = (updateEntries es' added).get? key
  | .nil, h, _, _ => absurd rfl h
  | .cons k v rest, h, es, es' => by
    rw [updateEntries, updateEntries]
    by_cases hrest : rest.get? key = none
    · have hk : k = key := by
        by_contra hk
        exact h ((if_neg hk).trans hrest)
      subst hk
      rw [get?_updateEntries _ _ hrest, get?_updateEntries _ _ hrest, get?_set_self, get?_set_self]
    · exact get?_updateEntries_of_added rest hrest _ _

/-- A frame of zeros without a port, and one that differs from it in every key. -/
def zeroFrame : DataFrame := ⟨0, 0, false, false, [], none, [], []⟩

def oneFrame : DataFrame := ⟨1, 1, false, false, [], some 1, [], [1]⟩

theorem frameEntries_ne {key : String} (hkey : key ∈ FRAME_KEYS) :
    (frameEntries zeroFrame false : Entries F).get? key ≠
      (frameEntries oneFrame false : Entries F).get? key := by
  simp only [FRAME_KEYS, List.mem_cons, List.not_mem_nil, or_false] at hkey
  rcases hkey with rfl | rfl | rfl | rfl
  · intro h
    have hhex : hexDigits 8 0 = hexDigits 8 1 := by
      injection h with h
      injection h
    exact absurd hhex (by decide)
  · intro h
    injection h with h
    injection h with h
    cases h
  · intro h
    injection h with h
    cases h
  · intro h
    have hhex : hexUpper [] = hexUpper [1] := by
      injection h with h
      injection h
    exact absurd hhex (by decide)

/-- The frame keeps an entry, whatever it is, exactly when the fields have none of its key. -/
theorem keepsFrame_iff {fields : Entries F} {key : String} (hkey : key ∈ FRAME_KEYS)
    (plaintext : Bytes) :
    (∀ frame confirmed, (merged frame confirmed plaintext fields).get? key =
        (frameEntries frame confirmed : Entries F).get? key) ↔ fields.get? key = none := by
  have hadded : (Entries.cons "frm_payload_decrypted" (.str (hexUpper plaintext)) fields).get? key =
      fields.get? key := by
    refine if_neg ?_
    rintro rfl
    exact absurd hkey (by decide)
  constructor
  · intro hkept
    by_contra hset
    refine frameEntries_ne (F := F) hkey ?_
    rw [← hkept zeroFrame false, ← hkept oneFrame false]
    exact get?_updateEntries_of_added _ (hadded ▸ hset) _ _
  · intro hnone frame confirmed
    exact get?_updateEntries _ _ (hadded.trans hnone)

end

/-! ### The property -/

section

variable {F : Type} [BinaryFloat F]

/-- Every field is read in its place.  The named ones have an offset, those inside the payload
    have a name that the frame does not use, and the last field read under that name has the
    same product, which is a float of six decimals.  One that counts from the end has the name
    of a field inside. -/
structure WellPlaced (entries : List (PayloadFieldEntry F)) (payload : Bytes) : Prop where
  readable : ∀ entry ∈ entries, entry.ReadableIn payload.length
  inside : ∀ field ∈ placed entries 0, field.FitsIn payload.length →
    field.entry.name ≠ "" ∧ field.entry.name ∉ FRAME_KEYS ∧
      ∃ s ∈ BinaryFloat.toRat field.entry.scale, ∀ last start,
        lastRead payload.length field.entry.name entries = some (last, start) →
          rounded (numberAt payload last start) last.scale =
            some (numberAt payload field.entry field.start.toNat * s)
  negative : ∀ entry ∈ entries, entry.name ≠ "" → ∀ offset ∈ entry.offset, offset < 0 →
    offset + entry.size ≤ payload.length →
      ∃ field ∈ placed entries 0, field.FitsIn payload.length ∧ field.entry.name = entry.name

theorem get?_decodePayload {entries : List (PayloadFieldEntry F)} {payload : Bytes}
    {fields : Entries F}
    (h : decodePayload (entries.map PayloadFieldEntry.modelDump) payload = .ok fields)
    (name : String) :
    fields.get? name = (lastRead payload.length name entries).map (storedValue payload) := by
  rw [get?_decodeFields_dump name entries 0 .nil fields h]
  exact Option.or_none

theorem exists_placed_of_read {entries : List (PayloadFieldEntry F)} {payload : Bytes}
    (hplaced : WellPlaced entries payload) {entry : PayloadFieldEntry F} (hmem : entry ∈ entries)
    {start : Nat} (hread : readStart payload.length entry = some start) :
    ∃ field ∈ placed entries 0, field.FitsIn payload.length ∧ field.entry.name = entry.name := by
  obtain ⟨hname, offset, hoffset, hfits, -⟩ := readStart_eq_some_iff.mp hread
  by_cases hneg : offset < 0
  · exact hplaced.negative entry hmem hname offset hoffset hneg hfits
  · exact ⟨⟨entry, offset⟩, mem_placed hmem hoffset 0, ⟨Int.not_lt.mp hneg, hfits⟩, rfl⟩

theorem meets_of_wellPlaced {entries : List (PayloadFieldEntry F)} {payload : Bytes}
    (hplaced : WellPlaced entries payload) : Meets entries payload := by
  obtain ⟨fields, hfields⟩ := (decodePayload_returns_iff entries payload).mpr hplaced.readable
  have hnames : ∀ name, (∀ field ∈ placed entries 0, field.FitsIn payload.length →
      field.entry.name ≠ name) → fields.get? name = none := by
    intro name hnot
    rw [get?_decodePayload hfields name]
    cases hlast : lastRead payload.length name entries with
    | none => rfl
    | some read =>
      obtain ⟨hmem, hname, hread⟩ := lastRead_eq_some hlast
      obtain ⟨field, hfield, hfits, hsame⟩ := exists_placed_of_read hplaced hmem hread
      exact absurd (hsame.trans hname) (hnot field hfield hfits)
  refine ⟨fields, hfields, ?_, hnames, ?_⟩
  · intro field hfield hfits
    obtain ⟨hname, -, s, hs, hlast⟩ := hplaced.inside field hfield hfits
    have hmem := (mem_of_mem_placed hfield).1
    have hread := readStart_of_fits hfield hfits hname (hplaced.readable _ hmem)
    obtain ⟨⟨last, start⟩, hfound⟩ := Option.isSome_iff_exists.mp (lastRead_isSome hmem hread)
    refine ⟨storedValue payload (last, start), ?_, s, hs, ?_⟩
    · rw [get?_decodePayload hfields, hfound]
      rfl
    · rw [storedValue, valueNumber_scaledValue (natAbs_numberAt_lt payload last start)]
      exact hlast last start hfound
  · intro frame confirmed key hkey
    refine (keepsFrame_iff hkey payload).mpr (hnames key ?_) frame confirmed
    rintro field hfield hfits rfl
    exact (hplaced.inside field hfield hfits).2.1 hkey

theorem wellPlaced_of_meets {entries : List (PayloadFieldEntry F)} {payload : Bytes}
    (hmeets : Meets entries payload) : WellPlaced entries payload := by
  obtain ⟨fields, hfields, hinside, hnames, hframe⟩ := hmeets
  have hreadable := (decodePayload_returns_iff entries payload).mp ⟨fields, hfields⟩
  refine ⟨hreadable, ?_, ?_⟩
  · intro field hfield hfits
    obtain ⟨value, hvalue, s, hs, hnumber⟩ := hinside field hfield hfits
    have hget := get?_decodePayload hfields field.entry.name
    rw [hvalue] at hget
    obtain ⟨⟨last, start⟩, hlast, hscaled⟩ := Option.map_eq_some_iff.mp hget.symm
    refine ⟨?_, ?_, s, hs, ?_⟩
    · obtain ⟨-, hsame, hread⟩ := lastRead_eq_some hlast
      exact hsame ▸ (readStart_eq_some_iff.mp hread).1
    · intro hkey
      have hnone := (keepsFrame_iff hkey payload).mp fun frame confirmed =>
        hframe frame confirmed _ hkey
      rw [hvalue] at hnone
      cases hnone
    · intro last' start' hlast'
      cases hlast.symm.trans hlast'
      rw [← valueNumber_scaledValue (natAbs_numberAt_lt payload last start), ← hnumber, ← hscaled]
      rfl
  · intro entry hmem hname offset hoffset hneg hfits
    by_contra hnone
    have hread : readStart payload.length entry = some _ :=
      readStart_eq_some_iff.mpr ⟨hname, offset, hoffset, hfits, rfl⟩
    have hsome := lastRead_isSome hmem hread
    have habsent := hnames entry.name fun field hfield hfitsField hsame =>
      hnone ⟨field, hfield, hfitsField, hsame⟩
    rw [get?_decodePayload hfields, Option.map_eq_none_iff] at habsent
    rw [habsent] at hsome
    cases hsome

/-- **Sensor fields.**  Decoding returns each field inside the payload, and the frame keeps its
    entries, exactly when the fields are well placed. -/
theorem meets_iff (entries : List (PayloadFieldEntry F)) (payload : Bytes) :
    Meets entries payload ↔ WellPlaced entries payload :=
  ⟨wellPlaced_of_meets, meets_of_wellPlaced⟩

end

/-! ### Data frames -/

section

variable {F : Type} [StationFloat F] (prim : CryptoPrimitives)
variable {d : Decoder} {tables : FieldTables F}

theorem decodeDataUp_merged {raw : Bytes} {frame : DataFrame} (hframe : dataFrame raw = some frame)
    {store : Keystore} {key plaintext : Bytes} (hsession : sessionFor d frame = some (store, key))
    (hplain : decryptFrmPayload prim key frame.frmPayload frame.devAddr frame.fcnt true =
      .ok plaintext)
    {fields : Entries F}
    (hfields : decodePayload (((payloadFieldsForAddr store tables frame.devAddr).getD []).map
      PayloadFieldEntry.modelDump) plaintext = .ok fields)
    (confirmed : Bool) (signal : Option (SignalMetrics F)) (timestamp : Int) :
    ∃ packet, decodeDataUp prim d tables raw confirmed signal timestamp = .ok (some packet) ∧
      packet.decodedPayload = some (merged frame confirmed plaintext fields) := by
  have hadded : decryptedEntries prim d tables frame =
      .ok (some (.cons "frm_payload_decrypted" (.str (hexUpper plaintext)) fields)) := by
    unfold decryptedEntries
    rw [hsession]
    simp only [hplain]
    change (decodePayload _ _ >>= _) = _
    rw [hfields]
    rfl
  unfold decodeDataUp
  rw [hframe]
  simp only [hadded]
  exact ⟨_, rfl, rfl⟩

end

/-! ### A field without an offset -/

theorem roundHalfEven_intCast (n : Int) : roundHalfEven (n : ℚ) = n := by
  have hfloor : (n : ℚ).floor = n := Rat.floor_intCast n
  unfold roundHalfEven
  rw [hfloor, if_neg (by norm_num)]
  change ⌊(n : ℚ) + 1 / 2⌋ = n
  rw [Int.floor_eq_iff]
  constructor
  · linarith
  · linarith

theorem sixDecimals_intCast (n : Int) : sixDecimals (n : ℚ) = n := by
  have hround := roundHalfEven_intCast (n * 1000000)
  push_cast at hround
  unfold sixDecimals
  rw [hround]
  push_cast
  norm_num

/-- Whole numbers round down to themselves. -/
instance : BinaryFloat WholeFloat where
  toRat x := some x.value
  nearest p := some (p.floor : ℚ)
  nearest_nearest := by
    rintro p q h
    cases h
    rw [Rat.floor_intCast]
  isOne_iff x := by
    change decide (x.value = 1) = true ↔ some (x.value : ℚ) = some 1
    rw [decide_eq_true_iff, Option.some.injEq, Int.cast_eq_one]
  toRat_scaled n x _ := by
    change some ((n * x.value : Int) : ℚ) = some _
    rw [← Int.cast_mul, Rat.floor_intCast, sixDecimals_intCast, Rat.floor_intCast]

def temperature : PayloadFieldEntry WholeFloat :=
  ⟨"temperature_c", "int16_be", by decide, none, ⟨1⟩⟩

/-- Adding the size to the offset that is `None` raises. -/
theorem temperature_not_read : ¬ Meets [temperature] [0x00, 0x15] := by
  rintro ⟨fields, h, -⟩
  cases h

end Meshpoint.PayloadLayout
