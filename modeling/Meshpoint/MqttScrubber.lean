import Mathlib.Algebra.Order.Field.Rat
import Mathlib.Tactic.Linarith
import Meshpoint.MqttPrivacy

/-!
# What the MQTT filter keeps and removes

`prepare_packet` position by position: a path leads from the payload through
dictionary entries and list items, and `Scrubbed` compares what stands at the end
of a path before and after the filter.  Filtering twice is filtering once because
`round(x, 2)` of a float is the float closest to the closest hundredth, and that
float is its own rounding.
-/

namespace Meshpoint.MqttScrubber

open JsonText MqttPrivacy

variable {F : Type}

/-! ### Rounding to hundredths -/

section Closest

variable [PyFloat F]

/-- `x` is as close to `q` as any finite float. -/
def Closest (value : F → ℚ) (x : F) (q : ℚ) : Prop :=
  ∀ y, PyFloat.isFinite y = true → |value x - q| ≤ |value y - q|

/-- `k / 100` is as close to `q` as any hundredth. -/
def ClosestHundredth (k : ℤ) (q : ℚ) : Prop := ∀ j : ℤ, |q - k / 100| ≤ |q - j / 100|

end Closest

/-- Floats with their exact values, as `round` and the comparisons see them. -/
class ExactFloat (F : Type) extends PyFloat F where
  value : F → ℚ
  geInt_iff : ∀ x n, isFinite x = true → (geInt x n = true ↔ (n : ℚ) ≤ value x)
  leInt_iff : ∀ x n, isFinite x = true → (leInt x n = true ↔ value x ≤ (n : ℚ))
  /-- Whole numbers up to `2 ** 53` are floats. -/
  exists_whole : ∀ n : ℤ, n.natAbs ≤ 2 ^ 53 → ∃ x, isFinite x = true ∧ value x = n
  isFinite_round2 : ∀ x, isFinite x = true → isFinite (round2 x) = true
  /-- `round(x, 2)` is the float of the closest hundredth. -/
  round2_closest : ∀ x, isFinite x = true →
    ∃ k : ℤ, ClosestHundredth k (value x) ∧ Closest value (round2 x) (k / 100)
  /-- The float of a hundredth stays. -/
  round2_of_closest : ∀ x, isFinite x = true → (∃ k : ℤ, Closest value x (k / 100)) →
    round2 x = x

instance : ExactFloat WholeFloat where
  value x := x.value
  geInt_iff x n _ := by simp [PyFloat.geInt]
  leInt_iff x n _ := by simp [PyFloat.leInt]
  exists_whole n _ := ⟨⟨n⟩, rfl, rfl⟩
  isFinite_round2 _ _ := rfl
  round2_closest x _ := by
    have hzero : (x.value : ℚ) - ((100 * x.value : ℤ) : ℚ) / 100 = 0 := by
      push_cast
      linarith
    refine ⟨100 * x.value, fun j => ?_, fun y _ => ?_⟩
    · rw [hzero, abs_zero]
      exact abs_nonneg _
    · change |(x.value : ℚ) - _| ≤ _
      rw [hzero, abs_zero]
      exact abs_nonneg _
  round2_of_closest _ _ _ := rfl

section Rounding

variable [ExactFloat F]

open ExactFloat

theorem round2_round2 {x : F} (h : PyFloat.isFinite x = true) :
    PyFloat.round2 (PyFloat.round2 x) = PyFloat.round2 x := by
  obtain ⟨k, -, hclosest⟩ := round2_closest x h
  exact round2_of_closest _ (isFinite_round2 x h) ⟨k, hclosest⟩

theorem round2_le {x : F} (h : PyFloat.isFinite x = true) {n : ℤ} (hn : n.natAbs ≤ 2 ^ 53)
    (hle : value x ≤ n) : value (PyFloat.round2 x) ≤ n := by
  obtain ⟨k, hk, hclosest⟩ := round2_closest x h
  have hkn : (k : ℚ) / 100 ≤ n := by
    by_contra hlt
    have hj := hk (100 * n)
    push_cast at hj
    rw [mul_div_cancel_left₀ _ (by norm_num : (100 : ℚ) ≠ 0),
      abs_of_nonpos (by linarith), abs_of_nonpos (by linarith)] at hj
    linarith
  obtain ⟨y, hy, hvalue⟩ := exists_whole (F := F) n hn
  have hy := hclosest y hy
  rw [hvalue, abs_of_nonneg (by linarith : (0 : ℚ) ≤ n - k / 100)] at hy
  have := le_abs_self (value (PyFloat.round2 x) - (k : ℚ) / 100)
  linarith

theorem le_round2 {x : F} (h : PyFloat.isFinite x = true) {n : ℤ} (hn : n.natAbs ≤ 2 ^ 53)
    (hle : n ≤ value x) : n ≤ value (PyFloat.round2 x) := by
  obtain ⟨k, hk, hclosest⟩ := round2_closest x h
  have hkn : (n : ℚ) ≤ k / 100 := by
    by_contra hlt
    have hj := hk (100 * n)
    push_cast at hj
    rw [mul_div_cancel_left₀ _ (by norm_num : (100 : ℚ) ≠ 0),
      abs_of_nonneg (by linarith), abs_of_nonneg (by linarith)] at hj
    linarith
  obtain ⟨y, hy, hvalue⟩ := exists_whole (F := F) n hn
  have hy := hclosest y hy
  rw [hvalue, abs_of_nonpos (by linarith : (n : ℚ) - k / 100 ≤ 0)] at hy
  have := neg_abs_le (value (PyFloat.round2 x) - (k : ℚ) / 100)
  linarith

end Rounding

/-! ### Pairs of coordinates -/

section Pairs

variable [ExactFloat F]

/-- A number from `-bound` to `bound`. -/
def IsCoordinate (bound : ℤ) : Value F → Prop
  | .int n => -bound ≤ n ∧ n ≤ bound
  | .float x => PyFloat.isFinite x = true ∧
      -(bound : ℚ) ≤ ExactFloat.value x ∧ ExactFloat.value x ≤ bound
  | _ => False

/-- The dictionary has a latitude and a longitude in range. -/
structure ValidPair (es : Entries F) (lat lon : Value F) : Prop where
  latitude : es.get? "latitude" = some lat
  longitude : es.get? "longitude" = some lon
  latitude_range : IsCoordinate 90 lat
  longitude_range : IsCoordinate 180 lon

/-- A number that is neither an infinity nor a NaN. -/
def IsFinite : Value F → Prop
  | .int _ => True
  | .float x => PyFloat.isFinite x = true
  | _ => False

def TooLarge : Value F → Prop
  | .int n => FLOAT_OVERFLOW ≤ n.natAbs
  | _ => False

/-- The dictionary has two numbers for coordinates, the first of them that is not an
    infinity or a NaN beyond the range of floats. -/
def BeyondFloats (es : Entries F) : Prop :=
  ∃ lat lon, es.get? "latitude" = some lat ∧ es.get? "longitude" = some lon ∧
    isNumber lat = true ∧ isNumber lon = true ∧ (TooLarge lat ∨ IsFinite lat ∧ TooLarge lon)

theorem isfinite_int (n : ℤ) :
    isfinite (.int n : Value F) = if n.natAbs < FLOAT_OVERFLOW then some true else none := rfl

theorem isNumber_of_isCoordinate {bound : ℤ} {v : Value F} (h : IsCoordinate bound v) :
    isNumber v = true := by
  cases v with
  | int n => rfl
  | float x => rfl
  | _ => exact h.elim

theorem natAbs_le_of_between {bound n : ℤ} (hlow : -bound ≤ n) (hhigh : n ≤ bound) :
    n.natAbs ≤ bound.natAbs := by
  omega

theorem isfinite_of_isCoordinate {bound : ℤ} (hbound : bound.natAbs < FLOAT_OVERFLOW) {v : Value F}
    (h : IsCoordinate bound v) : isfinite v = some true := by
  cases v with
  | int n =>
    have hn : n.natAbs < FLOAT_OVERFLOW := lt_of_le_of_lt (natAbs_le_of_between h.1 h.2) hbound
    rw [isfinite_int, if_pos hn]
  | float x => exact congrArg some h.1
  | _ => exact h.elim

theorem withinBound_iff {bound : ℤ} {v : Value F} (h : isfinite v = some true) :
    withinBound bound v = true ↔ IsCoordinate bound v := by
  cases v with
  | int n => simp [withinBound, IsCoordinate]
  | float x =>
    have hx : PyFloat.isFinite x = true := Option.some.inj h
    have hlow := ExactFloat.geInt_iff x (-bound) hx
    push_cast at hlow
    unfold withinBound IsCoordinate
    rw [Bool.and_eq_true, hlow, ExactFloat.leInt_iff x bound hx]
    exact (and_iff_right hx).symm
  | _ => simp [isfinite] at h

theorem isfinite_eq_none_iff {v : Value F} : isfinite v = none ↔ TooLarge v := by
  cases v with
  | int n => simp [isfinite, TooLarge]
  | _ => simp [isfinite, TooLarge]

theorem isfinite_eq_true_or {v : Value F} (hnumber : isNumber v = true) :
    isfinite v = some true ∨ isfinite v = none ↔ IsFinite v := by
  cases v with
  | int n =>
    rw [isfinite_int]
    simp only [IsFinite, iff_true]
    split
    · exact Or.inl rfl
    · exact Or.inr rfl
  | float x => simp [isfinite, IsFinite]
  | _ => cases hnumber

theorem coordinates_of_numbers {es : Entries F} {lat lon : Value F}
    (hlat : es.get? "latitude" = some lat) (hlon : es.get? "longitude" = some lon)
    (hnumbers : (isNumber lat && isNumber lon) = true) : coordinates es = checkNumbers lat lon := by
  unfold coordinates
  rw [hlat, hlon]
  exact if_pos hnumbers

theorem coordinates_cases (es : Entries F) :
    (∃ lat lon, es.get? "latitude" = some lat ∧ es.get? "longitude" = some lon ∧
      (isNumber lat && isNumber lon) = true) ∨ coordinates es = .invalid := by
  unfold coordinates
  cases es.get? "latitude" with
  | none => exact Or.inr rfl
  | some lat =>
    cases es.get? "longitude" with
    | none => exact Or.inr rfl
    | some lon =>
      by_cases hnumbers : (isNumber lat && isNumber lon) = true
      · exact Or.inl ⟨lat, lon, rfl, rfl, hnumbers⟩
      · exact Or.inr (if_neg hnumbers)

theorem checkNumbers_eq_valid_iff {lat lon lat' lon' : Value F} :
    checkNumbers lat lon = .valid lat' lon' ↔
      (lat' = lat ∧ lon' = lon) ∧ IsCoordinate 90 lat ∧ IsCoordinate 180 lon := by
  constructor
  · intro h
    obtain ⟨hsame, hlat, hlon, hwithin⟩ := checkNumbers_valid h
    rw [Bool.and_eq_true, withinBound_iff hlat, withinBound_iff hlon] at hwithin
    exact ⟨hsame, hwithin⟩
  · rintro ⟨⟨rfl, rfl⟩, hlat, hlon⟩
    have hlat' := isfinite_of_isCoordinate (by decide +kernel) hlat
    have hlon' := isfinite_of_isCoordinate (by decide +kernel) hlon
    simp [checkNumbers, hlat', hlon', (withinBound_iff hlat').mpr hlat,
      (withinBound_iff hlon').mpr hlon]

theorem checkNumbers_eq_overflow_iff {lat lon : Value F} (hlat : isNumber lat = true) :
    checkNumbers lat lon = .overflow ↔ TooLarge lat ∨ IsFinite lat ∧ TooLarge lon := by
  rw [← isfinite_eq_true_or hlat, ← isfinite_eq_none_iff, ← isfinite_eq_none_iff]
  unfold checkNumbers
  cases isfinite lat with
  | none => simp
  | some finite =>
    cases finite with
    | false => simp
    | true =>
      cases isfinite lon with
      | none => simp
      | some finite =>
        cases finite with
        | false => simp
        | true =>
          simp only [reduceCtorEq]
          split <;> simp

theorem coordinates_eq_valid_iff {es : Entries F} {lat lon : Value F} :
    coordinates es = .valid lat lon ↔ ValidPair es lat lon := by
  constructor
  · intro h
    rcases coordinates_cases es with ⟨lat', lon', hlat, hlon, hnumbers⟩ | hinvalid
    · rw [coordinates_of_numbers hlat hlon hnumbers, checkNumbers_eq_valid_iff] at h
      obtain ⟨⟨rfl, rfl⟩, hlat', hlon'⟩ := h
      exact ⟨hlat, hlon, hlat', hlon'⟩
    · rw [hinvalid] at h
      cases h
  · rintro ⟨hlat, hlon, hlat', hlon'⟩
    have hnumbers : (isNumber lat && isNumber lon) = true := by
      rw [isNumber_of_isCoordinate hlat', isNumber_of_isCoordinate hlon']
      rfl
    rw [coordinates_of_numbers hlat hlon hnumbers, checkNumbers_eq_valid_iff]
    exact ⟨⟨rfl, rfl⟩, hlat', hlon'⟩

theorem coordinates_eq_overflow_iff {es : Entries F} :
    coordinates es = .overflow ↔ BeyondFloats es := by
  constructor
  · intro h
    rcases coordinates_cases es with ⟨lat, lon, hlat, hlon, hnumbers⟩ | hinvalid
    · have hnumber := Bool.and_eq_true_iff.mp hnumbers
      rw [coordinates_of_numbers hlat hlon hnumbers,
        checkNumbers_eq_overflow_iff hnumber.1] at h
      exact ⟨lat, lon, hlat, hlon, hnumber.1, hnumber.2, h⟩
    · rw [hinvalid] at h
      cases h
  · rintro ⟨lat, lon, hlat, hlon, hnumlat, hnumlon, hlarge⟩
    have hnumbers : (isNumber lat && isNumber lon) = true := by rw [hnumlat, hnumlon]; rfl
    rw [coordinates_of_numbers hlat hlon hnumbers, checkNumbers_eq_overflow_iff hnumlat]
    exact hlarge

end Pairs

/-! ### Positions in a payload -/

mutual

/-- Every dictionary, at any depth, meets `P`. -/
def AllDicts (P : Entries F → Prop) : Value F → Prop
  | .list items => AllDictsItems P items
  | .dict es => P es ∧ AllDictsEntries P es
  | _ => True

def AllDictsItems (P : Entries F → Prop) : Values F → Prop
  | .nil => True
  | .cons v vs => AllDicts P v ∧ AllDictsItems P vs

def AllDictsEntries (P : Entries F → Prop) : Entries F → Prop
  | .nil => True
  | .cons _ v es => AllDicts P v ∧ AllDictsEntries P es

end

/-- One step into a payload. -/
inductive Step where
  | key (name : String)
  | item (index : Nat)

def itemAt? : Values F → Nat → Option (Value F)
  | .nil, _ => none
  | .cons v _, 0 => some v
  | .cons _ vs, index + 1 => itemAt? vs index

def child : Value F → Step → Option (Value F)
  | .dict es, .key name => es.get? name
  | .list items, .item index => itemAt? items index
  | _, _ => none

def at? : List Step → Value F → Option (Value F)
  | [], v => some v
  | step :: path, v => (child v step).bind (at? path)

def Visible (path : List Step) : Prop := ∀ name, Step.key name ∈ path → isLocationField name = false

def visibleKeys : Entries F → List String
  | .nil => []
  | .cons k _ es => if isLocationField k then visibleKeys es else k :: visibleKeys es

def withoutLocation (es : Entries F) : Entries F := es.filterKeys fun key => !isLocationField key

def itemCount : Values F → Nat
  | .nil => 0
  | .cons _ vs => itemCount vs + 1

/-- What is at a position, its parts and location fields aside. -/
inductive Outline (F : Type) where
  | leaf (v : Value F)
  | list (length : Nat)
  | dict (keys : List String)

def outline : Value F → Outline F
  | .list items => .list (itemCount items)
  | .dict es => .dict (visibleKeys es)
  | v => .leaf v

section Scrubbed

variable [ExactFloat F]

/-- The location fields of `es` are the rounded pair of `ds`, if it has one. -/
structure RoundedPair (ds es : Entries F) : Prop where
  present : ∀ lat lon, ValidPair ds lat lon →
    es.get? "latitude" = some (roundTwo lat) ∧ es.get? "longitude" = some (roundTwo lon)
  only : ∀ key x, isLocationField key = true → es.get? key = some x → ∃ lat lon,
    ValidPair ds lat lon ∧
      (key = "latitude" ∧ x = roundTwo lat ∨ key = "longitude" ∧ x = roundTwo lon)

/-- The payload `w` is `v` with its locations reduced to a precision. -/
structure Scrubbed (precision : String) (v w : Value F) : Prop where
  kept : ∀ path, Visible path → (at? path w).map outline = (at? path v).map outline
  hidden : precision ≠ "exact" → precision ≠ "approximate" →
    AllDicts (fun es => es.AllKeys fun key => isLocationField key = false) w
  rounded : precision = "approximate" → ∀ path es, at? path w = some (.dict es) →
    ∃ ds, at? path v = some (.dict ds) ∧ RoundedPair ds es

end Scrubbed

/-! ### Visible positions -/

theorem visibleKeys_withoutLocation (es : Entries F) :
    visibleKeys (withoutLocation es) = visibleKeys es := by
  induction es using Entries.induction with
  | nil => rfl
  | cons k v es ih =>
    cases hk : isLocationField k with
    | true => simpa [withoutLocation, Entries.filterKeys, visibleKeys, hk] using ih
    | false => simpa [withoutLocation, Entries.filterKeys, visibleKeys, hk] using ih

theorem visibleKeys_set {key : String} (h : isLocationField key = true) (value : Value F)
    (es : Entries F) : visibleKeys (es.set key value) = visibleKeys es := by
  induction es using Entries.induction with
  | nil => simp [Entries.set, visibleKeys, h]
  | cons k v es ih =>
    by_cases hk : k = key
    · subst hk
      simp [Entries.set, visibleKeys]
    · simp [Entries.set, visibleKeys, hk, ih]

theorem withoutLocation_set {key : String} (h : isLocationField key = true) (value : Value F)
    (es : Entries F) : withoutLocation (es.set key value) = withoutLocation es :=
  filterKeys_set (by rw [h]; rfl) value es

section Kept

variable [PyFloat F] {policy : LocationPolicy}

theorem ne_of_isLocationField {key name : String} (hkey : isLocationField key = false)
    (hname : isLocationField name = true) : name ≠ key := by
  intro heq
  rw [heq, hkey] at hname
  cases hname

theorem filterDict_cases (policy : LocationPolicy) (es : Entries F) :
    ((policy = .none ∨ ∀ lat lon, coordinates es ≠ .valid lat lon) ∧
      filterDict policy es = withoutLocation es) ∨
    ∃ lat lon, coordinates es = .valid lat lon ∧
      (policy = .exact ∧ filterDict policy es = es ∨
        policy = .approximate ∧ filterDict policy es =
          ((withoutLocation es).set "latitude" (roundTwo lat)).set "longitude" (roundTwo lon)) := by
  unfold filterDict
  cases policy with
  | none => exact Or.inl ⟨Or.inl rfl, rfl⟩
  | exact =>
    cases coordinates es with
    | valid lat lon => exact Or.inr ⟨lat, lon, rfl, Or.inl ⟨rfl, rfl⟩⟩
    | _ => exact Or.inl ⟨Or.inr nofun, rfl⟩
  | approximate =>
    cases coordinates es with
    | valid lat lon => exact Or.inr ⟨lat, lon, rfl, Or.inr ⟨rfl, rfl⟩⟩
    | _ => exact Or.inl ⟨Or.inr nofun, rfl⟩

theorem get?_filterDict {key : String} (h : isLocationField key = false) (es : Entries F) :
    (filterDict policy es).get? key = es.get? key := by
  have hkept : (withoutLocation es).get? key = es.get? key :=
    get?_filterKeys (by rw [h]; rfl) es
  have hlat : "latitude" ≠ key := ne_of_isLocationField h (by decide)
  have hlon : "longitude" ≠ key := ne_of_isLocationField h (by decide)
  rcases filterDict_cases policy es with ⟨-, hdict⟩ | ⟨lat, lon, -, ⟨-, hdict⟩ | ⟨-, hdict⟩⟩
  · rw [hdict, hkept]
  · rw [hdict]
  · rw [hdict, get?_set_ne hlon, get?_set_ne hlat, hkept]

theorem itemAt?_filteredItems (policy : LocationPolicy) : ∀ (items : Values F) (index : Nat),
    itemAt? (filteredItems policy items) index = (itemAt? items index).map (filtered policy)
  | .nil, _ => rfl
  | .cons _ _, 0 => rfl
  | .cons _ vs, index + 1 => itemAt?_filteredItems policy vs index

theorem child_filtered {step : Step} (h : Visible [step]) (v : Value F) :
    child (filtered policy v) step = (child v step).map (filtered policy) := by
  cases v with
  | dict es =>
    cases step with
    | key name =>
      have hname := h name (List.mem_singleton.mpr rfl)
      exact (get?_filterDict hname _).trans (get?_filteredEntries policy name es)
    | item index => rfl
  | list items =>
    cases step with
    | key name => rfl
    | item index => exact itemAt?_filteredItems policy items index
  | _ => rfl

theorem at?_filtered {path : List Step} (h : Visible path) (v : Value F) :
    at? path (filtered policy v) = (at? path v).map (filtered policy) := by
  induction path generalizing v with
  | nil => rfl
  | cons step path ih =>
    have hstep : Visible [step] := fun name hname =>
      h name (List.mem_cons.mpr (Or.inl (List.mem_singleton.mp hname)))
    have ih := ih fun name hname => h name (List.mem_cons_of_mem step hname)
    simp only [at?, child_filtered hstep]
    cases child v step with
    | none => rfl
    | some w => exact ih w

theorem visibleKeys_filterDict (policy : LocationPolicy) (es : Entries F) :
    visibleKeys (filterDict policy es) = visibleKeys es := by
  rcases filterDict_cases policy es with ⟨-, hdict⟩ | ⟨lat, lon, -, ⟨-, hdict⟩ | ⟨-, hdict⟩⟩
  · rw [hdict, visibleKeys_withoutLocation]
  · rw [hdict]
  · rw [hdict, visibleKeys_set (by decide), visibleKeys_set (by decide),
      visibleKeys_withoutLocation]

theorem visibleKeys_filteredEntries (policy : LocationPolicy) (es : Entries F) :
    visibleKeys (filteredEntries policy es) = visibleKeys es := by
  induction es using Entries.induction with
  | nil => rfl
  | cons k v es ih => simp only [filteredEntries, visibleKeys, ih]

theorem itemCount_filteredItems (policy : LocationPolicy) (items : Values F) :
    itemCount (filteredItems policy items) = itemCount items := by
  induction items using Values.induction with
  | nil => rfl
  | cons v vs ih => simp only [filteredItems, itemCount, ih]

theorem outline_filtered (policy : LocationPolicy) (v : Value F) :
    outline (filtered policy v) = outline v := by
  cases v with
  | list items => exact congrArg Outline.list (itemCount_filteredItems policy items)
  | dict es =>
    exact congrArg Outline.dict
      ((visibleKeys_filterDict policy _).trans (visibleKeys_filteredEntries policy es))
  | _ => rfl

end Kept

/-! ### Dictionaries at every depth -/

theorem AllDictsEntries.filterKeys {P : Entries F → Prop} (p : String → Bool) :
    ∀ {es : Entries F}, AllDictsEntries P es → AllDictsEntries P (es.filterKeys p)
  | .nil, h => h
  | .cons k v es, h => by
    by_cases hk : p k = true
    · simp only [Entries.filterKeys, if_pos hk]
      exact ⟨h.1, AllDictsEntries.filterKeys p h.2⟩
    · simp only [Entries.filterKeys, if_neg hk]
      exact AllDictsEntries.filterKeys p h.2

theorem AllDictsEntries.set {P : Entries F → Prop} {key : String} {value : Value F}
    (hvalue : AllDicts P value) : ∀ {es : Entries F}, AllDictsEntries P es →
      AllDictsEntries P (es.set key value)
  | .nil, _ => ⟨hvalue, trivial⟩
  | .cons k v es, h => by
    by_cases hk : k = key
    · simp only [Entries.set, if_pos hk]
      exact ⟨hvalue, h.2⟩
    · simp only [Entries.set, if_neg hk]
      exact ⟨h.1, AllDictsEntries.set hvalue h.2⟩

mutual

theorem allDicts_of_forall {P : Entries F → Prop} (hP : ∀ es, P es) : ∀ v : Value F, AllDicts P v
  | .null | .bool _ | .int _ | .float _ | .str _ => trivial
  | .list vs => allDictsItems_of_forall hP vs
  | .dict es => ⟨hP es, allDictsEntries_of_forall hP es⟩

theorem allDictsItems_of_forall {P : Entries F → Prop} (hP : ∀ es, P es) :
    ∀ vs : Values F, AllDictsItems P vs
  | .nil => trivial
  | .cons v vs => ⟨allDicts_of_forall hP v, allDictsItems_of_forall hP vs⟩

theorem allDictsEntries_of_forall {P : Entries F → Prop} (hP : ∀ es, P es) :
    ∀ es : Entries F, AllDictsEntries P es
  | .nil => trivial
  | .cons _ v es => ⟨allDicts_of_forall hP v, allDictsEntries_of_forall hP es⟩

end

section Numbers

variable [PyFloat F] {policy : LocationPolicy}

theorem allDicts_roundTwo {P : Entries F → Prop} {v : Value F} (h : isNumber v = true) :
    AllDicts P (roundTwo v) := by
  cases v with
  | int n => trivial
  | float x => trivial
  | _ => cases h

theorem filtered_roundTwo {v : Value F} (h : isNumber v = true) :
    filtered policy (roundTwo v) = roundTwo v := by
  cases v with
  | int n => rfl
  | float x => rfl
  | _ => cases h

theorem filteredEntries_filterKeys (p : String → Bool) (es : Entries F) :
    filteredEntries policy (es.filterKeys p) = (filteredEntries policy es).filterKeys p := by
  match es with
  | .nil => rfl
  | .cons k v es =>
    have ih := filteredEntries_filterKeys p es
    by_cases hk : p k = true
    · simp only [Entries.filterKeys, filteredEntries, if_pos hk, ih]
    · simp only [Entries.filterKeys, filteredEntries, if_neg hk, ih]

theorem filteredEntries_set (key : String) (value : Value F) (es : Entries F) :
    filteredEntries policy (es.set key value) =
      (filteredEntries policy es).set key (filtered policy value) := by
  match es with
  | .nil => rfl
  | .cons k v es =>
    have ih := filteredEntries_set key value es
    by_cases hk : k = key
    · simp only [Entries.set, filteredEntries, if_pos hk]
    · simp only [Entries.set, filteredEntries, if_neg hk, ih]

end Numbers

section Filtered

variable [ExactFloat F] {policy : LocationPolicy}

theorem ValidPair.numbers {es : Entries F} {lat lon : Value F} (h : ValidPair es lat lon) :
    isNumber lat = true ∧ isNumber lon = true :=
  ⟨isNumber_of_isCoordinate h.latitude_range, isNumber_of_isCoordinate h.longitude_range⟩

theorem AllDictsEntries.filterDict {P : Entries F → Prop} {es : Entries F}
    (h : AllDictsEntries P es) : AllDictsEntries P (filterDict policy es) := by
  have hkept : AllDictsEntries P (withoutLocation es) := h.filterKeys _
  rcases filterDict_cases policy es with ⟨-, hdict⟩ | ⟨lat, lon, hvalid, ⟨-, hdict⟩ | ⟨-, hdict⟩⟩
  · rw [hdict]
    exact hkept
  · rw [hdict]
    exact h
  · obtain ⟨hlat, hlon⟩ := (coordinates_eq_valid_iff.mp hvalid).numbers
    rw [hdict]
    exact (hkept.set (allDicts_roundTwo hlat)).set (allDicts_roundTwo hlon)

mutual

theorem allDicts_filtered {P Q : Entries F → Prop}
    (hdict : ∀ es, Q es → P (filterDict policy (filteredEntries policy es))) :
    ∀ {v : Value F}, AllDicts Q v → AllDicts P (filtered policy v)
  | .null, _ | .bool _, _ | .int _, _ | .float _, _ | .str _, _ => trivial
  | .list _, h => allDictsItems_filtered hdict h
  | .dict es, h => ⟨hdict es h.1, (allDictsEntries_filtered hdict h.2).filterDict⟩

theorem allDictsItems_filtered {P Q : Entries F → Prop}
    (hdict : ∀ es, Q es → P (filterDict policy (filteredEntries policy es))) :
    ∀ {vs : Values F}, AllDictsItems Q vs → AllDictsItems P (filteredItems policy vs)
  | .nil, _ => trivial
  | .cons _ _, h => ⟨allDicts_filtered hdict h.1, allDictsItems_filtered hdict h.2⟩

theorem allDictsEntries_filtered {P Q : Entries F → Prop}
    (hdict : ∀ es, Q es → P (filterDict policy (filteredEntries policy es))) :
    ∀ {es : Entries F}, AllDictsEntries Q es → AllDictsEntries P (filteredEntries policy es)
  | .nil, _ => trivial
  | .cons _ _ _, h => ⟨allDicts_filtered hdict h.1, allDictsEntries_filtered hdict h.2⟩

end

/-! ### Filtering twice -/

theorem isCoordinate_roundTwo {bound : ℤ} (hbound : bound.natAbs ≤ 2 ^ 53) {v : Value F}
    (h : IsCoordinate bound v) : IsCoordinate bound (roundTwo v) := by
  cases v with
  | int n => exact h
  | float x =>
    obtain ⟨hfinite, hlow, hhigh⟩ := h
    have hlow' := le_round2 hfinite (n := -bound) (by rwa [Int.natAbs_neg])
      (by push_cast; exact hlow)
    push_cast at hlow'
    exact ⟨ExactFloat.isFinite_round2 x hfinite, hlow', round2_le hfinite hbound hhigh⟩
  | _ => exact h.elim

theorem roundTwo_roundTwo {bound : ℤ} {v : Value F} (h : IsCoordinate bound v) :
    roundTwo (roundTwo v) = roundTwo v := by
  cases v with
  | int n => rfl
  | float x => exact congrArg Value.float (round2_round2 h.1)
  | _ => rfl

theorem ValidPair.rounded {es : Entries F} {lat lon : Value F} (h : ValidPair es lat lon) :
    ValidPair (((withoutLocation es).set "latitude" (roundTwo lat)).set "longitude" (roundTwo lon))
      (roundTwo lat) (roundTwo lon) where
  latitude := by rw [get?_set_ne (by decide), get?_set_self]
  longitude := get?_set_self _ _ _
  latitude_range := isCoordinate_roundTwo (by decide) h.latitude_range
  longitude_range := isCoordinate_roundTwo (by decide) h.longitude_range

theorem coordinates_withoutLocation (es : Entries F) :
    coordinates (withoutLocation es) = .invalid := by
  have hlat : (withoutLocation es).get? "latitude" = none := get?_filterKeys_of_not (by decide) es
  unfold coordinates
  rw [hlat]

theorem filterDict_withoutLocation (es : Entries F) :
    filterDict policy (withoutLocation es) = withoutLocation es := by
  have htwice : withoutLocation (withoutLocation es) = withoutLocation es :=
    filterKeys_filterKeys _ es
  rcases filterDict_cases policy (withoutLocation es) with ⟨-, hdict⟩ | ⟨lat, lon, hvalid, -⟩
  · rw [hdict, htwice]
  · rw [coordinates_withoutLocation] at hvalid
    cases hvalid

theorem filterDict_filterDict (es : Entries F) :
    filterDict policy (filterDict policy es) = filterDict policy es := by
  rcases filterDict_cases policy es with ⟨-, hdict⟩ | ⟨lat, lon, hvalid, ⟨hp, hdict⟩ | ⟨hp, hdict⟩⟩
  · rw [hdict, filterDict_withoutLocation]
  · rw [hdict, hdict]
  · subst hp
    have hpair := coordinates_eq_valid_iff.mp hvalid
    have hround := coordinates_eq_valid_iff.mpr hpair.rounded
    rw [hdict]
    unfold filterDict
    simp only [hround]
    rw [roundTwo_roundTwo hpair.latitude_range, roundTwo_roundTwo hpair.longitude_range]
    change ((withoutLocation (((withoutLocation es).set _ _).set _ _)).set _ _).set _ _ = _
    rw [withoutLocation_set (by decide), withoutLocation_set (by decide)]
    unfold withoutLocation
    rw [filterKeys_filterKeys]

theorem filteredEntries_filterDict {es : Entries F} (h : filteredEntries policy es = es) :
    filteredEntries policy (filterDict policy es) = filterDict policy es := by
  have hkept : filteredEntries policy (withoutLocation es) = withoutLocation es := by
    unfold withoutLocation
    rw [filteredEntries_filterKeys, h]
  rcases filterDict_cases policy es with ⟨-, hdict⟩ | ⟨lat, lon, hvalid, ⟨-, hdict⟩ | ⟨-, hdict⟩⟩
  · rw [hdict, hkept]
  · rw [hdict, h]
  · obtain ⟨hlat, hlon⟩ := (coordinates_eq_valid_iff.mp hvalid).numbers
    rw [hdict, filteredEntries_set, filteredEntries_set, hkept, filtered_roundTwo hlat,
      filtered_roundTwo hlon]

mutual

/-- **Filtering twice is filtering once.** -/
theorem filtered_filtered : ∀ v : Value F, filtered policy (filtered policy v) = filtered policy v
  | .null | .bool _ | .int _ | .float _ | .str _ => rfl
  | .list vs => by
    simp only [filtered]
    rw [filteredItems_filteredItems vs]
  | .dict es => by
    simp only [filtered]
    rw [filteredEntries_filterDict (filteredEntries_filteredEntries es), filterDict_filterDict]

theorem filteredItems_filteredItems : ∀ vs : Values F,
    filteredItems policy (filteredItems policy vs) = filteredItems policy vs
  | .nil => rfl
  | .cons v vs => by
    simp only [filteredItems]
    rw [filtered_filtered v, filteredItems_filteredItems vs]

theorem filteredEntries_filteredEntries : ∀ es : Entries F,
    filteredEntries policy (filteredEntries policy es) = filteredEntries policy es
  | .nil => rfl
  | .cons k v es => by
    simp only [filteredEntries]
    rw [filtered_filtered v, filteredEntries_filteredEntries es]

end

/-! ### When the filter raises -/

theorem overflowsHere_eq_false_iff {es : Entries F} :
    overflowsHere policy es = false ↔ policy = .none ∨ ¬ BeyondFloats es := by
  rw [← coordinates_eq_overflow_iff]
  unfold overflowsHere
  cases policy with
  | none => simp
  | _ => cases coordinates es <;> simp

mutual

theorem overflows_eq_false_iff : ∀ v : Value F, overflows policy v = false ↔
    AllDicts (fun es => policy = .none ∨ ¬ BeyondFloats es) v
  | .null | .bool _ | .int _ | .float _ | .str _ => iff_of_true rfl trivial
  | .list vs => overflowsItems_eq_false_iff vs
  | .dict es => by
    unfold overflows AllDicts
    rw [Bool.or_eq_false_iff, overflowsEntries_eq_false_iff es, overflowsHere_eq_false_iff,
      and_comm]

theorem overflowsItems_eq_false_iff : ∀ vs : Values F, overflowsItems policy vs = false ↔
    AllDictsItems (fun es => policy = .none ∨ ¬ BeyondFloats es) vs
  | .nil => iff_of_true rfl trivial
  | .cons v vs => by
    unfold overflowsItems AllDictsItems
    rw [Bool.or_eq_false_iff, overflows_eq_false_iff v, overflowsItems_eq_false_iff vs]

theorem overflowsEntries_eq_false_iff : ∀ es : Entries F, overflowsEntries policy es = false ↔
    AllDictsEntries (fun es => policy = .none ∨ ¬ BeyondFloats es) es
  | .nil => iff_of_true rfl trivial
  | .cons _ v es => by
    unfold overflowsEntries AllDictsEntries
    rw [Bool.or_eq_false_iff, overflows_eq_false_iff v, overflowsEntries_eq_false_iff es]

end

theorem not_beyondFloats_filterDict {es : Entries F} (h : ¬ BeyondFloats es) :
    ¬ BeyondFloats (filterDict policy es) := by
  rw [← coordinates_eq_overflow_iff] at h ⊢
  rcases filterDict_cases policy es with ⟨-, hdict⟩ | ⟨lat, lon, hvalid, ⟨-, hdict⟩ | ⟨-, hdict⟩⟩
  · rw [hdict, coordinates_withoutLocation]
    nofun
  · rwa [hdict]
  · have hround := coordinates_eq_valid_iff.mpr (coordinates_eq_valid_iff.mp hvalid).rounded
    rw [hdict, hround]
    nofun

theorem overflows_filtered {v : Value F} (h : overflows policy v = false) :
    overflows policy (filtered policy v) = false := by
  rw [overflows_eq_false_iff] at h ⊢
  refine allDicts_filtered (fun es hes => ?_) h
  refine hes.imp id fun hes => not_beyondFloats_filterDict ?_
  rwa [← coordinates_eq_overflow_iff, coordinates_filteredEntries, coordinates_eq_overflow_iff]

/-! ### The filtered payload -/

theorem locationPolicy_eq_none_iff {precision : String} :
    locationPolicy precision = .none ↔ precision ≠ "exact" ∧ precision ≠ "approximate" := by
  unfold locationPolicy
  split
  · simp_all
  · split
    · simp_all
    · simp_all

theorem location_of_filterDict (hp : policy ≠ .exact) {es : Entries F} {key : String}
    {x : Value F} (hkey : isLocationField key = true)
    (h : (filterDict policy es).get? key = some x) : ∃ lat lon, ValidPair es lat lon ∧
      (key = "latitude" ∧ x = roundTwo lat ∨ key = "longitude" ∧ x = roundTwo lon) := by
  have hnone : (withoutLocation es).get? key = none :=
    get?_filterKeys_of_not (by rw [hkey]; rfl) es
  rcases filterDict_cases policy es with ⟨-, hdict⟩ | ⟨lat, lon, hvalid, ⟨hexact, -⟩ | ⟨-, hdict⟩⟩
  · rw [hdict, hnone] at h
    cases h
  · exact absurd hexact hp
  · refine ⟨lat, lon, coordinates_eq_valid_iff.mp hvalid, ?_⟩
    rw [hdict] at h
    by_cases hlon : "longitude" = key
    · subst hlon
      rw [get?_set_self] at h
      exact Or.inr ⟨rfl, (Option.some.inj h).symm⟩
    · rw [get?_set_ne hlon] at h
      by_cases hlat : "latitude" = key
      · subst hlat
        rw [get?_set_self] at h
        exact Or.inl ⟨rfl, (Option.some.inj h).symm⟩
      · rw [get?_set_ne hlat, hnone] at h
        cases h

theorem isNumber_of_location (hp : policy ≠ .exact) {es : Entries F} {key : String} {x : Value F}
    (hkey : isLocationField key = true) (h : (filterDict policy es).get? key = some x) :
    ∃ v, isNumber v = true ∧ x = roundTwo v := by
  obtain ⟨lat, lon, hpair, ⟨-, hx⟩ | ⟨-, hx⟩⟩ := location_of_filterDict hp hkey h
  · exact ⟨lat, hpair.numbers.1, hx⟩
  · exact ⟨lon, hpair.numbers.2, hx⟩

theorem at?_roundTwo_ne_dict {v : Value F} (h : isNumber v = true) (path : List Step)
    (es : Entries F) : at? path (roundTwo v) ≠ some (.dict es) := by
  cases v with
  | int n => cases path <;> nofun
  | float x => cases path <;> nofun
  | _ => cases h

theorem visible_of_at?_dict (hp : policy ≠ .exact) {path : List Step} {v : Value F}
    {es : Entries F} (h : at? path (filtered policy v) = some (.dict es)) : Visible path := by
  induction path generalizing v with
  | nil => nofun
  | cons step path ih =>
    obtain ⟨w, hw, hrest⟩ := Option.bind_eq_some_iff.mp h
    by_cases hstep : Visible [step]
    · rw [child_filtered hstep] at hw
      obtain ⟨u, -, rfl⟩ := Option.map_eq_some_iff.mp hw
      intro name hname
      rcases List.mem_cons.mp hname with hname | hname
      · exact hstep name (List.mem_singleton.mpr hname)
      · exact ih hrest name hname
    · -- what stands in a location field is a number
      unfold Visible at hstep
      push Not at hstep
      obtain ⟨name, hname, hlocation⟩ := hstep
      obtain rfl := List.mem_singleton.mp hname
      cases v with
      | dict ds =>
        obtain ⟨n, hn, rfl⟩ := isNumber_of_location hp (by simpa using hlocation) hw
        exact absurd hrest (at?_roundTwo_ne_dict hn path es)
      | _ => cases hw

theorem roundedPair_filterDict (es : Entries F) :
    RoundedPair es (filterDict .approximate (filteredEntries .approximate es)) where
  present lat lon hpair := by
    have hvalid := coordinates_eq_valid_iff.mpr hpair
    rw [← coordinates_filteredEntries .approximate] at hvalid
    unfold filterDict
    simp only [hvalid]
    exact ⟨by rw [get?_set_ne (by decide), get?_set_self], get?_set_self _ _ _⟩
  only key x hkey hx := by
    obtain ⟨lat, lon, hpair, hround⟩ := location_of_filterDict (by decide) hkey hx
    refine ⟨lat, lon, coordinates_eq_valid_iff.mp ?_, hround⟩
    rw [← coordinates_filteredEntries .approximate]
    exact coordinates_eq_valid_iff.mpr hpair

theorem scrubbed_filtered (precision : String) (v : Value F) :
    Scrubbed precision v (filtered (locationPolicy precision) v) where
  kept path hpath := by
    rw [at?_filtered hpath, Option.map_map]
    exact congrFun (congrArg Option.map (funext fun w => outline_filtered _ w)) _
  hidden hexact happroximate := by
    rw [locationPolicy_eq_none_iff.mpr ⟨hexact, happroximate⟩]
    refine allDicts_filtered (fun es _ => ?_)
      (allDicts_of_forall (fun _ => trivial) v : AllDicts (fun _ => True) v)
    refine allKeys_mono (fun key hkey => ?_) (allKeys_filterKeys _ (filteredEntries .none es))
    simpa using hkey
  rounded happroximate path es hes := by
    subst happroximate
    have hpath := visible_of_at?_dict (by decide) hes
    rw [at?_filtered hpath] at hes
    obtain ⟨w, hw, hdict⟩ := Option.map_eq_some_iff.mp hes
    cases w with
    | dict ds =>
      cases hdict
      exact ⟨ds, hw, roundedPair_filterDict ds⟩
    | _ => cases hdict

end Filtered

end Meshpoint.MqttScrubber
