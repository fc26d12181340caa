import Mathlib.Data.List.TakeWhile
import Mathlib.Data.Rat.Floor
import Meshpoint.GpsdSource

/-!
# The UART location source

`src/hal/location/uart_source.py`: one line of NMEA text at a time, into the latest fix, the
cached mode and dilutions of precision and what is known without a fix. Handling a line is a
session, since an exception leaves what was stored before it.

`positionOf` is the position that a line carries. The coordinates held after any run are those of
the last line that carries some (`coordinates_receive`), and a well-formed GGA sentence carries
those it encodes (`positionOf_sentence`).
-/

namespace Meshpoint.UartSource

open GpsdSource HostSession Raising

/-! ### Floats -/

/-- The value of decimal digits with a point after the first part of them. -/
def decimalValue (whole fraction : List Char) : ℚ :=
  Nat.ofDigitChars 10 (whole ++ fraction) 0 / 10 ^ fraction.length

/-- The operations of the source on Python floats. `val` is the value of a finite float and
    `nearest` the float nearest to a number, here for numbers of the size of an angle. -/
class NmeaFloat (F : Type) where
  /-- `float(text)`; `none` when it raises. -/
  ofText : List Char → Option F
  /-- The float that an integer becomes beside one; `none` when it raises. -/
  ofInt : Int → Option F
  add : F → F → F
  /-- `x / 60.0`. -/
  div60 : F → F
  neg : F → F
  /-- `round(x, 7)`. -/
  round7 : F → F
  val : F → Option ℚ
  nearest : ℚ → ℚ
  nearest_mono : ∀ p q, p ≤ q → nearest p ≤ nearest q
  nearest_int : ∀ n : Int, |n| ≤ 2 ^ 53 → nearest n = n
  nearest_near : ∀ q, |q| ≤ 256 → |nearest q - q| ≤ 1 / 2 ^ 45
  ofText_decimal : ∀ whole fraction : List Char, (∀ c ∈ whole, c.isDigit = true) →
    (∀ c ∈ fraction, c.isDigit = true) → whole ≠ [] → whole.length ≤ 2 →
      ∃ x, ofText (whole ++ '.' :: fraction) = some x ∧
        val x = some (nearest (decimalValue whole fraction))
  ofText_star : ∀ text, '*' ∈ text → ofText text = none
  ofInt_small : ∀ n : Int, |n| ≤ 2 ^ 53 → ∃ x, ofInt n = some x ∧ val x = some (n : ℚ)
  val_add : ∀ x y p q, val x = some p → val y = some q → |p + q| ≤ 256 →
    val (add x y) = some (nearest (p + q))
  val_div60 : ∀ x q, val x = some q → |q| ≤ 256 → val (div60 x) = some (nearest (q / 60))
  val_neg : ∀ x q, val x = some q → val (neg x) = some (-q)
  val_round7 : ∀ x q, val x = some q → |q| ≤ 256 →
    ∃ n : Int, |q * 10 ^ 7 - n| ≤ 1 / 2 ∧ val (round7 x) = some (nearest (n / 10 ^ 7))

/-! ### Fields -/

/-- `int(text)`; `none` when it raises. -/
def intField (text : List Char) : Option Int :=
  if 4300 < digitCount (String.ofList text) then none
  else PyText.intOfText 10 (String.ofList text)

/-- Where a slice bound falls in a sequence of `n` items. -/
def sliceBound (n : Nat) (i : Int) : Nat := if i < 0 then (n + i).toNat else min i.toNat n

/-- `text[:i]`. -/
def sliceTo (text : List Char) (i : Int) : List Char := text.take (sliceBound text.length i)

/-- `text[i:]`. -/
def sliceFrom (text : List Char) (i : Int) : List Char := text.drop (sliceBound text.length i)

/-- `text.split("*")[0]`. -/
def beforeStar (text : List Char) : List Char := text.takeWhile (· ≠ '*')

/-- `parts[i]`, where the number of parts has been checked. -/
def field (parts : List (List Char)) (i : Nat) : List Char := parts.getD i []

section

variable {F : Type} [NmeaFloat F]

/-- `_nmea_to_decimal`. -/
def nmeaToDecimal (coord direction : List Char) : Except PyException (Option F) :=
  if coord = [] ∨ direction = [] then .ok none
  else
    match coord.idxOf? '.' with
    | none => .ok none
    | some dot =>
      match intField (sliceTo coord (dot - 2)),
        (NmeaFloat.ofText (sliceFrom coord (dot - 2)) : Option F) with
      | some degrees, some minutes =>
        match NmeaFloat.ofInt degrees with
        | none => .error .overflowError
        | some degrees =>
          let decimal := NmeaFloat.add degrees (NmeaFloat.div60 minutes)
          let decimal := if direction = ['S'] ∨ direction = ['W'] then NmeaFloat.neg decimal
            else decimal
          .ok (some (NmeaFloat.round7 decimal))
      | _, _ => .ok none

/-- A field that `float` reads, or nothing. -/
def floatField (text : List Char) : Option F :=
  if text = [] then none else NmeaFloat.ofText text

/-! ### Sentences -/

/-- What the source keeps of the sentences. -/
structure UartState (F D : Type) where
  latestFix : Option (LocationFix F D) := none
  lastUpdate : Option D := none
  mode : Int := 1
  dop : Dop F := Dop.empty
  satsUsed : Option Int := none
  lastTxt : Option String := none

variable {D : Type}

def fixQuality (parts : List (List Char)) : Int :=
  if field parts 6 = [] then 0 else (intField (field parts 6)).getD 0

/-- The state with what a GGA sentence tells without a fix. -/
def UartState.noticed (s : UartState F D) (now : D) (parts : List (List Char)) : UartState F D :=
  { s with
    satsUsed :=
      if field parts 7 = [] then some 0
      else match intField (field parts 7) with
        | some n => some n
        | none => s.satsUsed
    lastUpdate := some now }

def UartState.fixAt (s : UartState F D) (lat lon : F) (altitude : Option F) : LocationFix F D :=
  { mode := if s.mode ≥ 2 then s.mode else 2
    latitude := some lat
    longitude := some lon
    altitudeM := altitude
    hdop := s.dop .hdop
    pdop := s.dop .pdop
    vdop := s.dop .vdop }

/-- `_handle_gga`. -/
def handleGga (now : D) (parts : List (List Char)) : Session (UartState F D) Unit := fun s =>
  if parts.length < 10 then (some (), s)
  else
    let s := s.noticed now parts
    if fixQuality parts = 0 then (some (), s)
    else
      match nmeaToDecimal (field parts 2) (field parts 3) with
      | .error _ => (none, s)
      | .ok lat =>
        match nmeaToDecimal (field parts 4) (field parts 5) with
        | .error _ => (none, s)
        | .ok lon =>
          match lat, lon with
          | some lat, some lon =>
            (some (), { s with latestFix := some (s.fixAt lat lon (floatField (field parts 9))) })
          | _, _ => (some (), s)

/-- `dop[key] = value` where the value is there. -/
def withDop (dop : Dop F) (key : DopKey) (value : Option F) : Dop F :=
  match value with
  | none => dop
  | some x => Function.update dop key (some x)

/-- `_handle_gsa`. -/
def handleGsa (parts : List (List Char)) : Session (UartState F D) Unit := fun s =>
  if parts.length < 18 then (some (), s)
  else
    let mode :=
      if field parts 2 = [] then s.mode else (intField (field parts 2)).getD s.mode
    let dopField := fun index => floatField (F := F) (beforeStar (field parts index))
    let dop := withDop (withDop (withDop s.dop .pdop (dopField 15)) .hdop (dopField 16)) .vdop
      (dopField 17)
    let merged := s.latestFix.map fun fix : LocationFix F D =>
      { mode := mode
        latitude := fix.latitude
        longitude := fix.longitude
        altitudeM := fix.altitudeM
        hdop := dop .hdop
        pdop := dop .pdop
        vdop := dop .vdop }
    (some (), { s with mode := mode, dop := dop, latestFix := merged })

/-- `_handle_txt`. -/
def handleTxt (parts : List (List Char)) : Session (UartState F D) Unit := fun s =>
  if parts.length < 5 then (some (), s)
  else
    let text := String.ofList (beforeStar (field parts 4))
    (some (), { s with lastTxt := some (PyText.strip text) })

def isGga (sentence : List Char) : Bool :=
  "$GPGGA".toList.isPrefixOf sentence || "$GNGGA".toList.isPrefixOf sentence

def isGsa (sentence : List Char) : Bool :=
  "$GPGSA".toList.isPrefixOf sentence || "$GNGSA".toList.isPrefixOf sentence

/-- `_handle_sentence`. -/
def handleSentence (now : D) (sentence : List Char) : Session (UartState F D) Unit :=
  let parts := sentence.splitOn ','
  if isGga sentence then handleGga now parts
  else if isGsa sentence then handleGsa parts
  else if "TXT".toList.isPrefixOf (sentence.drop 3) then handleTxt parts
  else pure ()

/-- Lines as they arrive, with their times. A session with the port that ends by an exception is
    followed by another one. -/
def receive (lines : List (D × List Char)) (s : UartState F D) : UartState F D :=
  lines.foldl (fun s line => (handleSentence line.1 line.2 s).2) s

/-! ### Held coordinates -/

/-- The position in the fields of a GGA sentence: it has a fix and two coordinates that can be
    read. -/
def ggaPosition (parts : List (List Char)) : Option (F × F) :=
  if parts.length < 10 ∨ fixQuality parts = 0 then none
  else
    match nmeaToDecimal (field parts 2) (field parts 3),
      nmeaToDecimal (field parts 4) (field parts 5) with
    | .ok (some lat), .ok (some lon) => some (lat, lon)
    | _, _ => none

def positionOf (sentence : List Char) : Option (F × F) :=
  if isGga sentence then ggaPosition (sentence.splitOn ',') else none

def coordinates (s : UartState F D) : Option (Option F × Option F) :=
  s.latestFix.map fun fix => (fix.latitude, fix.longitude)

def shown (position : F × F) : Option F × Option F := (some position.1, some position.2)

theorem coordinates_handleGga (now : D) (parts : List (List Char)) (s : UartState F D) :
    coordinates (handleGga now parts s).2 =
      ((ggaPosition parts).map shown).or (coordinates s) := by
  have hkept : coordinates (s.noticed now parts) = coordinates s := rfl
  unfold handleGga ggaPosition
  by_cases hlen : parts.length < 10
  · rw [if_pos hlen, if_pos (.inl hlen)]
    rfl
  · by_cases hquality : fixQuality parts = 0
    · have hnone : parts.length < 10 ∨ fixQuality parts = 0 := .inr hquality
      rw [if_neg hlen, if_pos hnone]
      simp only [if_pos hquality]
      exact hkept
    · rw [if_neg hlen, if_neg (not_or.mpr ⟨hlen, hquality⟩)]
      simp only [if_neg hquality]
      cases nmeaToDecimal (F := F) (field parts 2) (field parts 3) with
      | error e => exact hkept
      | ok lat =>
        cases nmeaToDecimal (F := F) (field parts 4) (field parts 5) with
        | error e => cases lat <;> exact hkept
        | ok lon => cases lat <;> cases lon <;> first | exact hkept | rfl

theorem coordinates_handleGsa (parts : List (List Char)) (s : UartState F D) :
    coordinates (handleGsa parts s).2 = coordinates s := by
  unfold handleGsa
  split
  · rfl
  · simp only [coordinates, Option.map_map]
    rfl

omit [NmeaFloat F] in
theorem coordinates_handleTxt (parts : List (List Char)) (s : UartState F D) :
    coordinates (handleTxt parts s).2 = coordinates s := by
  unfold handleTxt
  split <;> rfl

theorem coordinates_handleSentence (now : D) (sentence : List Char) (s : UartState F D) :
    coordinates (handleSentence now sentence s).2 =
      ((positionOf sentence).map shown).or (coordinates s) := by
  unfold handleSentence positionOf
  by_cases hgga : isGga sentence = true
  · rw [if_pos hgga, if_pos hgga]
    exact coordinates_handleGga now _ s
  · rw [if_neg hgga, if_neg hgga]
    split
    · exact coordinates_handleGsa _ s
    · split
      · exact coordinates_handleTxt _ s
      · rfl

/-- After any run the coordinates are those of the last line that carries some, or those held
    before it. -/
theorem coordinates_receive (lines : List (D × List Char)) (s : UartState F D) :
    coordinates (receive lines s) =
      ((lines.filterMap fun line => positionOf line.2).getLast?.map shown).or (coordinates s) := by
  induction lines generalizing s with
  | nil => rfl
  | cons line lines ih =>
    have hstep := coordinates_handleSentence line.1 line.2 s
    rw [receive, List.foldl_cons]
    refine (ih _).trans ?_
    rw [hstep]
    cases hline : (positionOf line.2 : Option (F × F)) with
    | none =>
      simp only [List.filterMap_cons, hline]
      rfl
    | some position =>
      simp only [List.filterMap_cons, hline, List.getLast?_cons]
      cases (lines.filterMap fun line => (positionOf line.2 : Option (F × F))).getLast? <;> rfl

/-! ### Handling returns -/

/-- The degrees of a coordinate field, as far as they are an integer, become a float. -/
def DegreesFit (F : Type) [NmeaFloat F] (coord : List Char) : Prop :=
  ∀ dot degrees, coord.idxOf? '.' = some dot → intField (sliceTo coord (dot - 2)) = some degrees →
    (NmeaFloat.ofInt degrees : Option F).isSome

theorem nmeaToDecimal_ok {coord : List Char} (h : DegreesFit F coord) (direction : List Char) :
    ∃ result : Option F, nmeaToDecimal coord direction = .ok result := by
  unfold nmeaToDecimal
  split
  · exact ⟨none, rfl⟩
  · split
    · exact ⟨none, rfl⟩
    · rename_i dot hdot
      split
      · rename_i degrees minutes hdegrees _
        obtain ⟨x, hx⟩ := Option.isSome_iff_exists.mp (h dot degrees hdot hdegrees)
        simp only [hx]
        exact ⟨_, rfl⟩
      · exact ⟨none, rfl⟩

/-- Lines are handled without an exception where the degrees of their coordinates become
    floats. -/
theorem handleSentence_returns (now : D) {sentence : List Char}
    (h : ∀ i ∈ [2, 4], DegreesFit F (field (sentence.splitOn ',') i)) (s : UartState F D) :
    (handleSentence now sentence s).1 = some () := by
  obtain ⟨lat, hlat⟩ := nmeaToDecimal_ok (h 2 (by decide)) (field (sentence.splitOn ',') 3)
  obtain ⟨lon, hlon⟩ := nmeaToDecimal_ok (h 4 (by decide)) (field (sentence.splitOn ',') 5)
  unfold handleSentence
  split
  · unfold handleGga
    split
    · rfl
    · simp only [hlat, hlon]
      split
      · rfl
      · cases lat <;> cases lon <;> rfl
  · split
    · unfold handleGsa
      split <;> rfl
    · split
      · unfold handleTxt
        split <;> rfl
      · rfl

/-! ### The checksum -/

/-- Parts that differ only in what follows an asterisk in the last one. -/
structure Alike (F : Type) [NmeaFloat F] (parts parts' : List (List Char)) : Prop where
  length_eq : parts.length = parts'.length
  field_eq : ∀ i, i + 1 < parts.length → field parts i = field parts' i
  beforeStar_eq : ∀ i, beforeStar (field parts i) = beforeStar (field parts' i)
  floatField_eq : ∀ i, (floatField (field parts i) : Option F) = floatField (field parts' i)

theorem beforeStar_append (text tail : List Char) :
    beforeStar (text ++ '*' :: tail) = beforeStar text := by
  induction text with
  | nil => rfl
  | cons c text ih =>
    simp only [beforeStar, List.cons_append, List.takeWhile_cons] at ih ⊢
    rw [ih]

theorem floatField_star (text tail : List Char) :
    (floatField (text ++ '*' :: tail) : Option F) = none := by
  rw [floatField, if_neg (by simp)]
  exact NmeaFloat.ofText_star _ (by simp)

theorem alike_append (init : List (List Char)) (last tail tail' : List Char) :
    Alike F (init ++ [last ++ '*' :: tail]) (init ++ [last ++ '*' :: tail']) := by
  have hcases : ∀ i, (i < init.length ∧ ∀ t, field (init ++ [t]) i = field init i) ∨
      (i = init.length ∧ ∀ t, field (init ++ [t]) i = t) ∨
      ∀ t, field (init ++ [t]) i = [] := by
    intro i
    rcases lt_trichotomy i init.length with h | h | h
    · refine .inl ⟨h, fun t => ?_⟩
      simp [field, List.getElem?_append_left h]
    · refine .inr (.inl ⟨h, fun t => ?_⟩)
      simp [field, h]
    · refine .inr (.inr fun t => ?_)
      have hover : (init ++ [t])[i]? = none := List.getElem?_eq_none (by simp; omega)
      simp [field, hover]
  refine ⟨by simp, ?_, ?_, ?_⟩
  · intro i hi
    rw [List.length_append, List.length_singleton] at hi
    rcases hcases i with ⟨-, h⟩ | ⟨h, -⟩ | h
    · rw [h, h]
    · omega
    · rw [h, h]
  · intro i
    rcases hcases i with ⟨-, h⟩ | ⟨-, h⟩ | h
    · rw [h, h]
    · rw [h, h, beforeStar_append, beforeStar_append]
    · rw [h, h]
  · intro i
    rcases hcases i with ⟨-, h⟩ | ⟨-, h⟩ | h
    · rw [h, h]
    · rw [h, h, floatField_star, floatField_star]
    · rw [h, h]

theorem handleGga_congr (now : D) {parts parts' : List (List Char)} (h : Alike F parts parts') :
    (handleGga now parts : Session (UartState F D) Unit) = handleGga now parts' := by
  funext s
  unfold handleGga
  rw [h.length_eq]
  by_cases hlen : parts'.length < 10
  · rw [if_pos hlen, if_pos hlen]
  · have hparts : 10 ≤ parts.length := by
      rw [h.length_eq]
      omega
    have hfield : ∀ i < 9, field parts i = field parts' i := fun i hi => h.field_eq i (by omega)
    have hquality : fixQuality parts = fixQuality parts' := by
      rw [fixQuality, fixQuality, hfield 6 (by decide)]
    have hnoticed : s.noticed now parts = s.noticed now parts' := by
      rw [UartState.noticed, UartState.noticed, hfield 7 (by decide)]
    rw [if_neg hlen, if_neg hlen, hquality, hnoticed, hfield 2 (by decide), hfield 3 (by decide),
      hfield 4 (by decide), hfield 5 (by decide), h.floatField_eq 9]

theorem handleGsa_congr {parts parts' : List (List Char)} (h : Alike F parts parts') :
    (handleGsa parts : Session (UartState F D) Unit) = handleGsa parts' := by
  funext s
  unfold handleGsa
  rw [h.length_eq]
  by_cases hlen : parts'.length < 18
  · rw [if_pos hlen, if_pos hlen]
  · have hparts : 18 ≤ parts.length := by
      rw [h.length_eq]
      omega
    simp only [if_neg hlen, h.field_eq 2 (by omega), h.beforeStar_eq]

theorem handleTxt_congr {parts parts' : List (List Char)} (h : Alike F parts parts') :
    (handleTxt parts : Session (UartState F D) Unit) = handleTxt parts' := by
  funext s
  unfold handleTxt
  rw [h.length_eq, h.beforeStar_eq]

theorem exists_parts (body : List Char) : ∃ init last, init.length ≤ body.length ∧
    ∀ tail : List Char, ',' ∉ tail → (body ++ tail).splitOn ',' = init ++ [last ++ tail] := by
  induction body with
  | nil =>
    refine ⟨[], [], le_rfl, fun tail htail => ?_⟩
    apply List.splitOnP_eq_singleton
    intro c hc
    have hne : c ≠ ',' := fun h => htail (h ▸ hc)
    simpa using hne
  | cons c body ih =>
    obtain ⟨init, last, hlength, hparts⟩ := ih
    by_cases hc : c = ','
    · refine ⟨[] :: init, last, Nat.succ_le_succ hlength, fun tail htail => ?_⟩
      rw [List.splitOn, List.cons_append, List.splitOnP_cons_eq_if_modifyHead,
        if_pos (by simp [hc])]
      exact congrArg _ (hparts tail htail)
    · cases init with
      | nil =>
        refine ⟨[], c :: last, Nat.zero_le _, fun tail htail => ?_⟩
        have hrest := hparts tail htail
        rw [List.splitOn] at hrest
        rw [List.splitOn, List.cons_append, List.splitOnP_cons_eq_if_modifyHead,
          if_neg (by simpa using hc), hrest]
        rfl
      | cons first init =>
        refine ⟨(c :: first) :: init, last, Nat.le_succ_of_le hlength, fun tail htail => ?_⟩
        have hrest := hparts tail htail
        rw [List.splitOn] at hrest
        rw [List.splitOn, List.cons_append, List.splitOnP_cons_eq_if_modifyHead,
          if_neg (by simpa using hc), hrest]
        rfl

theorem isPrefixOf_star {pattern : List Char} (hpattern : '*' ∉ pattern) (body tail : List Char) :
    pattern.isPrefixOf (body ++ '*' :: tail) = pattern.isPrefixOf body := by
  induction pattern generalizing body with
  | nil => cases body <;> rfl
  | cons c pattern ih =>
    rw [List.mem_cons, not_or] at hpattern
    cases body with
    | nil =>
      have hne : (c == '*') = false := by simpa using Ne.symm hpattern.1
      simp [List.isPrefixOf, hne]
    | cons d body => simp only [List.cons_append, List.isPrefixOf, ih hpattern.2]

/-- What follows the asterisk of a line makes no difference: no checksum is looked at. -/
theorem handleSentence_checksum (now : D) (body : List Char) {tail tail' : List Char}
    (htail : ',' ∉ tail) (htail' : ',' ∉ tail') :
    (handleSentence now (body ++ '*' :: tail) : Session (UartState F D) Unit) =
      handleSentence now (body ++ '*' :: tail') := by
  obtain ⟨init, last, hlength, hparts⟩ := exists_parts body
  have hsplit := hparts ('*' :: tail) (by simp [htail])
  have hsplit' := hparts ('*' :: tail') (by simp [htail'])
  have halike := alike_append (F := F) init last tail tail'
  have hgga : isGga (body ++ '*' :: tail) = isGga (body ++ '*' :: tail') := by
    simp only [isGga, isPrefixOf_star (show '*' ∉ "$GPGGA".toList by decide),
      isPrefixOf_star (show '*' ∉ "$GNGGA".toList by decide)]
  have hgsa : isGsa (body ++ '*' :: tail) = isGsa (body ++ '*' :: tail') := by
    simp only [isGsa, isPrefixOf_star (show '*' ∉ "$GPGSA".toList by decide),
      isPrefixOf_star (show '*' ∉ "$GNGSA".toList by decide)]
  simp only [handleSentence, hsplit, hsplit', hgga, hgsa, handleGga_congr now halike,
    handleGsa_congr halike, handleTxt_congr halike]
  by_cases hbody : 3 ≤ body.length
  · have hdrop : ∀ t, (body ++ '*' :: t).drop 3 = body.drop 3 ++ '*' :: t :=
      fun t => List.drop_append_of_le_length hbody
    simp only [hdrop, isPrefixOf_star (show '*' ∉ "TXT".toList by decide)]
  · -- too few parts for a text, whatever the line is taken for
    have hfew : (init ++ [last ++ '*' :: tail']).length < 5 := by
      rw [List.length_append, List.length_singleton]
      omega
    have htxt : (handleTxt (init ++ [last ++ '*' :: tail']) : Session (UartState F D) Unit) =
        pure () := by
      funext s
      rw [handleTxt, if_pos hfew]
      rfl
    simp only [htxt, ite_self]

/-! ### Well-formed sentences -/

/-- An angle as NMEA writes it, up to a limit: digits for the degrees, two digits for the minutes,
    a point and the fraction of the minutes. -/
structure NmeaAngle (width limit : Nat) where
  degrees : List Char
  minutes : List Char
  fraction : List Char
  degrees_digits : ∀ c ∈ degrees, c.isDigit = true
  minutes_digits : ∀ c ∈ minutes, c.isDigit = true
  fraction_digits : ∀ c ∈ fraction, c.isDigit = true
  degrees_length : degrees.length = width
  minutes_length : minutes.length = 2
  minutes_lt : decimalValue minutes fraction < 60
  within : (Nat.ofDigitChars 10 degrees 0 : ℚ) + decimalValue minutes fraction / 60 ≤ limit

variable {width limit : Nat}

def NmeaAngle.text (angle : NmeaAngle width limit) : List Char :=
  angle.degrees ++ angle.minutes ++ '.' :: angle.fraction

def NmeaAngle.value (angle : NmeaAngle width limit) : ℚ :=
  (Nat.ofDigitChars 10 angle.degrees 0 : ℚ) +
    decimalValue angle.minutes angle.fraction / 60

/-- The float is the angle with that sign, within the limit and up to the rounding to seven
    decimals and that of the float operations. -/
def Encodes (x : F) (negative : Bool) (angle limit : ℚ) : Prop :=
  ∃ q : ℚ, NmeaFloat.val x = some (if negative then -q else q) ∧ 0 ≤ q ∧ q ≤ limit ∧
    |q - angle| ≤ 1 / 2 / 10 ^ 7 + 1 / 10 ^ 12

theorem nearest_between {a b : Int} {q : ℚ} (ha : |a| ≤ 256) (hb : |b| ≤ 256) (haq : (a : ℚ) ≤ q)
    (hqb : q ≤ b) :
    (a : ℚ) ≤ NmeaFloat.nearest F q ∧ NmeaFloat.nearest F q ≤ b ∧
      |NmeaFloat.nearest F q - q| ≤ 1 / 2 ^ 45 := by
  have hlow := NmeaFloat.nearest_mono (F := F) _ _ haq
  have hup := NmeaFloat.nearest_mono (F := F) _ _ hqb
  rw [NmeaFloat.nearest_int a (ha.trans (by norm_num))] at hlow
  rw [NmeaFloat.nearest_int b (hb.trans (by norm_num))] at hup
  refine ⟨hlow, hup, NmeaFloat.nearest_near q ?_⟩
  have ha' : (-256 : ℚ) ≤ a := by exact_mod_cast (abs_le.mp ha).1
  have hb' : (b : ℚ) ≤ 256 := by exact_mod_cast (abs_le.mp hb).2
  exact abs_le.mpr ⟨by linarith, by linarith⟩

theorem val_add_div60 {x y : F} {n : Nat} {m : ℚ} (hlimit : limit ≤ 180)
    (hx : NmeaFloat.val x = some (n : ℚ)) (hy : NmeaFloat.val y = some (NmeaFloat.nearest F m))
    (hm : 0 ≤ m) (hwithin : (n : ℚ) + m / 60 ≤ limit) (hm60 : m < 60) :
    ∃ s : ℚ, NmeaFloat.val (NmeaFloat.add x (NmeaFloat.div60 y)) = some s ∧ 0 ≤ s ∧ s ≤ limit ∧
      |s - (n + m / 60)| ≤ 3 / 2 ^ 45 := by
  have hn : n ≤ limit := by
    have hle : (n : ℚ) ≤ limit := by linarith
    exact_mod_cast hle
  -- the minutes as a float stay below those that the limit leaves
  have hm' : 0 ≤ NmeaFloat.nearest F m ∧ NmeaFloat.nearest F m ≤ 60 ∧
      |NmeaFloat.nearest F m - m| ≤ 1 / 2 ^ 45 := by
    have h := nearest_between (F := F) (show |(0 : Int)| ≤ 256 by decide)
      (show |(60 : Int)| ≤ 256 by decide) (by exact_mod_cast hm) (by exact_mod_cast hm60.le)
    exact_mod_cast h
  have hleft : NmeaFloat.nearest F m ≤ 60 * (limit - n) := by
    have h := NmeaFloat.nearest_mono (F := F) m ((60 * (limit - n) : Int) : ℚ)
      (by push_cast; linarith)
    rw [NmeaFloat.nearest_int _ (by rw [abs_le]; constructor <;> omega)] at h
    push_cast at h
    exact h
  obtain ⟨hlow, hup, hnear⟩ := hm'
  have hsixty : |NmeaFloat.nearest F m| ≤ 256 := abs_le.mpr ⟨by linarith, by linarith⟩
  have hdiv := NmeaFloat.val_div60 y _ hy hsixty
  obtain ⟨ht0, ht1, htnear⟩ := nearest_between (F := F) (q := NmeaFloat.nearest F m / 60)
    (show |(0 : Int)| ≤ 256 by decide) (show |((limit - n : Nat) : Int)| ≤ 256 by
      rw [abs_le]; constructor <;> omega) (by push_cast; linarith)
    (by rw [Int.cast_natCast, Nat.cast_sub hn]; linarith)
  rw [Int.cast_natCast, Nat.cast_sub hn] at ht1
  rw [Int.cast_zero] at ht0
  generalize NmeaFloat.nearest F (NmeaFloat.nearest F m / 60) = t at hdiv ht0 ht1 htnear
  have hn' : (0 : ℚ) ≤ n := Nat.cast_nonneg n
  have hl' : (limit : ℚ) ≤ 180 := by exact_mod_cast hlimit
  have hsum : |(n : ℚ) + t| ≤ 256 := abs_le.mpr ⟨by linarith, by linarith⟩
  have hadd := NmeaFloat.val_add x _ _ _ hx hdiv hsum
  obtain ⟨hs0, hs1, hsnear⟩ := nearest_between (F := F) (q := (n : ℚ) + t)
    (show |(0 : Int)| ≤ 256 by decide) (show |(limit : Int)| ≤ 256 by
      rw [abs_le]; constructor <;> omega) (by push_cast; linarith) (by push_cast; linarith)
  refine ⟨_, hadd, by exact_mod_cast hs0, by exact_mod_cast hs1, ?_⟩
  rw [abs_le] at hnear htnear hsnear ⊢
  constructor <;> linarith [hnear.1, hnear.2, htnear.1, htnear.2, hsnear.1, hsnear.2]

theorem encodes_round7 {x : F} {s angle : ℚ} (hlimit : limit ≤ 180) (hx : NmeaFloat.val x = some s)
    (hs0 : 0 ≤ s) (hs1 : s ≤ limit) (hnear : |s - angle| ≤ 3 / 2 ^ 45) (negative : Bool) :
    Encodes (NmeaFloat.round7 (if negative then NmeaFloat.neg x else x)) negative angle limit := by
  have hl' : (limit : ℚ) ≤ 180 := by exact_mod_cast hlimit
  have hbound : |(limit : Int)| ≤ 256 := by
    rw [abs_le]
    constructor <;> omega
  have hneg : |-(limit : Int)| ≤ 256 := by rwa [abs_neg]
  rw [abs_le] at hnear
  cases negative with
  | false =>
    have hs : |s| ≤ 256 := abs_le.mpr ⟨by linarith, by linarith⟩
    obtain ⟨k, hk, hval⟩ := NmeaFloat.val_round7 x s hx hs
    rw [abs_le] at hk
    have hk0 : 0 ≤ k := by
      have hlt : (-1 : ℚ) < k := by linarith
      exact_mod_cast hlt
    have hk1 : k ≤ limit * 10 ^ 7 := by
      have hlt : (k : ℚ) < ((limit * 10 ^ 7 + 1 : Int) : ℚ) := by push_cast; linarith
      exact Int.lt_add_one_iff.mp (by exact_mod_cast hlt)
    have hk0' : (0 : ℚ) ≤ k := by exact_mod_cast hk0
    have hk1' : (k : ℚ) ≤ limit * 10 ^ 7 := by exact_mod_cast hk1
    obtain ⟨hq0, hq1, hqnear⟩ := nearest_between (F := F) (q := (k : ℚ) / 10 ^ 7)
      (show |(0 : Int)| ≤ 256 by decide) hbound (by push_cast; positivity)
      (by rw [Int.cast_natCast, div_le_iff₀ (by positivity)]; exact hk1')
    refine ⟨_, hval, by exact_mod_cast hq0, by exact_mod_cast hq1, ?_⟩
    rw [abs_le] at hqnear ⊢
    constructor <;> linarith [hqnear.1, hqnear.2]
  | true =>
    have hs : |-s| ≤ 256 := abs_le.mpr ⟨by linarith, by linarith⟩
    obtain ⟨k, hk, hval⟩ := NmeaFloat.val_round7 _ _ (NmeaFloat.val_neg x s hx) hs
    rw [abs_le] at hk
    have hk0 : k ≤ 0 := by
      have hlt : (k : ℚ) < ((0 + 1 : Int) : ℚ) := by push_cast; linarith
      exact Int.lt_add_one_iff.mp (by exact_mod_cast hlt)
    have hk1 : -(limit * 10 ^ 7 : Int) ≤ k := by
      have hlt : ((-(limit * 10 ^ 7 : Int) - 1 : Int) : ℚ) < k := by push_cast; linarith
      exact Int.sub_one_lt_iff.mp (by exact_mod_cast hlt)
    have hk0' : (k : ℚ) ≤ 0 := by exact_mod_cast hk0
    have hk1' : -((limit : ℚ) * 10 ^ 7) ≤ k := by exact_mod_cast hk1
    obtain ⟨hq0, hq1, hqnear⟩ := nearest_between (F := F) (q := (k : ℚ) / 10 ^ 7)
      hneg (show |(0 : Int)| ≤ 256 by decide)
      (by rw [Int.cast_neg, Int.cast_natCast, le_div_iff₀ (by positivity)]; linarith)
      (by rw [Int.cast_zero]; exact div_nonpos_of_nonpos_of_nonneg hk0' (by positivity))
    refine ⟨-NmeaFloat.nearest F (k / 10 ^ 7), ?_, ?_, ?_, ?_⟩
    · rw [if_pos rfl, neg_neg]
      exact hval
    · rw [Int.cast_zero] at hq1
      linarith
    · rw [Int.cast_neg, Int.cast_natCast] at hq0
      linarith
    · rw [abs_le] at hqnear ⊢
      constructor <;> linarith [hqnear.1, hqnear.2]

/-! ### Reading an angle -/

theorem intField_digits {text : List Char} (hdigits : ∀ c ∈ text, c.isDigit = true)
    (hne : text ≠ []) (hlen : text.length ≤ 4300) :
    intField text = some ((Nat.ofDigitChars 10 text 0 : Nat) : Int) := by
  have hcount : digitCount (String.ofList text) ≤ 4300 := by
    rw [digitCount, String.toList_ofList]
    exact (List.countP_le_length).trans (by simpa using hlen)
  rw [intField, if_neg (by omega)]
  exact PyText.intOfText_digits hdigits hne

theorem idxOf?_point {text : List Char} (hdigits : ∀ c ∈ text, c.isDigit = true)
    (rest : List Char) : (text ++ '.' :: rest).idxOf? '.' = some text.length := by
  induction text with
  | nil => simp [List.idxOf?_cons]
  | cons c text ih =>
    rw [List.forall_mem_cons] at hdigits
    have hne : (c == '.') = false := by
      simpa using PyText.ne_of_isDigit hdigits.1 (by decide)
    rw [List.cons_append, List.idxOf?_cons, hne, ih hdigits.2]
    rfl

theorem decimalValue_nonneg (whole fraction : List Char) : 0 ≤ decimalValue whole fraction := by
  unfold decimalValue
  positivity

theorem nmeaToDecimal_angle (angle : NmeaAngle width limit) (hwidth : 0 < width ∧ width ≤ 3)
    (hlimit : limit ≤ 180) (negative : Bool) {direction : List Char} (hdirection : direction ≠ [])
    (hsign : negative = true ↔ direction = ['S'] ∨ direction = ['W']) :
    ∃ x : F, nmeaToDecimal angle.text direction = .ok (some x) ∧
      Encodes x negative angle.value limit := by
  have hdegrees := angle.degrees_length
  have hminutes := angle.minutes_length
  have hdigits : ∀ c ∈ angle.degrees ++ angle.minutes, c.isDigit = true := by
    intro c hc
    rcases List.mem_append.mp hc with h | h
    · exact angle.degrees_digits c h
    · exact angle.minutes_digits c h
  have hne : angle.degrees ≠ [] := by
    rw [← List.length_pos_iff, hdegrees]
    exact hwidth.1
  have hmne : angle.minutes ≠ [] := by
    rw [← List.length_pos_iff, hminutes]
    decide
  have hpoint := idxOf?_point hdigits angle.fraction
  rw [List.length_append, hdegrees, hminutes] at hpoint
  have hbound : sliceBound angle.text.length (((width + 2 : Nat) : Int) - 2) = width := by
    simp only [sliceBound, NmeaAngle.text, List.length_append, hdegrees, hminutes]
    rw [if_neg (by omega)]
    omega
  have hto : sliceTo angle.text (((width + 2 : Nat) : Int) - 2) = angle.degrees := by
    rw [sliceTo, hbound, NmeaAngle.text, List.append_assoc, List.take_left' hdegrees]
  have hfrom : sliceFrom angle.text (((width + 2 : Nat) : Int) - 2) =
      angle.minutes ++ '.' :: angle.fraction := by
    rw [sliceFrom, hbound, NmeaAngle.text, List.append_assoc, List.drop_left' hdegrees]
  have hint := intField_digits angle.degrees_digits hne (by omega)
  obtain ⟨y, hy, hyval⟩ := NmeaFloat.ofText_decimal (F := F) angle.minutes angle.fraction
    angle.minutes_digits angle.fraction_digits hmne hminutes.le
  have hnonneg := decimalValue_nonneg angle.minutes angle.fraction
  have hn : Nat.ofDigitChars 10 angle.degrees 0 ≤ 180 := by
    have hle : (Nat.ofDigitChars 10 angle.degrees 0 : ℚ) ≤ limit := by
      linarith [angle.within]
    exact le_trans (by exact_mod_cast hle) hlimit
  obtain ⟨x, hx, hxval⟩ := NmeaFloat.ofInt_small (F := F)
    (Nat.ofDigitChars 10 angle.degrees 0 : Nat) (by rw [abs_le]; constructor <;> omega)
  rw [Int.cast_natCast] at hxval
  obtain ⟨s, hs, hs0, hs1, hsnear⟩ := val_add_div60 hlimit hxval hyval hnonneg angle.within
    angle.minutes_lt
  refine ⟨_, ?_, encodes_round7 hlimit hs hs0 hs1 hsnear negative⟩
  have hpresent : ¬ (angle.text = [] ∨ direction = []) := by
    simp [NmeaAngle.text, hdirection]
  simp only [nmeaToDecimal, if_neg hpresent]
  rw [show angle.text.idxOf? '.' = some (width + 2) from hpoint]
  simp only [hto, hfrom, hint, hy, hx]
  simp only [← hsign]

/-! ### GGA sentences -/

/-- A GGA sentence with a fix, up to the end of the line. -/
structure GgaSentence where
  multiConstellation : Bool
  time : List Char
  latitude : NmeaAngle 2 90
  south : Bool
  longitude : NmeaAngle 3 180
  west : Bool
  quality : Char
  satellites : List Char
  hdop : List Char
  altitude : List Char
  /-- The fields from the unit of the altitude on, with the checksum in the last. -/
  rest : List (List Char)
  quality_digit : quality.isDigit = true ∧ quality ≠ '0'
  no_comma : ∀ text ∈ time :: satellites :: hdop :: altitude :: rest, ',' ∉ text

def GgaSentence.parts (gga : GgaSentence) : List (List Char) :=
  (if gga.multiConstellation then "$GNGGA".toList else "$GPGGA".toList) :: gga.time ::
    gga.latitude.text :: [if gga.south then 'S' else 'N'] ::
    gga.longitude.text :: [if gga.west then 'W' else 'E'] :: [gga.quality] ::
    gga.satellites :: gga.hdop :: gga.altitude :: gga.rest

def GgaSentence.text (gga : GgaSentence) : List Char := List.intercalate [','] gga.parts

theorem NmeaAngle.no_comma (angle : NmeaAngle width limit) : ',' ∉ angle.text := by
  have hdigit : ∀ c : Char, c.isDigit = true → ',' ≠ c := fun c hc =>
    (PyText.ne_of_isDigit hc (by decide)).symm
  intro hmem
  simp only [NmeaAngle.text, List.mem_append, List.mem_cons] at hmem
  rcases hmem with (h | h) | h | h
  · exact hdigit _ (angle.degrees_digits _ h) rfl
  · exact hdigit _ (angle.minutes_digits _ h) rfl
  · cases h
  · exact hdigit _ (angle.fraction_digits _ h) rfl

theorem GgaSentence.comma_not_mem (gga : GgaSentence) : ∀ text ∈ gga.parts, ',' ∉ text := by
  have hfree := gga.no_comma
  simp only [List.forall_mem_cons] at hfree
  obtain ⟨htime, hsatellites, hhdop, haltitude, hrest⟩ := hfree
  simp only [GgaSentence.parts, List.forall_mem_cons]
  refine ⟨?_, htime, gga.latitude.no_comma, ?_, gga.longitude.no_comma, ?_, ?_, hsatellites,
    hhdop, haltitude, hrest⟩
  · cases gga.multiConstellation <;> decide
  · cases gga.south <;> decide
  · cases gga.west <;> decide
  · have hne := PyText.ne_of_isDigit gga.quality_digit.1 (show (',').toNat < 48 ∨ _ by decide)
    simpa using hne.symm

theorem GgaSentence.splitOn_text (gga : GgaSentence) : gga.text.splitOn ',' = gga.parts := by
  apply List.splitOn_intercalate
  · exact gga.comma_not_mem
  · exact List.cons_ne_nil _ _

theorem GgaSentence.isGga_text (gga : GgaSentence) : isGga gga.text = true := by
  cases h : gga.multiConstellation <;> simp [isGga, GgaSentence.text, GgaSentence.parts, h]

theorem GgaSentence.fixQuality_parts (gga : GgaSentence) : fixQuality gga.parts ≠ 0 := by
  obtain ⟨hdigit, hne⟩ := gga.quality_digit
  have hdigits : ∀ c ∈ [gga.quality], c.isDigit = true := by simpa using hdigit
  have hread := intField_digits hdigits (by simp) (by simp)
  have hrange := PyText.toNat_of_isDigit hdigit
  have hcode : gga.quality.toNat ≠ 48 := fun h => hne (Char.toNat_inj.mp h)
  have hfield : field gga.parts 6 = [gga.quality] := rfl
  rw [fixQuality, hfield, if_neg (by simp), hread, Nat.ofDigitChars_cons, Nat.ofDigitChars_nil,
    Option.getD_some]
  have hzero : ('0').toNat = 48 := rfl
  omega

theorem positionOf_sentence (gga : GgaSentence) :
    ∃ lat lon : F, positionOf gga.text = some (lat, lon) ∧
      Encodes lat gga.south gga.latitude.value 90 ∧
      Encodes lon gga.west gga.longitude.value 180 := by
  obtain ⟨lat, hlat, hlatval⟩ := nmeaToDecimal_angle (F := F) gga.latitude (by decide)
    (by decide) gga.south (List.cons_ne_nil (if gga.south then 'S' else 'N') [])
    (by cases gga.south <;> decide)
  obtain ⟨lon, hlon, hlonval⟩ := nmeaToDecimal_angle (F := F) gga.longitude (by decide)
    (by decide) gga.west (List.cons_ne_nil (if gga.west then 'W' else 'E') [])
    (by cases gga.west <;> decide)
  refine ⟨lat, lon, ?_, by exact_mod_cast hlatval, by exact_mod_cast hlonval⟩
  have hlength : ¬ gga.parts.length < 10 := by
    simp only [GgaSentence.parts, List.length_cons]
    omega
  have hlatField : nmeaToDecimal (field gga.parts 2) (field gga.parts 3) = .ok (some lat) := hlat
  have hlonField : nmeaToDecimal (field gga.parts 4) (field gga.parts 5) = .ok (some lon) := hlon
  rw [positionOf, if_pos gga.isGga_text, gga.splitOn_text, ggaPosition,
    if_neg (not_or.mpr ⟨hlength, gga.fixQuality_parts⟩), hlatField, hlonField]

variable (F D)

/-- The lines of a UART: handling returns where the degrees become floats; no checksum is looked
    at; a well-formed GGA sentence with a fix carries the position it encodes; and the coordinates
    held after a run are those of the last line that carries some. -/
theorem uart_positions :
    (∀ (now : D) (sentence : List Char) (s : UartState F D),
        (∀ i ∈ [2, 4], DegreesFit F (field (sentence.splitOn ',') i)) →
          (handleSentence now sentence s).1 = some ()) ∧
      (∀ (now : D) (body tail tail' : List Char) (s : UartState F D), ',' ∉ tail → ',' ∉ tail' →
        handleSentence now (body ++ '*' :: tail) s = handleSentence now (body ++ '*' :: tail') s) ∧
      (∀ gga : GgaSentence, ∃ lat lon : F, positionOf gga.text = some (lat, lon) ∧
        Encodes lat gga.south gga.latitude.value 90 ∧
        Encodes lon gga.west gga.longitude.value 180) ∧
      ∀ (lines : List (D × List Char)) (s : UartState F D), coordinates (receive lines s) =
        ((lines.filterMap fun line => positionOf line.2).getLast?.map shown).or (coordinates s) :=
  ⟨fun now _ s h => handleSentence_returns now h s,
    fun now body _ _ s h h' => congrFun (handleSentence_checksum now body h h') s,
    positionOf_sentence, coordinates_receive⟩

end

/-! ### A sentence with a wrong checksum -/

def readPlain (text : List Char) : Option ℚ :=
  match text.dropWhile Char.isDigit with
  | '.' :: fraction =>
    if text.takeWhile Char.isDigit ≠ [] ∧ fraction.all Char.isDigit then
      some (decimalValue (text.takeWhile Char.isDigit) fraction)
    else none
  | _ => none

/-- Exact arithmetic. -/
instance : NmeaFloat ℚ where
  ofText := readPlain
  ofInt n := some n
  add x y := x + y
  div60 x := x / 60
  neg x := -x
  round7 x := round (x * 10 ^ 7) / 10 ^ 7
  val := some
  nearest := id
  nearest_mono := fun _ _ h => h
  nearest_int := fun _ _ => rfl
  nearest_near := by simp
  ofText_decimal := by
    intro whole fraction hwhole hfraction hne _
    have hpoint : Char.isDigit '.' = false := by decide
    have htake : (whole ++ '.' :: fraction).takeWhile Char.isDigit = whole := by
      rw [List.takeWhile_append_of_pos hwhole, List.takeWhile_cons_of_neg (by simp [hpoint]),
        List.append_nil]
    have hdrop : (whole ++ '.' :: fraction).dropWhile Char.isDigit = '.' :: fraction := by
      rw [List.dropWhile_append_of_pos hwhole, List.dropWhile_cons_of_neg (by simp [hpoint])]
    have hread : whole ≠ [] ∧ fraction.all Char.isDigit = true :=
      ⟨hne, List.all_eq_true.mpr hfraction⟩
    refine ⟨decimalValue whole fraction, ?_, rfl⟩
    simp only [readPlain, hdrop, htake, if_pos hread]
  ofText_star := by
    intro text hstar
    have hsplit := List.takeWhile_append_dropWhile (p := Char.isDigit) (l := text)
    rw [← hsplit] at hstar
    unfold readPlain
    split
    · rename_i fraction hdrop
      rw [if_neg]
      rintro ⟨-, hfraction⟩
      rw [hdrop] at hstar
      simp only [List.mem_append, List.mem_cons] at hstar
      rcases hstar with h | h | h
      · exact absurd (List.mem_takeWhile_imp h) (by decide)
      · cases h
      · exact absurd (List.all_eq_true.mp hfraction _ h) (by decide)
    · rfl
  ofInt_small := fun n _ => ⟨n, rfl, rfl⟩
  val_add := by
    rintro x y p q ⟨⟩ ⟨⟩ _
    rfl
  val_div60 := by
    rintro x q ⟨⟩ _
    rfl
  val_neg := by
    rintro x q ⟨⟩
    rfl
  val_round7 := by
    rintro x q ⟨⟩ _
    exact ⟨round (x * 10 ^ 7), abs_sub_round _, rfl⟩

/-- The sentence of the manuals, with 48 for its checksum 47. -/
def garbled : GgaSentence where
  multiConstellation := false
  time := "123519".toList
  latitude :=
    { degrees := "48".toList
      minutes := "07".toList
      fraction := "038".toList
      degrees_digits := List.all_eq_true.mp (by decide)
      minutes_digits := List.all_eq_true.mp (by decide)
      fraction_digits := List.all_eq_true.mp (by decide)
      degrees_length := by decide
      minutes_length := by decide
      minutes_lt := by
        rw [decimalValue, show Nat.ofDigitChars 10 ("07".toList ++ "038".toList) 0 = 7038 by decide,
          show "038".toList.length = 3 by decide]
        norm_num
      within := by
        rw [decimalValue, show Nat.ofDigitChars 10 ("07".toList ++ "038".toList) 0 = 7038 by decide,
          show "038".toList.length = 3 by decide,
          show Nat.ofDigitChars 10 "48".toList 0 = 48 by decide]
        norm_num }
  south := false
  longitude :=
    { degrees := "011".toList
      minutes := "31".toList
      fraction := "000".toList
      degrees_digits := List.all_eq_true.mp (by decide)
      minutes_digits := List.all_eq_true.mp (by decide)
      fraction_digits := List.all_eq_true.mp (by decide)
      degrees_length := by decide
      minutes_length := by decide
      minutes_lt := by
        rw [decimalValue,
          show Nat.ofDigitChars 10 ("31".toList ++ "000".toList) 0 = 31000 by decide,
          show "000".toList.length = 3 by decide]
        norm_num
      within := by
        rw [decimalValue,
          show Nat.ofDigitChars 10 ("31".toList ++ "000".toList) 0 = 31000 by decide,
          show "000".toList.length = 3 by decide,
          show Nat.ofDigitChars 10 "011".toList 0 = 11 by decide]
        norm_num }
  west := false
  quality := '1'
  satellites := "08".toList
  hdop := "0.9".toList
  altitude := "545.4".toList
  rest := ["M".toList, "46.9".toList, "M".toList, [], "*48".toList]
  quality_digit := by decide
  no_comma := by decide

/-- The exclusive or of the bytes between `$` and `*`. -/
def nmeaChecksum (body : List Char) : Nat := body.foldl (fun acc c => acc ^^^ c.toNat) 0

def ChecksumMatches (sentence : List Char) : Prop :=
  PyText.intOfText 16 (String.ofList ((sentence.dropWhile (· ≠ '*')).drop 1)) =
    some (nmeaChecksum ((beforeStar sentence).drop 1) : Int)

/-- A line that does not end in its checksum gives the source a position. -/
theorem uart_accepts_wrong_checksum :
    ¬ ∀ (now : Nat) (sentence : List Char) (s : UartState ℚ Nat), ¬ ChecksumMatches sentence →
      (handleSentence now sentence s).2 = s := by
  intro h
  have hsame := h 0 garbled.text {} (by unfold ChecksumMatches; decide)
  have hcoordinates := coordinates_handleSentence 0 garbled.text ({} : UartState ℚ Nat)
  obtain ⟨lat, lon, hposition, -, -⟩ := positionOf_sentence (F := ℚ) garbled
  rw [hsame, hposition] at hcoordinates
  cases hcoordinates

/-- The position of that line, 48 degrees 7.038 minutes north and 11 degrees 31 minutes east. -/
theorem uart_positions_garbled :
    ∃ lat lon : ℚ, coordinates (receive [(0, garbled.text)] ({} : UartState ℚ Nat)) =
        some (some lat, some lon) ∧
      Encodes lat false garbled.latitude.value 90 ∧
      Encodes lon false garbled.longitude.value 180 := by
  obtain ⟨-, -, hsentence, hrun⟩ := uart_positions ℚ Nat
  obtain ⟨lat, lon, hposition, hlat, hlon⟩ := hsentence garbled
  refine ⟨lat, lon, ?_, hlat, hlon⟩
  rw [hrun]
  simp [hposition, shown]

end Meshpoint.UartSource
