import Meshpoint.GpsdSource

/-!
# The lines of a gpsd stream

A line is handled as it should be when handling it returns, a line that is no JSON changes
nothing, a fix with coordinates is not followed by one without, and every TPV report leaves the
held fix with the dilutions of precision that the SKY reports before it carried.

The handlers convert whatever a report holds, the required quality is met by a report without
a fix, and a report below it becomes a bare fix.  `handledAll_iff` is the exact condition on
the lines of a stream.
-/

namespace Meshpoint.GpsdStream

open JsonText MqttFormatter Raising HostSession PythonValues GpsdSource

/-- A line and the time it is handled at. -/
structure Line (D : Type) where
  text : Bytes
  now : D

section

variable {F D : Type} [StationFloat F] (rt : GpsdRuntime F D)

/-! ### What is required of a line -/

def HasCoordinates (fix? : Option (LocationFix F D)) : Prop :=
  ∃ fix, fix? = some fix ∧ fix.latitude.isSome ∧ fix.longitude.isSome

def dopOf (fix : LocationFix F D) : Dop F
  | .hdop => fix.hdop
  | .pdop => fix.pdop
  | .vdop => fix.vdop

/-- `float(value)`, where it is a number. -/
def numberOf (value : Value F) : Option F := (floatOf rt value).toOption

/-- The values last seen in a SKY report, after a further line. -/
def seenAfter (seen : Dop F) (text : Bytes) : Dop F :=
  match parsed rt text with
  | .value (.dict payload) =>
    if isClass "SKY" payload then
      fun key => (numberOf rt (getValue payload key.name)).or (seen key)
    else seen
  | _ => seen

def after (minFixQuality : Int) (s : State F D) (line : Line D) : State F D :=
  (handleLine rt minFixQuality line.now line.text s).2

/-- A fix is held with the values of `seen`, if there are any. -/
def HoldsDop (s : State F D) (seen : Dop F) : Prop :=
  ∀ key x, seen key = some x → ∃ fix, s.latestFix = some fix ∧ dopOf fix key = some x

/-- The line is handled as it should be, after SKY reports with the values `seen`. -/
structure Handled (minFixQuality : Int) (s : State F D) (seen : Dop F) (line : Line D) :
    Prop where
  returns : (handleLine rt minFixQuality line.now line.text s).1.isSome = true
  malformed : parsed rt line.text = .malformed → after rt minFixQuality s line = s
  coordinates :
    HasCoordinates s.latestFix → HasCoordinates (after rt minFixQuality s line).latestFix
  dop : ∀ payload, parsed rt line.text = .value (.dict payload) → isClass "TPV" payload = true →
    HoldsDop (after rt minFixQuality s line) seen

/-- Every line of the stream is handled as it should be. -/
def HandledAll (minFixQuality : Int) (s : State F D) (seen : Dop F) : List (Line D) → Prop
  | [] => True
  | line :: rest =>
    Handled rt minFixQuality s seen line ∧
      HandledAll minFixQuality (after rt minFixQuality s line) (seenAfter rt seen line.text) rest

/-! ### The condition -/

def tooLarge : Value F → Bool
  | .int n => (StationFloat.ofIntOrRaise n : Option F).isNone
  | _ => false

/-- The first value under the keys that is a number or too large for one is too large. -/
def outOfRange (payload : Entries F) : List String → Bool
  | [] => false
  | key :: rest =>
    tooLarge (getValue payload key) ||
      ((numberOf rt (getValue payload key)).isNone && outOfRange payload rest)

def FIX_FIELDS : List (List String) :=
  [["lat"], ["lon"], ["altMSL", "alt"], ["speed"], ["track"], ["epx"], ["epy"], ["epv"]]

/-- The mode is an integer.  Below the required quality, no value is cached where no fix is
    held; otherwise no field is out of range, and where the held fix has coordinates so has the
    report. -/
def TpvInOrder (minFixQuality : Int) (s : State F D) (payload : Entries F) : Prop :=
  ∃ mode, intOf (getOr payload "mode" (.int 0)) = .ok mode ∧
    (mode < minFixQuality → s.latestFix = none → ∀ key, s.latestDop key = none) ∧
    (minFixQuality ≤ mode →
      (∀ keys ∈ FIX_FIELDS, outOfRange rt payload keys = false) ∧
      (HasCoordinates s.latestFix →
        (numberOf rt (getValue payload "lat")).isSome = true ∧
          (numberOf rt (getValue payload "lon")).isSome = true))

/-- An object with an integer for a number, no angle or strength out of range, and a
    constellation that is no list or object. -/
def SatelliteInOrder : Value F → Prop
  | .dict entry =>
    Returns (intOf (getOr entry "PRN" (.int 0))) ∧
      (∀ key ∈ ["az", "el", "ss"], tooLarge (getValue entry key) = false) ∧
      hashable (getValue entry "gnssid") = true
  | _ => False

/-- The satellites, where there are any, are a list of such objects, and no value is out of
    range. -/
def SkyInOrder (payload : Entries F) : Prop :=
  (∀ raw, payload.get? "satellites" = some raw → truthy raw = true →
    ∃ vs, raw = .list vs ∧ ∀ v ∈ items vs, SatelliteInOrder v) ∧
  ∀ key : DopKey, tooLarge (getValue payload key.name) = false

def driverText (device : Entries F) : String :=
  match getValue device "driver" with
  | .str s => s
  | _ => ""

def isUblox (device : Entries F) : Bool :=
  holds "u-blox" (rt.lower (driverText device)) || holds "ublox" (rt.lower (driverText device))

/-- The subtype of a u-blox receiver: a text, or a list or object with one certain text. -/
def SubtypeInOrder : Value F → Prop
  | .str _ => True
  | .list vs => .str "PROTVER 18" ∈ items vs
  | .dict es => "PROTVER 18" ∈ keys es
  | _ => False

/-- The driver and, for a u-blox receiver, the subtype are texts where they are set. -/
def DeviceInOrder : Value F → Prop
  | .dict device =>
    (truthy (getValue device "driver") = true → ∃ s, getValue device "driver" = .str s) ∧
      (isUblox rt device = true → truthy (getValue device "subtype") = true →
        SubtypeInOrder (getValue device "subtype"))
  | _ => False

/-- The devices, where there are any, are a list that starts with such an object. -/
def DevicesInOrder (payload : Entries F) : Prop :=
  truthy (getValue payload "devices") = true →
    ∃ first rest, getValue payload "devices" = .list (.cons first rest) ∧
      DeviceInOrder rt first

/-- The line is no JSON, or an object that is in order for its class. -/
def LineInOrder (minFixQuality : Int) (s : State F D) (text : Bytes) : Prop :=
  match parsed rt text with
  | .malformed => True
  | .value (.dict payload) =>
    (isClass "TPV" payload = true → TpvInOrder rt minFixQuality s payload) ∧
      (isClass "SKY" payload = true → SkyInOrder payload) ∧
      (isClass "DEVICES" payload = true → DevicesInOrder rt payload)
  | _ => False

/-- Every line is in order in the state it is handled in. -/
def AllInOrder (minFixQuality : Int) (s : State F D) : List (Line D) → Prop
  | [] => True
  | line :: rest =>
    LineInOrder rt minFixQuality s line.text ∧
      AllInOrder minFixQuality (after rt minFixQuality s line) rest

end

/-! ### Conversions -/

section

variable {F D : Type} [StationFloat F] {rt : GpsdRuntime F D}

theorem numberOf_of_isNull {v : Value F} (h : isNull v = true) : numberOf rt v = none := by
  cases v with
  | null => rfl
  | _ => cases h

theorem tooLarge_of_isNull {v : Value F} (h : isNull v = true) : tooLarge v = false := by
  cases v with
  | null => rfl
  | _ => cases h

variable (rt) in
theorem floatOf_cases (v : Value F) :
    (∃ x, floatOf rt v = .ok x ∧ numberOf rt v = some x ∧ tooLarge v = false) ∨
    ((floatOf rt v = .error .typeError ∨ floatOf rt v = .error .valueError) ∧
      numberOf rt v = none ∧ tooLarge v = false) ∨
    (floatOf rt v = .error .overflowError ∧ numberOf rt v = none ∧ tooLarge v = true) := by
  cases v with
  | null => exact .inr (.inl ⟨.inl rfl, rfl, rfl⟩)
  | bool b => exact .inl ⟨_, rfl, rfl, rfl⟩
  | float x => exact .inl ⟨_, rfl, rfl, rfl⟩
  | list vs => exact .inr (.inl ⟨.inl rfl, rfl, rfl⟩)
  | dict es => exact .inr (.inl ⟨.inl rfl, rfl, rfl⟩)
  | int n =>
    cases h : (StationFloat.ofIntOrRaise n : Option F) with
    | some x =>
      exact .inl ⟨x, by simp [floatOf, h], by simp [numberOf, floatOf, h, Except.toOption],
        by simp [tooLarge, h]⟩
    | none =>
      exact .inr (.inr ⟨by simp [floatOf, h], by simp [numberOf, floatOf, h, Except.toOption],
        by simp [tooLarge, h]⟩)
  | str s =>
    cases h : rt.floatOfText s with
    | some x =>
      exact .inl ⟨x, by simp [floatOf, h], by simp [numberOf, floatOf, h, Except.toOption], rfl⟩
    | none => exact .inr (.inl ⟨.inr (by simp [floatOf, h]),
        by simp [numberOf, floatOf, h, Except.toOption], rfl⟩)

theorem optionalFloat_cons (payload : Entries F) (key : String) (rest : List String) :
    optionalFloat rt payload (key :: rest) =
      if tooLarge (getValue payload key) then .error .overflowError
      else match numberOf rt (getValue payload key) with
        | some x => .ok (some x)
        | none => optionalFloat rt payload rest := by
  rw [optionalFloat]
  split
  · rename_i hnull
    rw [tooLarge_of_isNull hnull, numberOf_of_isNull hnull]
    rfl
  · obtain ⟨x, hx, hnumber, hsmall⟩ | ⟨hcaught, hnumber, hsmall⟩ | ⟨hover, hnumber, hlarge⟩ :=
      floatOf_cases rt (getValue payload key)
    · rw [hx, hnumber, hsmall]
      rfl
    · rw [hnumber, hsmall]
      rcases hcaught with h | h
      · rw [h]
        rfl
      · rw [h]
        rfl
    · rw [hover, hlarge]
      rfl

theorem returns_optionalFloat_iff (payload : Entries F) (keys : List String) :
    Returns (optionalFloat rt payload keys) ↔ outOfRange rt payload keys = false := by
  induction keys with
  | nil => exact iff_of_true (returns_ok none) rfl
  | cons key rest ih =>
    rw [optionalFloat_cons, outOfRange]
    cases htoo : tooLarge (getValue payload key) with
    | true => exact iff_of_false (not_returns_error _) (by simp)
    | false =>
      cases hnumber : numberOf rt (getValue payload key) with
      | some x => exact iff_of_true (returns_ok _) rfl
      | none => simpa using ih

theorem optionalFloat_one {payload : Entries F} {key : String}
    (h : tooLarge (getValue payload key) = false) :
    optionalFloat rt payload [key] = .ok (numberOf rt (getValue payload key)) := by
  rw [optionalFloat_cons, h]
  cases numberOf rt (getValue payload key) with
  | some x => rfl
  | none => rfl

theorem returns_optionalFloat_one_iff (payload : Entries F) (key : String) :
    Returns (optionalFloat rt payload [key]) ↔ tooLarge (getValue payload key) = false := by
  rw [returns_optionalFloat_iff]
  simp [outOfRange]

theorem eq_numberOf_of_optionalFloat {payload : Entries F} {key : String} {x : Option F}
    (h : optionalFloat rt payload [key] = .ok x) : x = numberOf rt (getValue payload key) := by
  have hsmall := (returns_optionalFloat_one_iff payload key).mp ⟨x, h⟩
  rw [optionalFloat_one hsmall] at h
  cases h
  rfl

/-! ### Reports that are read -/

theorem returns_optionalFloat_bind_iff {α : Type} {payload : Entries F} {keys : List String}
    {f : Option F → Except PyException α} {P : Prop} (hf : ∀ x, Returns (f x) ↔ P) :
    Returns (optionalFloat rt payload keys >>= f) ↔ outOfRange rt payload keys = false ∧ P := by
  rw [returns_bind_iff_and hf, returns_optionalFloat_iff]

theorem returns_optionalFloat_one_bind_iff {α : Type} {payload : Entries F} {key : String}
    {f : Option F → Except PyException α} {P : Prop} (hf : ∀ x, Returns (f x) ↔ P) :
    Returns (optionalFloat rt payload [key] >>= f) ↔
      tooLarge (getValue payload key) = false ∧ P := by
  rw [returns_bind_iff_and hf, returns_optionalFloat_one_iff]

theorem returns_classifyGnssId_iff (v : Value F) :
    Returns (classifyGnssId v) ↔ hashable v = true := by
  rw [classifyGnssId]
  cases hashable v with
  | true => exact iff_of_true (returns_ok _) rfl
  | false => exact iff_of_false (not_returns_error _) nofun

theorem returns_readFix_iff (mode : Int) (payload : Entries F) :
    Returns (readFix rt mode payload) ↔
      ∀ keys ∈ FIX_FIELDS, outOfRange rt payload keys = false := by
  rw [readFix, FIX_FIELDS]
  simp only [List.forall_mem_cons]
  -- one field after the other
  iterate 8 refine returns_optionalFloat_bind_iff fun _ => ?_
  exact iff_of_true (returns_ok _) (fun keys hkeys => nomatch hkeys)

theorem position_of_readFix {mode : Int} {payload : Entries F} {fix : LocationFix F D}
    (h : readFix rt mode payload = .ok fix) :
    fix.latitude = numberOf rt (getValue payload "lat") ∧
      fix.longitude = numberOf rt (getValue payload "lon") := by
  rw [readFix] at h
  obtain ⟨latitude, hlat, h⟩ := bind_eq_ok_iff.mp h
  obtain ⟨longitude, hlon, h⟩ := bind_eq_ok_iff.mp h
  iterate 6 obtain ⟨_, -, h⟩ := bind_eq_ok_iff.mp h
  cases h
  exact ⟨eq_numberOf_of_optionalFloat hlat, eq_numberOf_of_optionalFloat hlon⟩

theorem returns_readSatellite_iff (v : Value F) :
    Returns (readSatellite rt v) ↔ SatelliteInOrder v := by
  cases v with
  | dict entry =>
    rw [readSatellite, SatelliteInOrder]
    simp only [List.forall_mem_cons, and_assoc]
    refine returns_bind_iff_and fun _ => ?_
    iterate 3 refine returns_optionalFloat_one_bind_iff fun _ => ?_
    refine (returns_bind_iff_and (P := True) fun _ => iff_of_true ⟨_, rfl⟩ trivial).trans ?_
    rw [returns_classifyGnssId_iff, and_iff_left trivial]
    exact (and_iff_right (List.forall_mem_nil _)).symm
  | _ => exact iff_of_false (not_returns_error _) id

theorem iterate_in_order_iff {raw : Value F} (htruthy : truthy raw = true) :
    (∃ entries, iterate raw = .ok entries ∧ ∀ v ∈ entries, SatelliteInOrder v) ↔
      ∃ vs, raw = .list vs ∧ ∀ v ∈ items vs, SatelliteInOrder v := by
  constructor
  · rintro ⟨entries, hentries, hall⟩
    cases raw with
    | list vs =>
      cases hentries
      exact ⟨vs, rfl, hall⟩
    | dict es =>
      cases es with
      | nil => cases htruthy
      | cons k v rest =>
        cases hentries
        exact (hall (.str k) List.mem_cons_self).elim
    | str s =>
      cases hentries
      cases hchars : s.toList with
      | nil =>
        rw [String.toList_eq_nil_iff.mp hchars] at htruthy
        exact absurd htruthy (by simp [truthy])
      | cons c cs =>
        rw [hchars] at hall
        exact (hall (.str (String.singleton c)) List.mem_cons_self).elim
    | _ => cases hentries
  · rintro ⟨vs, rfl, hall⟩
    exact ⟨items vs, rfl, hall⟩

variable (rt) in
theorem returns_readSatellites_iff (payload : Entries F) :
    Returns (readSatellites rt payload) ↔
      ∀ raw, payload.get? "satellites" = some raw → truthy raw = true →
        ∃ vs, raw = .list vs ∧ ∀ v ∈ items vs, SatelliteInOrder v := by
  rw [readSatellites]
  cases hget : payload.get? "satellites" with
  | none => exact iff_of_true (returns_ok _) (fun raw hraw => nomatch hraw)
  | some raw =>
    have hread : ∀ entries : List (Value F),
        Returns (do
          let sats ← entries.mapM (readSatellite rt)
          return some (SatellitesView.fromSatellites sats)) ↔
          ∀ v ∈ entries, SatelliteInOrder v := by
      intro entries
      refine (returns_bind_iff_and (P := True) fun _ => iff_of_true ⟨_, rfl⟩ trivial).trans ?_
      rw [and_iff_left trivial, returns_mapM_iff]
      simp only [returns_readSatellite_iff]
    refine returns_bind_iff.trans ?_
    simp only [hread, valueOr]
    cases htruthy : truthy raw with
    | false =>
      refine iff_of_true ⟨[], rfl, fun v hv => nomatch hv⟩ ?_
      rintro raw' ⟨⟩ htruthy'
      rw [htruthy] at htruthy'
      cases htruthy'
    | true =>
      rw [if_pos rfl, iterate_in_order_iff htruthy]
      constructor
      · rintro h raw' ⟨⟩ -
        exact h
      · intro h
        exact h raw rfl htruthy

theorem loweredText_of_text {device : Entries F}
    (h : truthy (getValue device "driver") = true → ∃ s, getValue device "driver" = .str s) :
    loweredText rt (getValue device "driver") = .ok (rt.lower (driverText device)) := by
  rw [loweredText, valueOr, driverText]
  cases htruthy : truthy (getValue device "driver") with
  | true =>
    obtain ⟨s, hs⟩ := h htruthy
    rw [hs]
    rfl
  | false =>
    cases hdriver : getValue device "driver" with
    | str s =>
      rw [hdriver] at htruthy
      have hempty : s = "" := by simpa [truthy] using htruthy
      rw [hempty]
      rfl
    | _ => rfl

theorem text_of_returns_loweredText {v : Value F} (h : Returns (loweredText rt v))
    (htruthy : truthy v = true) : ∃ s, v = .str s := by
  rw [loweredText, valueOr, htruthy, if_pos rfl] at h
  cases v with
  | str s => exact ⟨s, rfl⟩
  | _ => exact absurd h (not_returns_error _)

omit [StationFloat F] in
theorem returns_ubloxModel_iff (v : Value F) :
    Returns (ubloxModel rt v) ↔ SubtypeInOrder v := by
  cases v with
  | str s => exact iff_of_true (returns_ok _) trivial
  | list vs =>
    have hany : ((items vs).any fun v => match v with
          | .str s => s = "PROTVER 18"
          | _ => false) = true ↔ .str "PROTVER 18" ∈ items vs := by
      rw [List.any_eq_true]
      constructor
      · rintro ⟨v, hv, htext⟩
        cases v with
        | str s => rwa [of_decide_eq_true htext] at hv
        | _ => cases htext
      · intro hmem
        exact ⟨_, hmem, by simp⟩
    rw [ubloxModel, SubtypeInOrder, ← hany]
    split
    · rename_i h
      exact iff_of_true (returns_ok _) h
    · rename_i h
      exact iff_of_false (not_returns_error _) h
  | dict es =>
    rw [ubloxModel, SubtypeInOrder]
    split
    · rename_i h
      exact iff_of_true (returns_ok _) h
    · rename_i h
      exact iff_of_false (not_returns_error _) h
  | _ => exact iff_of_false (not_returns_error _) id

theorem returns_guessDeviceModel_iff (device : Entries F) :
    Returns (guessDeviceModel rt device) ↔ DeviceInOrder rt (.dict device) := by
  rw [guessDeviceModel, DeviceInOrder]
  constructor
  · intro h
    have htext := text_of_returns_loweredText (returns_bind_iff.mp h |>.imp fun _ h => h.1)
    refine ⟨htext, ?_⟩
    intro hublox htruthy
    rw [loweredText_of_text htext] at h
    rw [isUblox] at hublox
    have hmodel : Returns (ubloxModel rt (valueOr (getValue device "subtype") (.str ""))) := by
      rw [← returns_map_iff (f := some)]
      simpa only [bind, Except.bind, hublox, if_true] using h
    rw [valueOr, htruthy, if_pos rfl, returns_ubloxModel_iff] at hmodel
    exact hmodel
  · rintro ⟨htext, hsubtype⟩
    rw [loweredText_of_text htext]
    refine returns_bind_iff.mpr ⟨_, rfl, ?_⟩
    split
    · rename_i hublox
      rw [returns_map_iff, returns_ubloxModel_iff, valueOr]
      split
      · rename_i htruthy
        exact hsubtype hublox htruthy
      · trivial
    · exact returns_ok _

theorem returns_readDevice_iff (v : Value F) :
    Returns (readDevice rt v) ↔ DeviceInOrder rt v := by
  cases v with
  | dict device =>
    rw [readDevice, ← returns_guessDeviceModel_iff]
    refine (returns_bind_iff_and (P := True) fun _ => iff_of_true ⟨_, rfl⟩ trivial).trans ?_
    rw [and_iff_left trivial]
  | _ => exact iff_of_false (not_returns_error _) id

theorem returns_readDevices_iff (payload : Entries F) :
    Returns (readDevices rt payload) ↔ DevicesInOrder rt payload := by
  rw [readDevices, DevicesInOrder, valueOr]
  cases htruthy : truthy (getValue payload "devices") with
  | false => exact iff_of_true (returns_ok _) nofun
  | true =>
    simp only [if_true, forall_const]
    cases hdevices : getValue payload "devices" with
    | list vs =>
      cases vs with
      | nil =>
        rw [hdevices] at htruthy
        cases htruthy
      | cons first rest =>
        change Returns (some <$> readDevice rt first) ↔ _
        rw [returns_map_iff, returns_readDevice_iff]
        constructor
        · intro h
          exact ⟨first, rest, rfl, h⟩
        · rintro ⟨first', rest', heq, h⟩
          cases heq
          exact h
    | _ =>
      refine iff_of_false (not_returns_error _) ?_
      rintro ⟨first, rest, h, -⟩
      cases h

/-! ### TPV reports -/

def Carries (s : State F D) : Prop :=
  ∀ fix, s.latestFix = some fix → ∀ key x, s.latestDop key = some x → dopOf fix key = some x

variable (rt) in
/-- What a TPV report does: it raises, becomes a bare fix at most, or becomes the fix. -/
theorem handleTpv_cases (minFixQuality : Int) (payload : Entries F) (s : State F D) :
    ((handleTpv rt minFixQuality payload s).1 = none ∧
      ¬ ∃ mode, intOf (getOr payload "mode" (.int 0)) = .ok mode ∧
        (minFixQuality ≤ mode → Returns (readFix rt mode payload))) ∨
    (∃ mode, intOf (getOr payload "mode" (.int 0)) = .ok mode ∧ mode < minFixQuality ∧
      handleTpv rt minFixQuality payload s = (some (), promote mode s)) ∨
    (∃ mode fix, intOf (getOr payload "mode" (.int 0)) = .ok mode ∧ minFixQuality ≤ mode ∧
      readFix rt mode payload = .ok fix ∧
      handleTpv rt minFixQuality payload s = (some (), hold fix s)) := by
  cases hmode : intOf (getOr payload "mode" (.int 0)) with
  | error e =>
    refine .inl ⟨?_, ?_⟩
    · rw [handleTpv, hmode, lift_error_bind]
    · rintro ⟨mode, h, -⟩
      cases h
  | ok mode =>
    by_cases hlow : mode < minFixQuality
    · refine .inr (.inl ⟨mode, rfl, hlow, ?_⟩)
      rw [handleTpv, hmode, lift_ok_bind, if_pos hlow, act_apply]
    · have hhigh : minFixQuality ≤ mode := Int.not_lt.mp hlow
      cases hfix : readFix rt mode payload with
      | error e =>
        refine .inl ⟨?_, ?_⟩
        · rw [handleTpv, hmode, lift_ok_bind, if_neg hlow, hfix, lift_error_bind]
        · rintro ⟨mode', h, hreturns⟩
          cases h
          rw [hfix] at hreturns
          exact not_returns_error e (hreturns hhigh)
      | ok fix =>
        refine .inr (.inr ⟨mode, fix, rfl, hhigh, hfix, ?_⟩)
        rw [handleTpv, hmode, lift_ok_bind, if_neg hlow, hfix, lift_ok_bind, act_apply]

omit [StationFloat F] in
theorem latestFix_hold (fix : LocationFix F D) (s : State F D) :
    ∃ held, (hold fix s).latestFix = some held ∧ dopOf held = s.latestDop ∧
      held.latitude = fix.latitude ∧ held.longitude = fix.longitude := by
  refine ⟨_, rfl, ?_, rfl, rfl⟩
  funext key
  cases key with
  | hdop => rfl
  | pdop => rfl
  | vdop => rfl

theorem tpvInOrder_iff {minFixQuality : Int} {s : State F D} {payload : Entries F} {mode : Int}
    (hmode : intOf (getOr payload "mode" (.int 0)) = .ok mode) :
    TpvInOrder rt minFixQuality s payload ↔
      (mode < minFixQuality → s.latestFix = none → ∀ key, s.latestDop key = none) ∧
      (minFixQuality ≤ mode → Returns (readFix rt mode payload) ∧
        (HasCoordinates s.latestFix →
          (numberOf rt (getValue payload "lat")).isSome = true ∧
            (numberOf rt (getValue payload "lon")).isSome = true)) := by
  rw [returns_readFix_iff]
  constructor
  · rintro ⟨mode', hmode', h⟩
    rw [hmode] at hmode'
    cases hmode'
    exact h
  · intro h
    exact ⟨mode, hmode, h⟩

omit [StationFloat F] in
/-- A report below the required quality is in order where a fix is held or nothing is cached. -/
theorem promote_iff {mode : Int} {s : State F D} (hs : Carries s) :
    ((HasCoordinates s.latestFix → HasCoordinates (promote mode s).latestFix) ∧
        HoldsDop (promote mode s) s.latestDop) ↔
      (s.latestFix = none → ∀ key, s.latestDop key = none) := by
  rw [promote]
  cases hfix : s.latestFix with
  | none =>
    constructor
    · rintro ⟨-, hdop⟩ - key
      rw [Option.eq_none_iff_forall_ne_some]
      intro x hx
      obtain ⟨fix, heq, hfix'⟩ := hdop key x hx
      cases heq
      cases key <;> cases hfix'
    · intro h
      constructor
      · rintro ⟨fix, heq, -⟩
        cases heq
      · intro key x hx
        rw [h rfl key] at hx
        cases hx
  | some fix =>
    refine iff_of_true ⟨?_, ?_⟩ nofun
    · intro h
      rwa [← hfix] at h
    · intro key x hx
      exact ⟨fix, hfix, hs fix hfix key x hx⟩

theorem hold_iff {mode : Int} {payload : Entries F} {fix : LocationFix F D} {s : State F D}
    (hfix : readFix rt mode payload = .ok fix) :
    ((HasCoordinates s.latestFix → HasCoordinates (hold fix s).latestFix) ∧
        HoldsDop (hold fix s) s.latestDop) ↔
      (HasCoordinates s.latestFix →
        (numberOf rt (getValue payload "lat")).isSome = true ∧
          (numberOf rt (getValue payload "lon")).isSome = true) := by
  obtain ⟨held, hheld, hdop, hlat, hlon⟩ := latestFix_hold fix s
  obtain ⟨hlat', hlon'⟩ := position_of_readFix hfix
  rw [← hlat', ← hlon', ← hlat, ← hlon]
  have hcoordinates : HasCoordinates (hold fix s).latestFix ↔
      held.latitude.isSome = true ∧ held.longitude.isSome = true := by
    rw [hheld]
    constructor
    · rintro ⟨fix', heq, h⟩
      cases heq
      exact h
    · intro h
      exact ⟨held, rfl, h⟩
  rw [hcoordinates, and_iff_left_iff_imp]
  intro _ key x hx
  exact ⟨held, hheld, by rw [hdop, hx]⟩

theorem handleTpv_iff {minFixQuality : Int} {payload : Entries F} {s : State F D}
    (hs : Carries s) :
    ((handleTpv rt minFixQuality payload s).1.isSome = true ∧
        (HasCoordinates s.latestFix →
          HasCoordinates (handleTpv rt minFixQuality payload s).2.latestFix) ∧
        HoldsDop (handleTpv rt minFixQuality payload s).2 s.latestDop) ↔
      TpvInOrder rt minFixQuality s payload := by
  obtain ⟨hnone, hraises⟩ | ⟨mode, hmode, hlow, hrun⟩ | ⟨mode, fix, hmode, hhigh, hfix, hrun⟩ :=
    handleTpv_cases rt minFixQuality payload s
  · rw [hnone]
    refine iff_of_false (fun h => nomatch h.1) ?_
    rintro ⟨mode, hmode, -, hread⟩
    refine hraises ⟨mode, hmode, ?_⟩
    intro hhigh
    exact (returns_readFix_iff mode payload).mpr (hread hhigh).1
  · rw [hrun, tpvInOrder_iff hmode]
    simp only [Option.isSome_some, true_and, hlow, true_imp_iff, Int.not_le.mpr hlow,
      false_imp_iff, and_true]
    exact promote_iff hs
  · rw [hrun, tpvInOrder_iff hmode]
    simp only [Option.isSome_some, true_and, hhigh, true_imp_iff, Int.not_lt.mpr hhigh,
      false_imp_iff]
    have hread : Returns (readFix rt mode payload) := ⟨fix, hfix⟩
    rw [and_iff_right hread]
    exact hold_iff hfix

/-! ### SKY reports -/

variable (rt) in
def afterSky (view : Option (SatellitesView F)) (payload : Entries F) (s : State F D) :
    State F D :=
  mergeDop (cacheValue .vdop (numberOf rt (getValue payload "vdop"))
    (cacheValue .pdop (numberOf rt (getValue payload "pdop"))
      (cacheValue .hdop (numberOf rt (getValue payload "hdop")) (keepSatellites view s))))

theorem cacheDop_of_small {payload : Entries F} {key : DopKey} (s : State F D)
    (h : tooLarge (getValue payload key.name) = false) :
    cacheDop rt payload key s =
      (some (), cacheValue key (numberOf rt (getValue payload key.name)) s) := by
  rw [cacheDop, optionalFloat_one h, lift_ok_bind, act_apply]

theorem cacheDop_of_tooLarge {payload : Entries F} {key : DopKey} (s : State F D)
    (h : tooLarge (getValue payload key.name) = true) :
    cacheDop rt payload key s = (none, s) := by
  rw [cacheDop, optionalFloat_cons, h, if_pos rfl, lift_error_bind]

theorem forall_dopKey {P : DopKey → Prop} : (∀ key, P key) ↔ P .hdop ∧ P .pdop ∧ P .vdop := by
  constructor
  · intro h
    exact ⟨h .hdop, h .pdop, h .vdop⟩
  · rintro ⟨hhdop, hpdop, hvdop⟩ key
    cases key with
    | hdop => exact hhdop
    | pdop => exact hpdop
    | vdop => exact hvdop

variable (rt) in
theorem handleSky_cases (payload : Entries F) (s : State F D) :
    ((handleSky rt payload s).1 = none ∧ ¬ SkyInOrder payload) ∨
    ∃ view, SkyInOrder payload ∧
      handleSky rt payload s = (some (), afterSky rt view payload s) := by
  rw [SkyInOrder, ← returns_readSatellites_iff rt, forall_dopKey]
  cases hview : readSatellites rt payload with
  | error e =>
    refine .inl ⟨?_, fun h => not_returns_error e h.1⟩
    rw [handleSky, hview, lift_error_bind]
  | ok view =>
    rw [handleSky, hview, lift_ok_bind, act_bind]
    cases hhdop : tooLarge (getValue payload DopKey.hdop.name) with
    | true =>
      refine .inl ⟨?_, fun h => nomatch h.2.1⟩
      rw [bind_apply_none (cacheDop_of_tooLarge _ hhdop)]
    | false =>
      rw [bind_apply_some (cacheDop_of_small _ hhdop)]
      cases hpdop : tooLarge (getValue payload DopKey.pdop.name) with
      | true =>
        refine .inl ⟨?_, fun h => nomatch h.2.2.1⟩
        rw [bind_apply_none (cacheDop_of_tooLarge _ hpdop)]
      | false =>
        rw [bind_apply_some (cacheDop_of_small _ hpdop)]
        cases hvdop : tooLarge (getValue payload DopKey.vdop.name) with
        | true =>
          refine .inl ⟨?_, fun h => nomatch h.2.2.2⟩
          rw [bind_apply_none (cacheDop_of_tooLarge _ hvdop)]
        | false =>
          rw [bind_apply_some (cacheDop_of_small _ hvdop)]
          exact .inr ⟨view, ⟨returns_ok view, rfl, rfl, rfl⟩, rfl⟩

section Sky

omit [StationFloat F]

@[simp] theorem latestFix_cacheValue (key : DopKey) (value : Option F) (s : State F D) :
    (cacheValue key value s).latestFix = s.latestFix := by
  cases value with
  | none => rfl
  | some x => rfl

theorem latestDop_cacheValue (key : DopKey) (value : Option F) (s : State F D) (k : DopKey) :
    (cacheValue key value s).latestDop k =
      if k = key then value.or (s.latestDop key) else s.latestDop k := by
  cases value with
  | none =>
    split
    · rename_i h
      rw [h]
      rfl
    · rfl
  | some x => exact Function.update_apply s.latestDop key (some x) k

@[simp] theorem latestFix_keepSatellites (view : Option (SatellitesView F)) (s : State F D) :
    (keepSatellites view s).latestFix = s.latestFix := by
  cases view with
  | none => rfl
  | some view => rfl

@[simp] theorem latestDop_keepSatellites (view : Option (SatellitesView F)) (s : State F D) :
    (keepSatellites view s).latestDop = s.latestDop := by
  cases view with
  | none => rfl
  | some view => rfl

@[simp] theorem latestDop_mergeDop (s : State F D) : (mergeDop s).latestDop = s.latestDop := by
  rw [mergeDop]
  split
  · rfl
  · split
    · rfl
    · rfl

theorem hasCoordinates_mergeDop {s : State F D} (h : HasCoordinates s.latestFix) :
    HasCoordinates (mergeDop s).latestFix := by
  obtain ⟨fix, hfix, hposition⟩ := h
  rw [mergeDop, hfix]
  dsimp only
  split
  · exact ⟨_, rfl, hposition⟩
  · exact ⟨fix, hfix, hposition⟩

theorem cached_eq_true_of_some {dop : Dop F} {key : DopKey} {x : F} (h : dop key = some x) :
    dop.cached = true := by
  cases key <;> simp [Dop.cached, h]

theorem carries_mergeDop (s : State F D) : Carries (mergeDop s) := by
  intro held hheld key x hx
  rw [latestDop_mergeDop] at hx
  rw [mergeDop] at hheld
  split at hheld
  · rename_i hnone
    rw [hnone] at hheld
    cases hheld
  · rw [if_pos (cached_eq_true_of_some hx)] at hheld
    cases hheld
    cases key <;> simp [dopOf, hx]

end Sky

variable (rt) in
theorem latestDop_afterSky (view : Option (SatellitesView F)) (payload : Entries F)
    (s : State F D) (key : DopKey) :
    (afterSky rt view payload s).latestDop key =
      (numberOf rt (getValue payload key.name)).or (s.latestDop key) := by
  cases key <;> simp [afterSky, latestDop_cacheValue, DopKey.name]

theorem handleSky_iff {payload : Entries F} {s : State F D} :
    ((handleSky rt payload s).1.isSome = true ∧
        (HasCoordinates s.latestFix → HasCoordinates (handleSky rt payload s).2.latestFix)) ↔
      SkyInOrder payload := by
  obtain ⟨hnone, hnot⟩ | ⟨view, horder, hrun⟩ := handleSky_cases rt payload s
  · rw [hnone]
    exact iff_of_false (fun h => nomatch h.1) hnot
  · rw [hrun]
    refine iff_of_true ⟨rfl, ?_⟩ horder
    intro h
    apply hasCoordinates_mergeDop
    simpa using h

theorem handleDevices_iff {payload : Entries F} {s : State F D} :
    ((handleDevices rt payload s).1.isSome = true ∧
        (HasCoordinates s.latestFix → HasCoordinates (handleDevices rt payload s).2.latestFix)) ↔
      DevicesInOrder rt payload := by
  rw [← returns_readDevices_iff, handleDevices]
  cases readDevices rt payload with
  | error e => exact iff_of_false (fun h => nomatch h.1) (not_returns_error e)
  | ok device => exact iff_of_true ⟨rfl, id⟩ (returns_ok device)

/-! ### One line -/

omit [StationFloat F] in
theorem isClass_unique {name name' : String} {payload : Entries F}
    (h : isClass name payload = true) (hne : name ≠ name') : isClass name' payload = false := by
  rw [isClass] at h ⊢
  cases hkind : getValue payload "class" with
  | str kind =>
    rw [hkind] at h
    refine decide_eq_false ?_
    intro h'
    exact hne ((of_decide_eq_true h).symm.trans h')
  | _ => rfl

omit [StationFloat F] in
theorem isClass_cases (payload : Entries F) :
    (isClass "TPV" payload = true ∧ isClass "SKY" payload = false ∧
      isClass "DEVICES" payload = false) ∨
    (isClass "TPV" payload = false ∧ isClass "SKY" payload = true ∧
      isClass "DEVICES" payload = false) ∨
    (isClass "TPV" payload = false ∧ isClass "SKY" payload = false ∧
      isClass "DEVICES" payload = true) ∨
    (isClass "TPV" payload = false ∧ isClass "SKY" payload = false ∧
      isClass "DEVICES" payload = false) := by
  cases htpv : isClass "TPV" payload with
  | true => exact .inl ⟨rfl, isClass_unique htpv (by decide), isClass_unique htpv (by decide)⟩
  | false =>
    cases hsky : isClass "SKY" payload with
    | true => exact .inr (.inl ⟨rfl, rfl, isClass_unique hsky (by decide)⟩)
    | false =>
      cases hdevices : isClass "DEVICES" payload with
      | true => exact .inr (.inr (.inl ⟨rfl, rfl, rfl⟩))
      | false => exact .inr (.inr (.inr ⟨rfl, rfl, rfl⟩))

theorem handleLine_of_dict (minFixQuality : Int) {line : Line D} {payload : Entries F}
    (hload : parsed rt line.text = .value (.dict payload)) (s : State F D) :
    (handleLine rt minFixQuality line.now line.text s).1 =
        (handleReport rt minFixQuality payload s).1 ∧
      (after rt minFixQuality s line).latestFix =
        (handleReport rt minFixQuality payload s).2.latestFix ∧
      (after rt minFixQuality s line).latestDop =
        (handleReport rt minFixQuality payload s).2.latestDop := by
  rw [after, handleLine, hload]
  dsimp only
  cases hrun : handleReport rt minFixQuality payload s with
  | mk result s' =>
    cases result with
    | none =>
      rw [bind_apply_none hrun]
      exact ⟨rfl, rfl, rfl⟩
    | some u =>
      rw [bind_apply_some hrun]
      exact ⟨rfl, rfl, rfl⟩

omit [StationFloat F] in
theorem holdsDop_congr {s s' : State F D} {seen : Dop F} (h : s.latestFix = s'.latestFix) :
    HoldsDop s seen ↔ HoldsDop s' seen := by
  rw [HoldsDop, HoldsDop, h]

theorem handled_of_dict_iff {minFixQuality : Int} {s : State F D} {seen : Dop F}
    {line : Line D} {payload : Entries F} (hload : parsed rt line.text = .value (.dict payload)) :
    Handled rt minFixQuality s seen line ↔
      (handleReport rt minFixQuality payload s).1.isSome = true ∧
      (HasCoordinates s.latestFix →
        HasCoordinates (handleReport rt minFixQuality payload s).2.latestFix) ∧
      (isClass "TPV" payload = true →
        HoldsDop (handleReport rt minFixQuality payload s).2 seen) := by
  obtain ⟨hresult, hfix, -⟩ := handleLine_of_dict minFixQuality hload s
  constructor
  · intro h
    refine ⟨hresult ▸ h.returns, ?_, ?_⟩
    · intro hheld
      rw [← hfix]
      exact h.coordinates hheld
    · intro htpv
      exact (holdsDop_congr hfix).mp (h.dop payload hload htpv)
  · rintro ⟨hreturns, hcoordinates, hdop⟩
    refine ⟨hresult ▸ hreturns, ?_, ?_, ?_⟩
    · intro hmalformed
      rw [hload] at hmalformed
      cases hmalformed
    · intro hheld
      rw [hfix]
      exact hcoordinates hheld
    · intro payload' hload' htpv
      rw [hload] at hload'
      cases hload'
      exact (holdsDop_congr hfix).mpr (hdop htpv)

theorem handleReport_iff {minFixQuality : Int} {s : State F D} {payload : Entries F}
    (hs : Carries s) :
    ((handleReport rt minFixQuality payload s).1.isSome = true ∧
        (HasCoordinates s.latestFix →
          HasCoordinates (handleReport rt minFixQuality payload s).2.latestFix) ∧
        (isClass "TPV" payload = true →
          HoldsDop (handleReport rt minFixQuality payload s).2 s.latestDop)) ↔
      (isClass "TPV" payload = true → TpvInOrder rt minFixQuality s payload) ∧
      (isClass "SKY" payload = true → SkyInOrder payload) ∧
      (isClass "DEVICES" payload = true → DevicesInOrder rt payload) := by
  rw [handleReport]
  obtain ⟨htpv, hsky, hdevices⟩ | ⟨htpv, hsky, hdevices⟩ | ⟨htpv, hsky, hdevices⟩ |
    ⟨htpv, hsky, hdevices⟩ := isClass_cases payload
  · simp only [htpv, hsky, hdevices, if_true, Bool.false_eq_true, true_imp_iff, false_imp_iff,
      and_true]
    exact handleTpv_iff hs
  · simp only [htpv, hsky, hdevices, if_true, if_false, Bool.false_eq_true, true_imp_iff,
      false_imp_iff, and_true, true_and]
    exact handleSky_iff
  · simp only [htpv, hsky, hdevices, if_true, if_false, Bool.false_eq_true, true_imp_iff,
      false_imp_iff, and_true, true_and]
    exact handleDevices_iff
  · simp only [htpv, hsky, hdevices, if_false, Bool.false_eq_true, false_imp_iff, and_true]
    exact iff_of_true ⟨rfl, id⟩ trivial

theorem handled_iff {minFixQuality : Int} {s : State F D} {line : Line D} (hs : Carries s) :
    Handled rt minFixQuality s s.latestDop line ↔ LineInOrder rt minFixQuality s line.text := by
  rw [LineInOrder]
  have hraises : (∃ e, parsed rt line.text = .refused e) ∨
      (∃ v, parsed rt line.text = .value v ∧ ∀ es, v ≠ .dict es) →
      ¬ Handled rt minFixQuality s s.latestDop line := by
    intro h hhandled
    have hreturns := hhandled.returns
    rw [handleLine] at hreturns
    obtain ⟨e, he⟩ | ⟨v, hv, hdict⟩ := h
    · rw [he] at hreturns
      cases hreturns
    · rw [hv] at hreturns
      cases v with
      | dict es => exact hdict es rfl
      | _ => cases hreturns
  cases hload : parsed rt line.text with
  | malformed =>
    have hrun : handleLine rt minFixQuality line.now line.text s = (some (), s) := by
      rw [handleLine, hload]
      rfl
    refine iff_of_true ⟨?_, ?_, ?_, ?_⟩ trivial
    · rw [hrun]
      rfl
    · intro _
      rw [after, hrun]
    · intro h
      rw [after, hrun]
      exact h
    · intro payload h
      rw [hload] at h
      cases h
  | refused e => exact iff_of_false (hraises (.inl ⟨e, hload⟩)) id
  | value v =>
    cases v with
    | dict payload => exact (handled_of_dict_iff hload).trans (handleReport_iff hs)
    | _ => exact iff_of_false (hraises (.inr ⟨_, hload, nofun⟩)) id

/-! ### Streams -/

theorem latestDop_handleTpv {minFixQuality : Int} {payload : Entries F} {s : State F D}
    (h : (handleTpv rt minFixQuality payload s).1.isSome = true) :
    (handleTpv rt minFixQuality payload s).2.latestDop = s.latestDop := by
  obtain ⟨hnone, -⟩ | ⟨mode, -, -, hrun⟩ | ⟨mode, fix, -, -, -, hrun⟩ :=
    handleTpv_cases rt minFixQuality payload s
  · rw [hnone] at h
    cases h
  · rw [hrun]
    dsimp only [promote]
    split
    · rfl
    · rfl
  · rw [hrun]
    rfl

/-- A report that is handled as it should be leaves a fix with the cached values, and these are
    the ones seen last. -/
theorem carries_handleReport {minFixQuality : Int} {s : State F D} {payload : Entries F}
    (hs : Carries s) (hreturns : (handleReport rt minFixQuality payload s).1.isSome = true)
    (hdop : isClass "TPV" payload = true →
      HoldsDop (handleReport rt minFixQuality payload s).2 s.latestDop) :
    Carries (handleReport rt minFixQuality payload s).2 ∧
      (handleReport rt minFixQuality payload s).2.latestDop =
        if isClass "SKY" payload then
          fun key => (numberOf rt (getValue payload key.name)).or (s.latestDop key)
        else s.latestDop := by
  rw [handleReport] at hreturns hdop ⊢
  obtain ⟨htpv, hsky, hdevices⟩ | ⟨htpv, hsky, hdevices⟩ | ⟨htpv, hsky, hdevices⟩ |
    ⟨htpv, hsky, hdevices⟩ := isClass_cases payload
  · simp only [htpv, hsky, if_true, Bool.false_eq_true, if_false, true_imp_iff] at hreturns hdop ⊢
    have hcached := latestDop_handleTpv hreturns
    refine ⟨?_, hcached⟩
    intro fix hfix key x hx
    rw [hcached] at hx
    obtain ⟨fix', hfix', hx'⟩ := hdop key x hx
    rw [hfix] at hfix'
    cases hfix'
    exact hx'
  · simp only [htpv, hsky, if_true, Bool.false_eq_true, if_false] at hreturns ⊢
    obtain ⟨hnone, -⟩ | ⟨view, -, hrun⟩ := handleSky_cases rt payload s
    · rw [hnone] at hreturns
      cases hreturns
    · rw [hrun]
      exact ⟨carries_mergeDop _, funext fun key => latestDop_afterSky rt view payload s key⟩
  · simp only [htpv, hsky, hdevices, if_true, Bool.false_eq_true, if_false] at hreturns ⊢
    rw [handleDevices] at hreturns ⊢
    cases hread : readDevices rt payload with
    | error e =>
      rw [hread] at hreturns
      cases hreturns
    | ok device => exact ⟨hs, rfl⟩
  · simp only [htpv, hsky, hdevices, Bool.false_eq_true, if_false]
    exact ⟨hs, rfl⟩

theorem carries_after {minFixQuality : Int} {s : State F D} {line : Line D} (hs : Carries s)
    (h : Handled rt minFixQuality s s.latestDop line) :
    Carries (after rt minFixQuality s line) ∧
      (after rt minFixQuality s line).latestDop = seenAfter rt s.latestDop line.text := by
  have horder := (handled_iff hs).mp h
  rw [LineInOrder] at horder
  rw [seenAfter]
  cases hload : parsed rt line.text with
  | malformed =>
    rw [h.malformed hload]
    exact ⟨hs, rfl⟩
  | refused e =>
    rw [hload] at horder
    exact horder.elim
  | value v =>
    cases v with
    | dict payload =>
      obtain ⟨-, hfix, hcached⟩ := handleLine_of_dict minFixQuality hload s
      obtain ⟨hreturns, -, hdop⟩ := (handled_of_dict_iff hload).mp h
      obtain ⟨hcarries, hseen⟩ := carries_handleReport hs hreturns hdop
      refine ⟨?_, hcached.trans hseen⟩
      intro fix hheld key x hx
      rw [hfix] at hheld
      rw [hcached] at hx
      exact hcarries fix hheld key x hx
    | _ =>
      rw [hload] at horder
      exact horder.elim

theorem handledAll_iff_of_carries {minFixQuality : Int} {s : State F D} (hs : Carries s)
    (lines : List (Line D)) :
    HandledAll rt minFixQuality s s.latestDop lines ↔ AllInOrder rt minFixQuality s lines := by
  induction lines generalizing s with
  | nil => exact Iff.rfl
  | cons line rest ih =>
    rw [HandledAll, AllInOrder, ← handled_iff hs]
    constructor
    · rintro ⟨hline, hrest⟩
      obtain ⟨hcarries, hseen⟩ := carries_after hs hline
      rw [← hseen] at hrest
      exact ⟨hline, (ih hcarries).mp hrest⟩
    · rintro ⟨hline, hrest⟩
      obtain ⟨hcarries, hseen⟩ := carries_after hs hline
      refine ⟨hline, ?_⟩
      rw [← hseen]
      exact (ih hcarries).mpr hrest

end

/-- The lines of a stream are handled as they should be, from the start of the source, exactly
    when each is in order in the state it is handled in. -/
theorem handledAll_iff {F D : Type} [StationFloat F] (rt : GpsdRuntime F D) (minFixQuality : Int)
    (lines : List (Line D)) :
    HandledAll rt minFixQuality {} Dop.empty lines ↔ AllInOrder rt minFixQuality {} lines := by
  apply handledAll_iff_of_carries
  intro fix hfix
  cases hfix

def fixReport : Entries WholeFloat := Entries.ofList
  [("class", .str "TPV"), ("mode", .int 3), ("lat", .int 52), ("lon", .int 5)]

def lostReport : Entries WholeFloat := Entries.ofList [("class", .str "TPV"), ("mode", .int 1)]

def lineOf (report : Entries WholeFloat) : List Char := dumps (.dict report) ++ ['\n']

def twoReports : GpsdRuntime WholeFloat Nat where
  loads text :=
    if text = String.ofList (lineOf fixReport) then .value (.dict fixReport)
    else if text = String.ofList (lineOf lostReport) then .value (.dict lostReport)
    else .malformed
  floatOfText _ := none
  lower := id
  upper := id
  pyStr _ := ""
  fromIsoFormat _ := none

def lostFix : List (Line Nat) :=
  [⟨ByteCodec.utf8Chars (lineOf fixReport), 1⟩, ⟨ByteCodec.utf8Chars (lineOf lostReport), 2⟩]

/-- With the default quality, a report without a fix replaces the coordinates. -/
theorem not_handledAll_lostFix :
    ¬ ∀ lines : List (Line Nat), HandledAll twoReports 1 {} Dop.empty lines := by
  intro h
  obtain ⟨-, hlost, -⟩ := h lostFix
  obtain ⟨fix, hfix, hlat, -⟩ := hlost.coordinates ⟨_, rfl, rfl, rfl⟩
  cases hfix
  cases hlat

end Meshpoint.GpsdStream
