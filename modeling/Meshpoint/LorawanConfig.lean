import Meshpoint.GuardedRun
import Meshpoint.ListFacts
import Meshpoint.LorawanFrames
import Meshpoint.PyText

/-!
# Changing LoRaWAN devices while the service runs

Model of `PUT /config/lorawan` (`src/api/routes/lorawan_config_routes.py`), of `add_device` of
`src/decode/lorawan_keystore.py` and of the part of `_setup_channel_keys` (`src/coordinator.py`) that
loads the devices at a start.

The handler replaces the configured devices but only adds to the key store; and it sets the
configuration before it saves.  `liveKeys_run` says which requests keep the key store what a restart
would load, and leave everything as it was when they are answered with an error.
-/

namespace Meshpoint.LorawanConfig

open ByteCodec PyText GuardedRun LorawanFrames ListFacts

/-- `str.upper`: what it does to ASCII text, and that doing it twice changes nothing. -/
structure Uppercasing where
  upper : String → String
  upper_ascii : ∀ s : String, (∀ c ∈ s.toList, c.toNat < 128) →
    upper s = String.ofList (s.toList.map Char.toUpper)
  upper_upper : ∀ s, upper (upper s) = upper s

/-! ### The configuration -/

/-- The keys and the payload fields of a device in `lorawan.devices`; a key may be missing, and no
    fields are the same as an empty list. -/
structure DeviceConfig (F : Type) where
  appKey : Option String
  nwkKey : Option String
  payloadFields : List (PayloadFieldEntry F) := []

/-- `lorawan.devices`. -/
abbrev Devices (F : Type) := OrderedDict String (DeviceConfig F)

/-- What the key store has from the configuration: the root keys and the payload fields. -/
structure LiveKeys (F : Type) where
  rootKeys : OrderedDict String (AesKey × AesKey) := .empty
  payloadFields : FieldTables F := .empty

/-- A key of 16 bytes in hexadecimal; `none` when it raises. -/
def hexKey (text : String) : Option AesKey :=
  (fromHexChars text.toList).bind fun raw =>
    if h : raw.length = 16 then some ⟨raw, .inl h⟩ else none

/-- `value.startswith("YOUR_")`. -/
def isSentinel (text : String) : Bool := "YOUR_".toList.isPrefixOf text.toList

/-- `_is_lorawan_placeholder`. -/
def isLorawanPlaceholder {F : Type} (devEui : String) (keys : DeviceConfig F) : Bool :=
  isSentinel devEui || keys.appKey.any isSentinel || keys.nwkKey.any isSentinel

section

variable {F : Type} (py : Uppercasing)

/-- `add_device`; `none` when it raises. -/
def addDevice (live : LiveKeys F) (devEui appKeyHex nwkKeyHex : String)
    (payloadFields : List (PayloadFieldEntry F)) : Option (LiveKeys F) := do
  let appKey ← hexKey appKeyHex
  let nwkKey ← hexKey nwkKeyHex
  return { rootKeys := live.rootKeys.set (py.upper devEui) (appKey, nwkKey)
           payloadFields := if payloadFields.isEmpty then live.payloadFields
             else live.payloadFields.set (py.upper devEui) payloadFields }

/-- One device at a start: placeholders and malformed entries are skipped. -/
def setupDevice (live : LiveKeys F) (device : String × DeviceConfig F) : LiveKeys F :=
  if isLorawanPlaceholder device.1 device.2 then live
  else
    match device.2.appKey, device.2.nwkKey with
    | some appKey, some nwkKey =>
      (addDevice py live device.1 appKey nwkKey device.2.payloadFields).getD live
    | _, _ => live

def setupDevices (devices : Devices F) : LiveKeys F :=
  devices.items.foldl (setupDevice py) {}

/-! ### The request -/

/-- `LoRaWANDeviceEntry` as it is sent. -/
structure DeviceEntry (F : Type) where
  devEui : String
  appKey : String
  nwkKey : String
  payloadFields : List (PayloadFieldEntry F) := []

/-- `_validate_hex_key`; `none` when the request is refused. -/
def validateHexKey (value : String) : Option String :=
  (hexKey (strip value)).map fun _ => py.upper (strip value)

def validateEntry (entry : DeviceEntry F) : Option (String × DeviceConfig F) := do
  let appKey ← validateHexKey py entry.appKey
  let nwkKey ← validateHexKey py entry.nwkKey
  return (py.upper entry.devEui, ⟨some appKey, some nwkKey, entry.payloadFields⟩)

/-- The devices of a request; `none` when an entry is refused. -/
def requestedDevices (entries : List (DeviceEntry F)) : Option (Devices F) :=
  (entries.mapM (validateEntry py)).map OrderedDict.ofList

/-- `add_device` for each device, and whether one of them raised. -/
def addDevices : List (String × DeviceConfig F) → LiveKeys F → LiveKeys F × Bool
  | [], live => (live, true)
  | (devEui, keys) :: rest, live =>
    match addDevice py live devEui (keys.appKey.getD "") (keys.nwkKey.getD "") keys.payloadFields with
    | some live => addDevices rest live
    | none => (live, false)

/-- The running service: the configuration, the devices that a restart would read from the file, and
    the key store. -/
structure Station (F : Type) where
  config : Devices F
  file : Devices F
  live : LiveKeys F

def start (devices : Devices F) : Station F := ⟨devices, devices, setupDevices py devices⟩

/-- What `save_section_to_yaml` does: it writes, raises `PermissionError`, or raises something else
    with `left` in the file. -/
inductive Save (F : Type) where
  | written
  | refused
  | brokenOff (left : Devices F)

/-- A request, and what saving does for it. -/
structure Put (F : Type) where
  entries : List (DeviceEntry F)
  save : Save F

/-- `update_lorawan_config`, with the status of the answer. -/
def updateLorawanConfig (s : Station F) (put : Put F) : Station F × Nat :=
  match requestedDevices py put.entries with
  | none => (s, 422)
  | some devices =>
    match put.save with
    | .refused => ({ s with config := devices }, 403)
    | .brokenOff left => ({ s with config := devices, file := left }, 500)
    | .written =>
      let (live, added) := addDevices py devices.items s.live
      (⟨devices, devices, live⟩, if added then 200 else 400)

/-! ### The property -/

/-- The key store holds what a restart would load. -/
structure Agrees (s : Station F) : Prop where
  rootKeys : ∀ devEui, s.live.rootKeys.get? devEui =
    (setupDevices py s.file).rootKeys.get? devEui
  payloadFields : ∀ devEui, s.live.payloadFields.get? devEui =
    (setupDevices py s.file).payloadFields.get? devEui

/-- After a request the key store holds what a restart would load; and an error leaves everything as
    it was. -/
structure KeepsLiveKeys (s : Station F) (put : Put F) : Prop where
  agrees : Agrees py (updateLorawanConfig py s put).1
  unchanged : (updateLorawanConfig py s put).2 ≠ 200 → (updateLorawanConfig py s put).1 = s

/-- What a request must be like: it names every device that is known, gives fields for every device
    that has some, and names no placeholder; and where it cannot be saved it changes nothing. -/
def Meets (s : Station F) (put : Put F) : Prop :=
  ∀ devices, requestedDevices py put.entries = some devices →
    match put.save with
    | .refused => devices = s.config
    | .brokenOff left => devices = s.config ∧ left = s.file
    | .written =>
      (∀ devEui, s.live.rootKeys.get? devEui ≠ none → ∃ keys, devices.get? devEui = some keys) ∧
        (∀ devEui, s.live.payloadFields.get? devEui ≠ none →
          ∃ keys, devices.get? devEui = some keys ∧ keys.payloadFields ≠ []) ∧
        ∀ devEui keys, devices.get? devEui = some keys → isSentinel devEui = false

/-! ### Validated keys -/

variable {py}

def isHexSpace (c : Char) : Bool := c.toNat = 32 || (9 ≤ c.toNat && c.toNat ≤ 13)

theorem toUpper_ascii {c : Char} (h : c.toNat < 128) :
    hexDigitValue c.toUpper = hexDigitValue c ∧ isHexSpace c.toUpper = isHexSpace c := by
  have hall : ∀ n < 128, hexDigitValue (Char.ofNat n).toUpper = hexDigitValue (Char.ofNat n) ∧
      isHexSpace (Char.ofNat n).toUpper = isHexSpace (Char.ofNat n) := by decide
  have hc := hall c.toNat h
  rwa [Char.ofNat_toNat] at hc

theorem lt_of_hexDigitValue {c : Char} {n : Nat} (h : hexDigitValue c = some n) : c.toNat < 128 := by
  have hle : ∀ {a b : Char}, a ≤ b → a.toNat ≤ b.toNat := fun hab => hab
  unfold hexDigitValue at h
  split at h
  · rename_i hc
    exact Nat.lt_of_le_of_lt (hle hc.2) (by decide)
  · split at h
    · rename_i hc
      exact Nat.lt_of_le_of_lt (hle hc.2) (by decide)
    · split at h
      · rename_i hc
        exact Nat.lt_of_le_of_lt (hle hc.2) (by decide)
      · cases h

theorem lt_of_isHexSpace {c : Char} (h : isHexSpace c = true) : c.toNat < 128 := by
  simp only [isHexSpace, Bool.or_eq_true, Bool.and_eq_true, decide_eq_true_eq] at h
  omega

theorem fromHexChars_singleton (c : Char) :
    fromHexChars [c] = if isHexSpace c then some [] else none := rfl

theorem fromHexChars_cons (hi lo : Char) (rest : List Char) :
    fromHexChars (hi :: lo :: rest) =
      if isHexSpace hi then fromHexChars (lo :: rest)
      else do
        let h ← hexDigitValue hi
        let l ← hexDigitValue lo
        let bs ← fromHexChars rest
        return UInt8.ofNat (h * 16 + l) :: bs := by
  rw [fromHexChars]
  rfl

theorem fromHexChars_toUpper {cs : List Char} {bs : Bytes} (h : fromHexChars cs = some bs) :
    (∀ c ∈ cs, c.toNat < 128) ∧ fromHexChars (cs.map Char.toUpper) = some bs := by
  induction cs using fromHexChars.induct generalizing bs with
  | case1 => exact ⟨fun c hc => absurd hc List.not_mem_nil, h⟩
  | case2 c hcond =>
    have hspace : isHexSpace c = true := hcond
    have hlt := lt_of_isHexSpace hspace
    refine ⟨?_, ?_⟩
    · intro c' hc'
      rw [List.mem_singleton.mp hc']
      exact hlt
    · rw [List.map_singleton, fromHexChars_singleton, (toUpper_ascii hlt).2]
      rwa [fromHexChars_singleton] at h
  | case3 c hcond =>
    have hspace : ¬ isHexSpace c = true := hcond
    rw [fromHexChars_singleton, if_neg hspace] at h
    cases h
  | case4 hi lo rest hcond ih =>
    have hspace : isHexSpace hi = true := hcond
    have hlt := lt_of_isHexSpace hspace
    rw [fromHexChars_cons, if_pos hspace] at h
    obtain ⟨hascii, hparse⟩ := ih h
    refine ⟨?_, ?_⟩
    · intro c hc
      rcases List.mem_cons.mp hc with rfl | hrest
      · exact hlt
      · exact hascii c hrest
    · rw [List.map_cons, List.map_cons, fromHexChars_cons, (toUpper_ascii hlt).2, if_pos hspace]
      exact hparse
  | case5 hi lo rest hcond ih =>
    have hspace : ¬ isHexSpace hi = true := hcond
    rw [fromHexChars_cons, if_neg hspace] at h
    simp only [Option.bind_eq_bind, Option.bind_eq_some_iff] at h
    obtain ⟨high, hhigh, low, hlow, bytes, hbytes, hbs⟩ := h
    obtain ⟨hascii, hparse⟩ := ih hbytes
    have hhi := lt_of_hexDigitValue hhigh
    have hlo := lt_of_hexDigitValue hlow
    refine ⟨?_, ?_⟩
    · intro c hc
      rcases List.mem_cons.mp hc with rfl | hc
      · exact hhi
      · rcases List.mem_cons.mp hc with rfl | hc
        · exact hlo
        · exact hascii c hc
    · rw [List.map_cons, List.map_cons, fromHexChars_cons, (toUpper_ascii hhi).2, if_neg hspace,
        (toUpper_ascii hhi).1, (toUpper_ascii hlo).1, hhigh, hlow, hparse]
      exact hbs

theorem hexKey_upper {text : String} {key : AesKey} (h : hexKey text = some key) :
    hexKey (py.upper text) = some key := by
  obtain ⟨raw, hraw, hkey⟩ := Option.bind_eq_some_iff.mp h
  obtain ⟨hascii, hparse⟩ := fromHexChars_toUpper hraw
  rw [hexKey, py.upper_ascii text hascii, String.toList_ofList, hparse, Option.bind_some]
  exact hkey

theorem not_isSentinel_of_hexKey {text : String} {key : AesKey} (h : hexKey text = some key) :
    isSentinel text = false := by
  obtain ⟨raw, hraw, _⟩ := Option.bind_eq_some_iff.mp h
  by_contra hsentinel
  rw [Bool.not_eq_false, isSentinel, List.isPrefixOf_iff_prefix] at hsentinel
  obtain ⟨rest, hrest⟩ := hsentinel
  rw [← hrest] at hraw
  cases hraw

/-- A validated device: its name is in upper case, and its keys are read. -/
structure Validated (py : Uppercasing) (device : String × DeviceConfig F) : Prop where
  named : py.upper device.1 = device.1
  appKey : ∃ text key, device.2.appKey = some text ∧ hexKey text = some key
  nwkKey : ∃ text key, device.2.nwkKey = some text ∧ hexKey text = some key

theorem validateHexKey_eq_some {value text : String} (h : validateHexKey py value = some text) :
    ∃ key, hexKey text = some key := by
  obtain ⟨key, hkey, rfl⟩ := Option.map_eq_some_iff.mp h
  exact ⟨key, hexKey_upper hkey⟩

theorem validated_of_validateEntry {entry : DeviceEntry F} {device : String × DeviceConfig F}
    (h : validateEntry py entry = some device) : Validated py device := by
  simp only [validateEntry, Option.bind_eq_bind, Option.bind_eq_some_iff] at h
  obtain ⟨appKey, happ, nwkKey, hnwk, hdevice⟩ := h
  obtain rfl := Option.some.inj hdevice
  obtain ⟨key, hkey⟩ := validateHexKey_eq_some happ
  obtain ⟨key', hkey'⟩ := validateHexKey_eq_some hnwk
  exact ⟨py.upper_upper _, ⟨appKey, key, rfl, hkey⟩, ⟨nwkKey, key', rfl, hkey'⟩⟩

theorem validated_of_requestedDevices {entries : List (DeviceEntry F)} {devices : Devices F}
    (h : requestedDevices py entries = some devices) {device : String × DeviceConfig F}
    (hdevice : device ∈ devices.items) : Validated py device := by
  obtain ⟨list, hlist, rfl⟩ := Option.map_eq_some_iff.mp h
  have hall : ∀ device ∈ list, Validated py device := by
    intro device hmem
    obtain ⟨entry, -, hentry⟩ := (mem_of_mapM hlist).mp hmem
    exact validated_of_validateEntry hentry
  apply hall
  have hget := (OrderedDict.get?_eq_some_iff _).mpr hdevice
  rw [OrderedDict.ofList, OrderedDict.get?_update, OrderedDict.get?_empty, Option.or_none,
    Option.map_eq_some_iff] at hget
  obtain ⟨found, hfound, hvalue⟩ := hget
  have hname : found.1 = device.1 := by simpa using List.find?_some hfound
  have hsame : found = device := Prod.ext hname hvalue
  rw [← hsame]
  exact List.mem_reverse.mp (List.mem_of_find?_eq_some hfound)

/-! ### Adding devices -/

theorem addDevice_eq {store : LorawanJoin.Keystore} {tables : FieldTables F}
    {entry : LoRaWANDeviceEntry F} {appKey nwkKey : String} (happ : hexKey appKey = some entry.appKey)
    (hnwk : hexKey nwkKey = some entry.nwkKey) (devEui : String) :
    addDevice py ⟨store.rootKeys, tables⟩ devEui appKey nwkKey entry.payloadFields =
      some ⟨(LorawanFrames.addDevice py.upper devEui entry store tables).1.rootKeys,
        (LorawanFrames.addDevice py.upper devEui entry store tables).2⟩ := by
  simp only [addDevice, happ, hnwk, Option.bind_eq_bind, Option.bind_some]
  rfl

def rootPair (keys : DeviceConfig F) : Option (AesKey × AesKey) := do
  let appKey ← keys.appKey.bind hexKey
  let nwkKey ← keys.nwkKey.bind hexKey
  return (appKey, nwkKey)

/-- What a list of devices makes of a key store. -/
structure Added (items : List (String × DeviceConfig F)) (before live : LiveKeys F) : Prop where
  rootKeys : ∀ devEui, live.rootKeys.get? devEui =
    ((OrderedDict.lookupItems devEui items).bind rootPair).or (before.rootKeys.get? devEui)
  payloadFields : ∀ devEui, live.payloadFields.get? devEui =
    (((OrderedDict.lookupItems devEui items).map DeviceConfig.payloadFields).filter
      fun fields => !fields.isEmpty).or (before.payloadFields.get? devEui)

theorem exists_rootPair {device : String × DeviceConfig F} (h : Validated py device) :
    ∃ pair, rootPair device.2 = some pair := by
  obtain ⟨appText, appKey, happ, happKey⟩ := h.appKey
  obtain ⟨nwkText, nwkKey, hnwk, hnwkKey⟩ := h.nwkKey
  refine ⟨(appKey, nwkKey), ?_⟩
  simp only [rootPair, happ, hnwk, Option.bind_some, happKey, hnwkKey, Option.bind_eq_bind]
  rfl

theorem exists_addDevice {device : String × DeviceConfig F} (h : Validated py device)
    (live : LiveKeys F) :
    ∃ live', addDevice py live device.1 (device.2.appKey.getD "") (device.2.nwkKey.getD "")
        device.2.payloadFields = some live' ∧
      setupDevice py live device = (if isSentinel device.1 then live else live') ∧
      Added [device] live live' := by
  obtain ⟨appText, appKey, happ, happKey⟩ := h.appKey
  obtain ⟨nwkText, nwkKey, hnwk, hnwkKey⟩ := h.nwkKey
  have hadd : addDevice py live device.1 appText nwkText device.2.payloadFields =
      some ⟨live.rootKeys.set device.1 (appKey, nwkKey),
        if device.2.payloadFields.isEmpty then live.payloadFields
        else live.payloadFields.set device.1 device.2.payloadFields⟩ := by
    simp only [addDevice, happKey, hnwkKey, Option.bind_eq_bind, Option.bind_some, h.named]
    rfl
  have hpair : rootPair device.2 = some (appKey, nwkKey) := by
    simp only [rootPair, happ, hnwk, Option.bind_some, happKey, hnwkKey, Option.bind_eq_bind]
    rfl
  refine ⟨_, by rw [happ, hnwk]; exact hadd, ?_, ⟨?_, ?_⟩⟩
  · have hplaceholder : isLorawanPlaceholder device.1 device.2 = isSentinel device.1 := by
      simp only [isLorawanPlaceholder, happ, hnwk, Option.any_some,
        not_isSentinel_of_hexKey happKey, not_isSentinel_of_hexKey hnwkKey, Bool.or_false]
    simp only [setupDevice, hplaceholder, happ, hnwk, hadd, Option.getD_some]
  · intro devEui
    rw [OrderedDict.get?_set]
    simp only [OrderedDict.lookupItems]
    by_cases hname : device.1 = devEui
    · simp only [hname, if_true, Option.bind_some, hpair, Option.some_or]
    · simp only [hname, if_false, Option.bind_none, Option.none_or]
  · intro devEui
    simp only [OrderedDict.lookupItems]
    cases hempty : device.2.payloadFields.isEmpty with
    | true =>
      by_cases hname : device.1 = devEui
      · simp [hname, hempty, Option.filter_some]
      · simp [hname]
    | false =>
      simp only [Bool.false_eq_true, if_false, OrderedDict.get?_set]
      by_cases hname : device.1 = devEui
      · simp [hname, hempty, Option.filter_some]
      · simp [hname]

theorem Added.nil (live : LiveKeys F) : Added [] live live := ⟨fun _ => rfl, fun _ => rfl⟩

theorem Added.cons {device : String × DeviceConfig F} {rest : List (String × DeviceConfig F)}
    {before live after : LiveKeys F} (hfirst : Added [device] before live)
    (hrest : Added rest live after) (hname : device.1 ∉ rest.map Prod.fst) :
    Added (device :: rest) before after := by
  have hnone : OrderedDict.lookupItems device.1 rest = none :=
    OrderedDict.lookupItems_eq_none_iff.mpr hname
  constructor
  · intro devEui
    rw [hrest.rootKeys, hfirst.rootKeys]
    simp only [OrderedDict.lookupItems]
    by_cases heq : device.1 = devEui
    · simp only [← heq, hnone, if_true, Option.bind_none, Option.none_or]
    · simp only [heq, if_false, Option.bind_none, Option.none_or]
  · intro devEui
    rw [hrest.payloadFields, hfirst.payloadFields]
    simp only [OrderedDict.lookupItems]
    by_cases heq : device.1 = devEui
    · simp only [← heq, hnone, if_true, Option.map_none, Option.filter_none, Option.none_or]
    · simp only [heq, if_false, Option.map_none, Option.filter_none, Option.none_or]

theorem exists_addDevices {items : List (String × DeviceConfig F)}
    (hvalid : ∀ device ∈ items, Validated py device) (hnodup : (items.map Prod.fst).Nodup)
    (before : LiveKeys F) :
    ∃ live, addDevices py items before = (live, true) ∧ Added items before live := by
  induction items generalizing before with
  | nil => exact ⟨before, rfl, .nil before⟩
  | cons device rest ih =>
    rw [List.map_cons, List.nodup_cons] at hnodup
    obtain ⟨live, hadd, _, hfirst⟩ := exists_addDevice (hvalid device List.mem_cons_self) before
    obtain ⟨after, hafter, hrest⟩ := ih
      (fun d hd => hvalid d (List.mem_cons_of_mem _ hd)) hnodup.2 live
    refine ⟨after, ?_, hfirst.cons hrest hnodup.1⟩
    obtain ⟨devEui, keys⟩ := device
    simp only [addDevices, hadd]
    exact hafter

theorem added_setupDevices {items : List (String × DeviceConfig F)}
    (hvalid : ∀ device ∈ items, Validated py device) (hnodup : (items.map Prod.fst).Nodup)
    (before : LiveKeys F) :
    Added (items.filter fun device => !isSentinel device.1) before
      (items.foldl (setupDevice py) before) := by
  induction items generalizing before with
  | nil => exact .nil before
  | cons device rest ih =>
    rw [List.map_cons, List.nodup_cons] at hnodup
    obtain ⟨live, _, hsetup, hfirst⟩ := exists_addDevice (hvalid device List.mem_cons_self) before
    rw [List.foldl_cons, hsetup]
    have hrest := fun live =>
      ih (fun d hd => hvalid d (List.mem_cons_of_mem _ hd)) hnodup.2 live
    cases hsentinel : isSentinel device.1 with
    | true =>
      rw [List.filter_cons_of_neg (by simp [hsentinel]), if_pos rfl]
      exact hrest before
    | false =>
      rw [List.filter_cons_of_pos (by simp [hsentinel]), if_neg Bool.false_ne_true]
      apply hfirst.cons (hrest live)
      intro hmem
      exact hnodup.1 ((List.filter_sublist.map Prod.fst).subset hmem)

theorem lookupItems_known (items : List (String × DeviceConfig F)) (devEui : String) :
    OrderedDict.lookupItems devEui (items.filter fun device => !isSentinel device.1) =
      if isSentinel devEui then none else OrderedDict.lookupItems devEui items := by
  rw [OrderedDict.lookupItems_filter (p := fun devEui => !isSentinel devEui)]
  cases isSentinel devEui <;> rfl

/-! ### Requests -/

variable {s : Station F} {put : Put F}

theorem rootKeys_agree_iff {requested : Option (DeviceConfig F)}
    {known : Option (AesKey × AesKey)} {sentinel : Bool}
    (hpair : ∀ keys, requested = some keys → ∃ pair, rootPair keys = some pair) :
    (requested.bind rootPair).or known = (if sentinel then none else requested).bind rootPair ↔
      (known ≠ none → ∃ keys, requested = some keys) ∧
        ∀ keys, requested = some keys → sentinel = false := by
  cases requested with
  | none =>
    rw [Option.bind_none, Option.none_or, ite_self, Option.bind_none]
    constructor
    · intro hnone
      exact ⟨fun hknown => absurd hnone hknown, nofun⟩
    · rintro ⟨hkept, -⟩
      by_contra hknown
      obtain ⟨keys, hkeys⟩ := hkept hknown
      cases hkeys
  | some keys =>
    obtain ⟨pair, hkeys⟩ := hpair keys rfl
    rw [Option.bind_some, hkeys, Option.some_or]
    cases sentinel with
    | true =>
      refine iff_of_false nofun ?_
      rintro ⟨-, hreal⟩
      cases hreal keys rfl
    | false =>
      rw [if_neg Bool.false_ne_true, Option.bind_some, hkeys]
      exact iff_of_true rfl ⟨fun _ => ⟨keys, rfl⟩, fun _ _ => rfl⟩

theorem payloadFields_agree_iff {requested : Option (DeviceConfig F)}
    {known : Option (List (PayloadFieldEntry F))} {sentinel : Bool}
    (hreal : ∀ keys, requested = some keys → sentinel = false) :
    ((requested.map DeviceConfig.payloadFields).filter fun fields => !fields.isEmpty).or known =
        ((if sentinel then none else requested).map
          DeviceConfig.payloadFields).filter (fun fields => !fields.isEmpty) ↔
      (known ≠ none → ∃ keys, requested = some keys ∧ keys.payloadFields ≠ []) := by
  cases requested with
  | none =>
    rw [Option.map_none, Option.filter_none, Option.none_or, ite_self, Option.map_none,
      Option.filter_none]
    constructor
    · intro hnone hknown
      exact absurd hnone hknown
    · intro hkept
      by_contra hknown
      obtain ⟨keys, hkeys, -⟩ := hkept hknown
      cases hkeys
  | some keys =>
    rw [hreal keys rfl, if_neg Bool.false_ne_true, Option.map_some]
    by_cases hempty : keys.payloadFields = []
    · have hdropped : (some keys.payloadFields).filter (fun fields => !fields.isEmpty) = none := by
        simp [hempty]
      rw [hdropped, Option.none_or]
      constructor
      · intro hnone hknown
        exact absurd hnone hknown
      · intro hkept
        by_contra hknown
        obtain ⟨keys', hkeys, hne⟩ := hkept hknown
        cases hkeys
        exact hne hempty
    · have hgiven : (some keys.payloadFields).filter (fun fields => !fields.isEmpty) =
          some keys.payloadFields := by
        simp [hempty]
      rw [hgiven, Option.some_or]
      exact iff_of_true rfl fun _ => ⟨keys, rfl, hempty⟩

/-- **A saved request** leaves what a restart would load exactly when it drops nothing that is known
    and names no placeholder. -/
theorem agrees_written_iff {devices : Devices F}
    (hrequested : requestedDevices py put.entries = some devices) {live : LiveKeys F}
    (hadded : Added devices.items s.live live) :
    Agrees py ⟨devices, devices, live⟩ ↔
      (∀ devEui, s.live.rootKeys.get? devEui ≠ none → ∃ keys, devices.get? devEui = some keys) ∧
        (∀ devEui, s.live.payloadFields.get? devEui ≠ none →
          ∃ keys, devices.get? devEui = some keys ∧ keys.payloadFields ≠ []) ∧
        ∀ devEui keys, devices.get? devEui = some keys → isSentinel devEui = false := by
  have hvalid : ∀ device ∈ devices.items, Validated py device :=
    fun _ hdevice => validated_of_requestedDevices hrequested hdevice
  have hsetup := added_setupDevices hvalid devices.nodupKeys {}
  have hpair : ∀ devEui keys, devices.get? devEui = some keys → ∃ pair, rootPair keys = some pair :=
    fun devEui keys hget => exists_rootPair (hvalid (devEui, keys) (devices.get?_eq_some_iff.mp hget))
  -- the two key stores, device by device
  have hroot : ∀ devEui, live.rootKeys.get? devEui =
        (setupDevices py devices).rootKeys.get? devEui ↔
      ((devices.get? devEui).bind rootPair).or (s.live.rootKeys.get? devEui) =
        (if isSentinel devEui then none else devices.get? devEui).bind rootPair := by
    intro devEui
    have hload := hsetup.rootKeys devEui
    rw [lookupItems_known, OrderedDict.get?_empty, Option.or_none] at hload
    rw [hadded.rootKeys, setupDevices, hload]
    rfl
  have hfields : ∀ devEui, live.payloadFields.get? devEui =
        (setupDevices py devices).payloadFields.get? devEui ↔
      (((devices.get? devEui).map DeviceConfig.payloadFields).filter
          fun fields => !fields.isEmpty).or (s.live.payloadFields.get? devEui) =
        ((if isSentinel devEui then none else devices.get? devEui).map
          DeviceConfig.payloadFields).filter fun fields => !fields.isEmpty := by
    intro devEui
    have hload := hsetup.payloadFields devEui
    rw [lookupItems_known, OrderedDict.get?_empty, Option.or_none] at hload
    rw [hadded.payloadFields, setupDevices, hload]
    rfl
  constructor
  · intro hagrees
    have hroot' := fun devEui =>
      (rootKeys_agree_iff (hpair devEui)).mp ((hroot devEui).mp (hagrees.rootKeys devEui))
    have hreal : ∀ devEui keys, devices.get? devEui = some keys → isSentinel devEui = false :=
      fun devEui => (hroot' devEui).2
    refine ⟨fun devEui => (hroot' devEui).1, ?_, hreal⟩
    intro devEui
    exact (payloadFields_agree_iff (hreal devEui)).mp
      ((hfields devEui).mp (hagrees.payloadFields devEui))
  · rintro ⟨hkept, hkeptFields, hreal⟩
    constructor
    · intro devEui
      apply (hroot devEui).mpr
      exact (rootKeys_agree_iff (hpair devEui)).mpr ⟨hkept devEui, hreal devEui⟩
    · intro devEui
      apply (hfields devEui).mpr
      exact (payloadFields_agree_iff (hreal devEui)).mpr (hkeptFields devEui)

/-- **A request** keeps the key store what a restart would load, and changes nothing when it is
    answered with an error, exactly when it meets the condition. -/
theorem keepsLiveKeys_iff (hagrees : Agrees py s) :
    KeepsLiveKeys py s put ↔ Meets py s put := by
  cases hrequested : requestedDevices py put.entries with
  | none =>
    have hupdate : updateLorawanConfig py s put = (s, 422) := by
      simp only [updateLorawanConfig, hrequested]
    refine iff_of_true ⟨?_, ?_⟩ ?_
    · rw [hupdate]
      exact hagrees
    · rw [hupdate]
      exact fun _ => rfl
    · intro devices hdevices
      rw [hrequested] at hdevices
      cases hdevices
  | some devices =>
    unfold Meets
    simp only [hrequested, Option.some.injEq, forall_eq']
    cases hsave : put.save with
    | refused =>
      have hupdate : updateLorawanConfig py s put = ({ s with config := devices }, 403) := by
        simp only [updateLorawanConfig, hrequested, hsave]
      have herror : (403 : Nat) ≠ 200 := by decide
      constructor
      · intro h
        have hsame := h.unchanged (by rwa [hupdate])
        rw [hupdate] at hsame
        exact congrArg Station.config hsame
      · rintro rfl
        refine ⟨?_, ?_⟩
        · rw [hupdate]
          exact hagrees
        · rw [hupdate]
          exact fun _ => rfl
    | brokenOff left =>
      have hupdate : updateLorawanConfig py s put =
          ({ s with config := devices, file := left }, 500) := by
        simp only [updateLorawanConfig, hrequested, hsave]
      have herror : (500 : Nat) ≠ 200 := by decide
      constructor
      · intro h
        have hsame := h.unchanged (by rwa [hupdate])
        rw [hupdate] at hsame
        exact ⟨congrArg Station.config hsame, congrArg Station.file hsame⟩
      · rintro ⟨rfl, rfl⟩
        refine ⟨?_, ?_⟩
        · rw [hupdate]
          exact hagrees
        · rw [hupdate]
          exact fun _ => rfl
    | written =>
      obtain ⟨live, hlive, hadded⟩ := exists_addDevices
        (fun _ hdevice => validated_of_requestedDevices hrequested hdevice) devices.nodupKeys s.live
      have hupdate : updateLorawanConfig py s put = (⟨devices, devices, live⟩, 200) := by
        simp only [updateLorawanConfig, hrequested, hsave, hlive, if_true]
      rw [← agrees_written_iff hrequested hadded]
      constructor
      · intro h
        have hafter := h.agrees
        rwa [hupdate] at hafter
      · intro hafter
        refine ⟨?_, ?_⟩
        · rw [hupdate]
          exact hafter
        · rw [hupdate]
          exact fun hne => absurd rfl hne

/-! ### Runs -/

variable (py)

def step (s : Station F) (put : Put F) : Option (Station F) :=
  some (updateLorawanConfig py s put).1

/-- **Live keys.**  After a start and any run of requests that meet the condition, the key store
    holds what a restart would load; and the next request keeps that, and changes nothing when it
    is answered with an error, exactly when it meets the condition too. -/
theorem liveKeys_run (devices : Devices F) :
    ∀ s, Reaches (step py) (Meets py) (start py devices) s →
      Agrees py s ∧ ∀ put, KeepsLiveKeys py s put ↔ Meets py s put := by
  intro s hreach
  have hagrees : Agrees py s := by
    apply hreach.invariant (I := Agrees py)
    · exact ⟨fun _ => rfl, fun _ => rfl⟩
    · intro s put s' hagrees hmeets hstep
      obtain rfl := Option.some.inj hstep
      exact ((keepsLiveKeys_iff hagrees).mpr hmeets).agrees
  exact ⟨hagrees, fun put => keepsLiveKeys_iff hagrees⟩

end

/-! ### A sensor that is removed -/

theorem toUpper_toUpper (c : Char) : c.toUpper.toUpper = c.toUpper := by
  have hall : ∀ n < 128, (Char.ofNat n).toUpper.toUpper = (Char.ofNat n).toUpper := by decide
  by_cases hascii : c.toNat < 128
  · have hc := hall c.toNat hascii
    rwa [Char.ofNat_toNat] at hc
  · have hsame : c.toUpper = c := by
      unfold Char.toUpper
      apply dif_neg
      rintro ⟨_, hle⟩
      have hz : c.toNat ≤ 122 := hle
      omega
    rw [hsame, hsame]

def asciiUppercasing : Uppercasing where
  upper s := String.ofList (s.toList.map Char.toUpper)
  upper_ascii _ _ := rfl
  upper_upper s := by
    rw [String.toList_ofList, List.map_map]
    congr 1
    apply List.map_congr_left
    intro c _
    exact toUpper_toUpper c

def sensor : DeviceEntry Int where
  devEui := "70:B3:D5:7E:D0:07:8B:FD"
  appKey := "00112233445566778899aabbccddeeff"
  nwkKey := "000102030405060708090a0b0c0d0e0f"

def emptyStation : Station Int := start asciiUppercasing .empty

def sensorStation : Station Int :=
  (updateLorawanConfig asciiUppercasing emptyStation ⟨[sensor], .written⟩).1

def clearedStation : Station Int :=
  (updateLorawanConfig asciiUppercasing sensorStation ⟨[], .written⟩).1

theorem liveKeys_sensor :
    Agrees asciiUppercasing sensorStation ∧
      (sensorStation.live.rootKeys.get? sensor.devEui).isSome = true := by
  have hmeets : Meets asciiUppercasing emptyStation ⟨[sensor], .written⟩ := by
    intro devices hdevices
    refine ⟨fun devEui hknown => absurd rfl hknown, fun devEui hknown => absurd rfl hknown, ?_⟩
    intro devEui keys hget
    have hnames : (requestedDevices asciiUppercasing [sensor]).map OrderedDict.keys =
        some [sensor.devEui] := by decide +kernel
    rw [hdevices, Option.map_some, Option.some.injEq] at hnames
    have hmem : devEui ∈ devices.keys :=
      List.mem_map_of_mem (devices.get?_eq_some_iff.mp hget)
    rw [hnames, List.mem_singleton] at hmem
    rw [hmem]
    decide +kernel
  have hrun := liveKeys_run asciiUppercasing .empty sensorStation
    (Reaches.refl.tail hmeets rfl)
  exact ⟨hrun.1, by decide +kernel⟩

/-- **A removed sensor** is still in the key store, and a restart would not load it.  A request that
    cannot be saved has changed the configuration. -/
theorem removed_sensor_known :
    (updateLorawanConfig asciiUppercasing sensorStation ⟨[], .written⟩).2 = 200 ∧
      (clearedStation.live.rootKeys.get? sensor.devEui).isSome = true ∧
      (setupDevices asciiUppercasing clearedStation.file).rootKeys.get? sensor.devEui = none ∧
      ¬ Agrees asciiUppercasing clearedStation ∧
      (updateLorawanConfig asciiUppercasing emptyStation ⟨[sensor], .refused⟩).2 = 403 ∧
      (updateLorawanConfig asciiUppercasing emptyStation ⟨[sensor], .refused⟩).1.config.keys =
        [sensor.devEui] := by
  obtain ⟨hsaved, hknown, hgone⟩ :
      (updateLorawanConfig asciiUppercasing sensorStation ⟨[], .written⟩).2 = 200 ∧
        (clearedStation.live.rootKeys.get? sensor.devEui).isSome = true ∧
        (setupDevices asciiUppercasing clearedStation.file).rootKeys.get? sensor.devEui = none := by
    decide +kernel
  refine ⟨hsaved, hknown, hgone, ?_, by decide +kernel⟩
  intro hagrees
  rw [hagrees.rootKeys, hgone] at hknown
  cases hknown

end Meshpoint.LorawanConfig
