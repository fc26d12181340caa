import Meshpoint.OrderedDict
import Meshpoint.PyText

/-!
# Saved identities of USB devices

Model of the device lists of `src/api/routes/system_config_routes.py` and of the renames of
`meshcore_config_routes.py` and `serial_config_routes.py`. The MeshCore companions and the
Meshtastic sticks are kept in lists of one shape: a label, a port, the settings of the form and an
identity that the form does not edit.

A saved list keeps the identities exactly when every row is `Settled` (`keepsIdentities_iff`), and
a rename changes the entry of the renamed device exactly when the first entry with its label has its
port (`changesOnly_iff`); `identities_kept_iff` says both of the routes.
-/

namespace Meshpoint.DeviceIdentities

open OrderedDict

/-! ### Lists of devices -/

/-- A configured device; `label` is `None` where the file has an empty one. -/
structure Entry (S I : Type) where
  label : Option String
  serialPort : Option String
  settings : S
  identity : I
deriving DecidableEq

/-- A row of a request. -/
structure Row (S : Type) where
  label : String
  serialPort : Option String
  settings : S

/-- What the body of a request holds. -/
structure ListUpdate (S : Type) where
  rows : List (Row S)
  enableSource : Option Bool

section Lists

variable {S I : Type}

/-- `entry.label or ""`. -/
def Entry.labelText (e : Entry S I) : String := e.label.getD ""

/-- The label and port that tell a device from the others. -/
def Entry.place (e : Entry S I) : String × String := (e.labelText, e.serialPort.getD "")

def Row.place (r : Row S) : String × String := (r.label, PyText.strip (r.serialPort.getD ""))

/-- `serial_port.strip() if serial_port else None`. -/
def portOf : Option String → Option String
  | none => none
  | some port => if port = "" then none else some (PyText.strip port)

/-- The identities by label, as the dictionary over the list has them. -/
def identityByLabel (old : List (Entry S I)) : OrderedDict (Option String) I :=
  .ofList (old.map fun e => (e.label, e.identity))

def Row.toEntry (blank : I) (old : List (Entry S I)) (r : Row S) : Entry S I where
  label := some r.label
  serialPort := portOf r.serialPort
  settings := r.settings
  identity := ((identityByLabel old).get? (some r.label)).getD blank

def replaceList (blank : I) (old : List (Entry S I)) (rows : List (Row S)) : List (Entry S I) :=
  rows.map (Row.toEntry blank old)

/-- The first entry with a label gets the new identity; `none` when there is none. -/
def renameFirst (label : String) (rename : I → I) : List (Entry S I) → Option (List (Entry S I))
  | [] => none
  | e :: rest =>
    if e.labelText = label then some ({ e with identity := rename e.identity } :: rest)
    else (renameFirst label rename rest).map (e :: ·)

/-- `capture.sources` after `enable_source`, and the value to save when it changes. -/
def updateSources (name : String) (enable : Option Bool) (sources : List String) :
    List String × Option (List String) :=
  match enable with
  | none => (sources, none)
  | some true =>
    if name ∈ sources then (sources, none) else (sources ++ [name], some (sources ++ [name]))
  | some false =>
    if name ∈ sources then (sources.filter (· ≠ name), some (sources.filter (· ≠ name)))
    else (sources, none)

end Lists

/-! ### The configuration and its routes -/

structure MeshcoreSettings where
  baudRate : Int
  autoDetect : Bool
deriving DecidableEq

/-- The identity is `companion_name`. -/
abbrev MeshcoreUsbConfig := Entry MeshcoreSettings (Option String)

/-- The names of a Meshtastic stick. -/
structure Owner where
  longName : Option String
  shortName : Option String
deriving DecidableEq

/-- The settings are `serial_baud`. -/
abbrev SerialDeviceConfig := Entry Int Owner

/-- What the routes use of `_config.capture`. -/
structure Capture where
  sources : List String
  meshcoreUsb : List MeshcoreUsbConfig
  serial : List SerialDeviceConfig

/-- The values that are saved to the `capture` section: a list of dictionaries, each with the
    fields of an entry, and the sources. -/
structure Saved (S I : Type) where
  devices : List (Entry S I)
  sources : Option (List String)

/-- `update_meshcore_companions`: the new configuration and what is saved. -/
def updateMeshcoreCompanions (capture : Capture) (req : ListUpdate MeshcoreSettings) :
    Capture × Saved MeshcoreSettings (Option String) :=
  let newCompanions := replaceList none capture.meshcoreUsb req.rows
  let sources := updateSources "meshcore_usb" req.enableSource capture.sources
  ({ capture with meshcoreUsb := newCompanions, sources := sources.1 },
    ⟨newCompanions, sources.2⟩)

/-- The rows that `update_serial_devices` takes: among several, those with a port. -/
def devicesIn (rows : List (Row Int)) : List (Row Int) :=
  if 1 < rows.length then rows.filter fun d => PyText.strip (d.serialPort.getD "") ≠ ""
  else rows

/-- `update_serial_devices`: the new configuration and what is saved. -/
def updateSerialDevices (capture : Capture) (req : ListUpdate Int) : Capture × Saved Int Owner :=
  let newDevices := replaceList ⟨none, none⟩ capture.serial (devicesIn req.rows)
  let sources := updateSources "serial" req.enableSource capture.sources
  ({ capture with serial := newDevices, sources := sources.1 }, ⟨newDevices, sources.2⟩)

/-- A capture source, with the entry that it was built from at the start of the service. -/
structure Source (S I : Type) where
  entry : Entry S I
  connected : Bool

/-- `f"{base}_{label}" if label else base`. -/
def sourceName (base label : String) : String := if label = "" then base else base ++ "_" ++ label

def Source.name {S I : Type} (base : String) (s : Source S I) : String :=
  sourceName base s.entry.labelText

/-- `_resolve_companion_source` and `_resolve_serial_source`. -/
def resolveSource {S I : Type} (base : String) (sources : List (Source S I)) (label : String) :
    Option (Source S I) :=
  sources.find? fun s => s.name base == sourceName base label

def resolveCompanionSource (sources : List (Source MeshcoreSettings (Option String)))
    (label : String) : Option (Source MeshcoreSettings (Option String)) :=
  resolveSource "meshcore_usb" sources label

def resolveSerialSource (sources : List (Source Int Owner)) (label : String) :
    Option (Source Int Owner) :=
  resolveSource "serial" sources label

inductive RouteError where
  | notConnected
  | rejected

/-- A route that renames the source with a label: `answer` is the name that the device has taken. -/
def renameDevice {S I N R : Type} (base : String) (sources : List (Source S I)) (label : String)
    (answer : Option N) (persist : N → R) : Except RouteError R :=
  match resolveSource base sources label with
  | none => .error .notConnected
  | some source =>
    if source.connected then
      match answer with
      | none => .error .rejected
      | some name => .ok (persist name)
    else .error .notConnected

def MAX_COMPANION_NAME_BYTES : Nat := 32

/-- `set_companion_name`, for the answer of the device: the name it has then. -/
def setCompanionName (name : String) (accepted : Bool) : Option String :=
  let cleaned := PyText.strip name
  if cleaned = "" ∨ MAX_COMPANION_NAME_BYTES < (ByteCodec.utf8 cleaned).length then none
  else if accepted then some cleaned else none

/-- `_persist_companion_name`: the list in memory, and what is saved. -/
def persistCompanionName (label name : String) (capture : Capture) :
    Capture × Option (List MeshcoreUsbConfig) :=
  match renameFirst label (fun _ => some name) capture.meshcoreUsb with
  | none => (capture, none)
  | some entries => ({ capture with meshcoreUsb := entries }, some entries)

/-- `update_companion_name`. -/
def updateCompanionName (sources : List (Source MeshcoreSettings (Option String)))
    (capture : Capture) (label name : String) (accepted : Bool) :
    Except RouteError (Capture × Option (List MeshcoreUsbConfig)) :=
  renameDevice "meshcore_usb" sources label (setCompanionName name accepted) fun cleaned =>
    persistCompanionName label cleaned capture

/-- One name in `set_owner`: cleaned, or `none` when it is empty or too long. -/
def cleanName (limit : Nat) : Option String → Option (Option String)
  | none => some none
  | some name =>
    let cleaned := PyText.strip name
    if cleaned = "" ∨ limit < cleaned.length then none else some (some cleaned)

/-- `set_owner`, for the answer of the device. -/
def setOwner (longName shortName : Option String) (accepted : Bool) : Option Owner := do
  let long ← cleanName 36 longName
  let short ← cleanName 4 shortName
  if accepted then some ⟨long, short⟩ else none

/-- The names that are not `None` replace those of the entry. -/
def Owner.rename (owner entry : Owner) : Owner :=
  ⟨owner.longName.or entry.longName, owner.shortName.or entry.shortName⟩

/-- `_persist_serial_identity`: the list in memory, and what is saved. -/
def persistSerialIdentity (label : String) (owner : Owner) (capture : Capture) :
    Capture × Option (List SerialDeviceConfig) :=
  match renameFirst label owner.rename capture.serial with
  | none => (capture, none)
  | some entries => ({ capture with serial := entries }, some entries)

/-- `update_serial_identity`. -/
def updateSerialIdentity (sources : List (Source Int Owner)) (capture : Capture) (label : String)
    (longName shortName : Option String) (accepted : Bool) :
    Except RouteError (Capture × Option (List SerialDeviceConfig)) :=
  renameDevice "serial" sources label (setOwner longName shortName accepted) fun owner =>
    persistSerialIdentity label owner capture

/-! ### What a saved list keeps -/

section Kept

variable {S I : Type}

/-- The device of the entry `n` is that of the old entry `e`: they have one label and port, or one
    label where no old entry is at the port of `n` and no new one at the port of `e`, so that the
    device has moved. -/
def SameDevice (old new : List (Entry S I)) (e n : Entry S I) : Prop :=
  e.place = n.place ∨
    (e.labelText = n.labelText ∧ (∀ e' ∈ old, e'.place ≠ n.place) ∧ ∀ n' ∈ new, e.place ≠ n'.place)

/-- A device that is still there has its identity, and none has that of another device. -/
structure KeepsIdentities (blank : I) (old new : List (Entry S I)) : Prop where
  kept : ∀ e ∈ old, ∀ n ∈ new, e.place = n.place → n.identity = e.identity
  own : ∀ n ∈ new, n.identity = blank ∨
    ∃ e ∈ old, SameDevice old new e n ∧ n.identity = e.identity

def lastLabelled (old : List (Entry S I)) (label : String) : Option (Entry S I) :=
  old.reverse.find? fun e => e.label = some label

/-- The row can be told from the others by its label: the entries at its place have the identity of
    the last entry with its label, and where there are none that entry has no identity, or one with
    this identity has left its place. -/
def Settled (blank : I) (old : List (Entry S I)) (rows : List (Row S)) (r : Row S) : Prop :=
  match lastLabelled old r.label with
  | none => ∀ e ∈ old, e.place = r.place → e.identity = blank
  | some last =>
    (∀ e ∈ old, e.place = r.place → e.identity = last.identity) ∧
      ((∀ e ∈ old, e.place ≠ r.place) → last.identity = blank ∨
        ∃ e ∈ old, e.labelText = r.label ∧ e.identity = last.identity ∧
          ∀ r' ∈ rows, e.place ≠ r'.place)

theorem get?_identityByLabel (old : List (Entry S I)) (label : String) :
    (identityByLabel old).get? (some label) = (lastLabelled old label).map Entry.identity := by
  unfold identityByLabel lastLabelled
  rw [OrderedDict.ofList, get?_update, ← List.map_reverse, List.find?_map]
  simp [Function.comp_def]

@[simp] theorem labelText_toEntry (blank : I) (old : List (Entry S I)) (r : Row S) :
    (r.toEntry blank old).labelText = r.label := rfl

theorem identity_toEntry (blank : I) (old : List (Entry S I)) (r : Row S) :
    (r.toEntry blank old).identity =
      ((lastLabelled old r.label).map Entry.identity).getD blank := by
  rw [Row.toEntry, get?_identityByLabel]

@[simp] theorem place_toEntry (blank : I) (old : List (Entry S I)) (r : Row S) :
    (r.toEntry blank old).place = r.place := by
  have hport : (portOf r.serialPort).getD "" = PyText.strip (r.serialPort.getD "") := by
    cases r.serialPort with
    | none => rfl
    | some port =>
      by_cases hempty : port = ""
      · rw [hempty]
        rfl
      · rw [portOf, if_neg hempty]
        rfl
  exact congrArg (Prod.mk r.label) hport

theorem sameDevice_toEntry_iff (blank : I) (old : List (Entry S I)) (rows : List (Row S))
    (e : Entry S I) (r : Row S) :
    SameDevice old (replaceList blank old rows) e (r.toEntry blank old) ↔
      e.place = r.place ∨ (e.labelText = r.label ∧ (∀ e' ∈ old, e'.place ≠ r.place) ∧
        ∀ r' ∈ rows, e.place ≠ r'.place) := by
  simp [SameDevice, replaceList]

theorem settled_iff (blank : I) (old : List (Entry S I)) (rows : List (Row S)) (r : Row S) :
    Settled blank old rows r ↔
      (∀ e ∈ old, e.place = r.place → (r.toEntry blank old).identity = e.identity) ∧
        ((r.toEntry blank old).identity = blank ∨
          ∃ e ∈ old, SameDevice old (replaceList blank old rows) e (r.toEntry blank old) ∧
            (r.toEntry blank old).identity = e.identity) := by
  simp only [sameDevice_toEntry_iff, identity_toEntry, Settled]
  cases lastLabelled old r.label with
  | none =>
    constructor
    · exact fun h => ⟨fun e he hplace => (h e he hplace).symm, .inl rfl⟩
    · exact fun h e he hplace => (h.1 e he hplace).symm
  | some last =>
    simp only [Option.map_some, Option.getD_some]
    constructor
    · rintro ⟨hkept, hmoved⟩
      refine ⟨fun e he hplace => (hkept e he hplace).symm, ?_⟩
      by_cases hthere : ∃ e ∈ old, e.place = r.place
      · obtain ⟨e, he, hplace⟩ := hthere
        exact .inr ⟨e, he, .inl hplace, (hkept e he hplace).symm⟩
      · have hnone : ∀ e ∈ old, e.place ≠ r.place := fun e he hplace => hthere ⟨e, he, hplace⟩
        rcases hmoved hnone with hblank | ⟨e, he, hlabel, hidentity, hleft⟩
        · exact .inl hblank
        · exact .inr ⟨e, he, .inr ⟨hlabel, hnone, hleft⟩, hidentity.symm⟩
    · rintro ⟨hkept, hown⟩
      refine ⟨fun e he hplace => (hkept e he hplace).symm, fun hnone => ?_⟩
      rcases hown with hblank | ⟨e, he, hsame, hidentity⟩
      · exact .inl hblank
      · rcases hsame with hplace | ⟨hlabel, -, hleft⟩
        · exact absurd hplace (hnone e he)
        · exact .inr ⟨e, he, hlabel, hidentity.symm, hleft⟩

/-- **A saved list** keeps the identities exactly when every row can be told from the others. -/
theorem keepsIdentities_iff (blank : I) (old : List (Entry S I)) (rows : List (Row S)) :
    KeepsIdentities blank old (replaceList blank old rows) ↔
      ∀ r ∈ rows, Settled blank old rows r := by
  simp only [settled_iff]
  constructor
  · rintro ⟨hkept, hown⟩ r hr
    have hmem : r.toEntry blank old ∈ replaceList blank old rows := List.mem_map_of_mem hr
    refine ⟨fun e he hplace => hkept e he _ hmem ?_, hown _ hmem⟩
    rw [place_toEntry, hplace]
  · intro h
    constructor
    · intro e he n hn hplace
      obtain ⟨r, hr, rfl⟩ := List.mem_map.mp hn
      exact (h r hr).1 e he (by rw [hplace, place_toEntry])
    · intro n hn
      obtain ⟨r, hr, rfl⟩ := List.mem_map.mp hn
      exact (h r hr).2

theorem settled_of_nodup {blank : I} {old : List (Entry S I)} {rows : List (Row S)}
    (hold : (old.map Entry.label).Nodup) (hnull : ∀ e ∈ old, e.label ≠ none)
    (hrows : (rows.map Row.label).Nodup) {r : Row S} (hr : r ∈ rows) :
    Settled blank old rows r := by
  have hlabel : ∀ e ∈ old, e.labelText = r.label → e.label = some r.label := by
    intro e he htext
    obtain ⟨label, hsome⟩ := Option.ne_none_iff_exists'.mp (hnull e he)
    rw [Entry.labelText, hsome] at htext
    rw [hsome, ← htext]
    rfl
  unfold Settled
  cases hlast : lastLabelled old r.label with
  | none =>
    intro e he hplace
    have hnot := List.find?_eq_none.mp hlast e (List.mem_reverse.mpr he)
    simp [hlabel e he (congrArg Prod.fst hplace)] at hnot
  | some last =>
    have hmem : last ∈ old := List.mem_reverse.mp (List.mem_of_find?_eq_some hlast)
    have hlastLabel : last.label = some r.label := by simpa using List.find?_some hlast
    refine ⟨fun e he hplace => ?_, fun hnone => .inr ⟨last, hmem, ?_, rfl, fun r' hr' hplace => ?_⟩⟩
    · have heq := hlabel e he (congrArg Prod.fst hplace)
      rw [List.inj_on_of_nodup_map hold he hmem (heq.trans hlastLabel.symm)]
    · rw [Entry.labelText, hlastLabel]
      rfl
    · have hsame : r'.label = r.label := by
        have hfst := congrArg Prod.fst hplace
        simpa [Entry.place, Entry.labelText, hlastLabel, Row.place] using hfst.symm
      rw [List.inj_on_of_nodup_map hrows hr' hr hsame] at hplace
      exact hnone last hmem hplace

end Kept

/-! ### What a rename changes -/

section Renamed

variable {S I : Type}

/-- The entry of the renamed device gets the new identity, and every other entry stays; nothing
    changes when the device has no entry. -/
def ChangesOnly (s : Source S I) (rename : I → I) (old new : List (Entry S I)) : Prop :=
  (∃ i e, old[i]? = some e ∧ e.place = s.entry.place ∧
    new = old.set i { e with identity := rename e.identity }) ∨
  ((∀ e ∈ old, e.place ≠ s.entry.place) ∧ new = old)

def firstLabelled (old : List (Entry S I)) (label : String) : Option (Entry S I) :=
  old.find? fun e => e.labelText = label

theorem renameFirst_eq_none {old : List (Entry S I)} {label : String} (rename : I → I)
    (h : firstLabelled old label = none) : renameFirst label rename old = none := by
  induction old with
  | nil => rfl
  | cons e rest ih =>
    have hnot := List.find?_eq_none.mp h
    have hlabel : e.labelText ≠ label := by simpa using hnot e (List.mem_cons_self ..)
    have hrest : firstLabelled rest label = none :=
      List.find?_eq_none.mpr fun e' he' => hnot e' (List.mem_cons_of_mem _ he')
    rw [renameFirst, if_neg hlabel, ih hrest, Option.map_none]

theorem renameFirst_eq_set {old : List (Entry S I)} {label : String} (rename : I → I)
    {first : Entry S I} (h : firstLabelled old label = some first) :
    ∃ i, old[i]? = some first ∧ renameFirst label rename old =
      some (old.set i { first with identity := rename first.identity }) := by
  induction old with
  | nil => cases h
  | cons e rest ih =>
    unfold firstLabelled at h
    rw [List.find?_cons] at h
    by_cases hlabel : e.labelText = label
    · simp only [hlabel, decide_true, Option.some.injEq] at h
      subst h
      exact ⟨0, rfl, by rw [renameFirst, if_pos hlabel, List.set_cons_zero]⟩
    · simp only [hlabel, decide_false] at h
      obtain ⟨i, hi, hset⟩ := ih h
      exact ⟨i + 1, hi, by rw [renameFirst, if_neg hlabel, hset, Option.map_some,
        List.set_cons_succ]⟩

theorem changesOnly_of_first {old : List (Entry S I)} {label : String} {s : Source S I}
    (hs : s.entry.labelText = label) (rename : I → I)
    (h : ∀ first ∈ firstLabelled old label, first.place = s.entry.place) :
    ChangesOnly s rename old ((renameFirst label rename old).getD old) := by
  cases hfirst : firstLabelled old label with
  | none =>
    rw [renameFirst_eq_none rename hfirst]
    refine .inr ⟨fun e he hplace => ?_, rfl⟩
    have hnot := List.find?_eq_none.mp hfirst e he
    have hlabel : e.labelText = label := (congrArg Prod.fst hplace).trans hs
    simp [hlabel] at hnot
  | some first =>
    obtain ⟨i, hi, hset⟩ := renameFirst_eq_set rename hfirst
    rw [hset]
    exact .inl ⟨i, first, hi, h first hfirst, rfl⟩

/-- The rename of a device goes to another one whose entry is the first with its label. -/
theorem not_changesOnly_of_first {old : List (Entry S I)} {label : String} {s : Source S I}
    {rename : I → I} {first : Entry S I} (hfirst : firstLabelled old label = some first)
    (hplace : first.place ≠ s.entry.place) (hrename : rename first.identity ≠ first.identity) :
    ¬ ChangesOnly s rename old ((renameFirst label rename old).getD old) := by
  obtain ⟨i, hi, hset⟩ := renameFirst_eq_set rename hfirst
  obtain ⟨hlt, -⟩ := List.getElem?_eq_some_iff.mp hi
  rw [hset, Option.getD_some]
  have hchanged : (old.set i { first with identity := rename first.identity })[i]? ≠
      some first := by
    rw [List.getElem?_set_self hlt]
    intro heq
    exact hrename (congrArg Entry.identity (Option.some.inj heq))
  rintro (⟨j, e, hj, he, heq⟩ | ⟨-, heq⟩)
  · rw [heq] at hchanged
    by_cases hij : j = i
    · rw [hij, hi] at hj
      cases hj
      exact hplace he
    · rw [List.getElem?_set_ne hij] at hchanged
      exact hchanged hi
  · rw [heq] at hchanged
    exact hchanged hi

/-- **A rename.** When no identity stays the same under every name that a device takes, it changes
    the entry of its device exactly when the first entry with the label is that of the device. -/
theorem changesOnly_iff {old : List (Entry S I)} {label : String} {s : Source S I}
    (hs : s.entry.labelText = label) {Q N : Type} {answer : Q → Option N} {rename : N → I → I}
    (hrenames : ∀ identity, ∃ q name, answer q = some name ∧ rename name identity ≠ identity) :
    (∀ q name, answer q = some name →
      ChangesOnly s (rename name) old ((renameFirst label (rename name) old).getD old)) ↔
      ∀ first ∈ firstLabelled old label, first.place = s.entry.place := by
  constructor
  · intro h first hfirst
    obtain ⟨q, name, hanswer, hne⟩ := hrenames first.identity
    by_contra hplace
    exact not_changesOnly_of_first hfirst hplace hne (h q name hanswer)
  · exact fun h q name _ => changesOnly_of_first hs (rename name) h

end Renamed

/-! ### Renames by the routes -/

theorem sourceName_injective (base : String) : Function.Injective (sourceName base) := by
  intro label label' h
  have hlength : ∀ l, (sourceName base l).length =
      if l = "" then base.length else base.length + 1 + l.length := by
    intro l
    unfold sourceName
    split
    · rfl
    · rw [String.length_append, String.length_append]
      rfl
  by_cases hempty : label = ""
  · by_cases hempty' : label' = ""
    · rw [hempty, hempty']
    · have := hlength label
      rw [h, hlength label', if_pos hempty, if_neg hempty'] at this
      omega
  · by_cases hempty' : label' = ""
    · have := hlength label
      rw [h, hlength label', if_neg hempty, if_pos hempty'] at this
      omega
    · simp only [sourceName, hempty, hempty', if_false] at h
      have hlists := congrArg String.toList h
      simp only [String.toList_append] at hlists
      exact String.toList_inj.mp (List.append_cancel_left hlists)

theorem labelText_of_resolveSource {S I : Type} {base : String} {sources : List (Source S I)}
    {label : String} {s : Source S I} (h : resolveSource base sources label = some s) :
    s.entry.labelText = label := by
  have hname := List.find?_some h
  exact sourceName_injective base (by simpa [Source.name] using hname)

/-- What a rename by label may do: it gives the name to the entry of the source that it is sent to
    and changes nothing else, in memory and in what is saved. -/
def RenamesOwnCompanion (sources : List (Source MeshcoreSettings (Option String)))
    (capture : Capture) (label : String) (s : Source MeshcoreSettings (Option String)) : Prop :=
  ∀ name accepted result, updateCompanionName sources capture label name accepted = .ok result →
    ChangesOnly s (fun _ => some (PyText.strip name)) capture.meshcoreUsb result.1.meshcoreUsb ∧
      result.1 = { capture with meshcoreUsb := result.1.meshcoreUsb } ∧
        ∀ entries ∈ result.2, entries = result.1.meshcoreUsb

def RenamesOwnDevice (sources : List (Source Int Owner)) (capture : Capture) (label : String)
    (s : Source Int Owner) : Prop :=
  ∀ longName shortName accepted result,
    updateSerialIdentity sources capture label longName shortName accepted = .ok result →
    ChangesOnly s (Owner.rename ⟨longName.map PyText.strip, shortName.map PyText.strip⟩)
        capture.serial result.1.serial ∧
      result.1 = { capture with serial := result.1.serial } ∧
        ∀ entries ∈ result.2, entries = result.1.serial

theorem setCompanionName_eq_some {name cleaned : String} {accepted : Bool}
    (h : setCompanionName name accepted = some cleaned) : cleaned = PyText.strip name := by
  simp only [setCompanionName] at h
  split at h
  · contradiction
  · cases accepted
    · cases h
    · exact (Option.some.inj h).symm

theorem persistCompanionName_spec (label name : String) (capture : Capture) :
    let result := persistCompanionName label name capture
    result.1.meshcoreUsb =
        (renameFirst label (fun _ => some name) capture.meshcoreUsb).getD capture.meshcoreUsb ∧
      result.1 = { capture with meshcoreUsb := result.1.meshcoreUsb } ∧
        ∀ entries ∈ result.2, entries = result.1.meshcoreUsb := by
  unfold persistCompanionName
  cases renameFirst label (fun _ => some name) capture.meshcoreUsb with
  | none => exact ⟨rfl, rfl, nofun⟩
  | some entries => exact ⟨rfl, rfl, fun _ h => (Option.some.inj h).symm⟩

theorem renameDevice_eq_ok_iff {S I N R : Type} {base : String} {sources : List (Source S I)}
    {label : String} {s : Source S I} (hs : resolveSource base sources label = some s)
    (hconnected : s.connected = true) {answer : Option N} {persist : N → R} {result : R} :
    renameDevice base sources label answer persist = .ok result ↔
      ∃ name, answer = some name ∧ result = persist name := by
  simp only [renameDevice, hs, hconnected, if_true]
  cases answer with
  | none => simp
  | some name => simp [eq_comm]

/-- **The rename of a companion.** -/
theorem renamesOwnCompanion_iff {sources : List (Source MeshcoreSettings (Option String))}
    {capture : Capture} {label : String} {s : Source MeshcoreSettings (Option String)}
    (hs : resolveCompanionSource sources label = some s) (hconnected : s.connected = true) :
    RenamesOwnCompanion sources capture label s ↔
      ∀ first ∈ firstLabelled capture.meshcoreUsb label, first.place = s.entry.place := by
  have hrenames : ∀ identity : Option String, ∃ (q : String × Bool) (cleaned : String),
      setCompanionName q.1 q.2 = some cleaned ∧ some cleaned ≠ identity := by
    intro identity
    by_cases ha : identity = some "a"
    · exact ⟨("b", true), "b", by decide +kernel, by rw [ha]; decide⟩
    · exact ⟨("a", true), "a", by decide +kernel, fun h => ha h.symm⟩
  rw [← changesOnly_iff (labelText_of_resolveSource hs) hrenames]
  unfold RenamesOwnCompanion updateCompanionName
  simp only [renameDevice_eq_ok_iff hs hconnected]
  constructor
  · intro h q cleaned hset
    have hchanges := (h q.1 q.2 _ ⟨cleaned, hset, rfl⟩).1
    rwa [(persistCompanionName_spec label cleaned capture).1,
      ← setCompanionName_eq_some hset] at hchanges
  · rintro h name accepted _ ⟨cleaned, hset, rfl⟩
    obtain ⟨hentries, hrest⟩ := persistCompanionName_spec label cleaned capture
    refine ⟨?_, hrest⟩
    rw [hentries, ← setCompanionName_eq_some hset]
    exact h (name, accepted) cleaned hset

theorem cleanName_eq_some {limit : Nat} {name cleaned : Option String}
    (h : cleanName limit name = some cleaned) : cleaned = name.map PyText.strip := by
  cases name with
  | none => exact (Option.some.inj h).symm
  | some name =>
    simp only [cleanName] at h
    split at h
    · cases h
    · exact (Option.some.inj h).symm

theorem setOwner_eq_some {longName shortName : Option String} {accepted : Bool} {owner : Owner}
    (h : setOwner longName shortName accepted = some owner) :
    owner = ⟨longName.map PyText.strip, shortName.map PyText.strip⟩ := by
  obtain ⟨long, hlong, h⟩ := Option.bind_eq_some_iff.mp h
  obtain ⟨short, hshort, h⟩ := Option.bind_eq_some_iff.mp h
  cases accepted
  · cases h
  · cases h
    rw [cleanName_eq_some hlong, cleanName_eq_some hshort]

theorem persistSerialIdentity_spec (label : String) (owner : Owner) (capture : Capture) :
    let result := persistSerialIdentity label owner capture
    result.1.serial = (renameFirst label owner.rename capture.serial).getD capture.serial ∧
      result.1 = { capture with serial := result.1.serial } ∧
        ∀ entries ∈ result.2, entries = result.1.serial := by
  unfold persistSerialIdentity
  cases renameFirst label owner.rename capture.serial with
  | none => exact ⟨rfl, rfl, nofun⟩
  | some entries => exact ⟨rfl, rfl, fun _ h => (Option.some.inj h).symm⟩

/-- **The rename of a stick.** -/
theorem renamesOwnDevice_iff {sources : List (Source Int Owner)} {capture : Capture}
    {label : String} {s : Source Int Owner} (hs : resolveSerialSource sources label = some s)
    (hconnected : s.connected = true) :
    RenamesOwnDevice sources capture label s ↔
      ∀ first ∈ firstLabelled capture.serial label, first.place = s.entry.place := by
  have hrenames : ∀ identity : Owner, ∃ (q : Option String × Option String × Bool) (owner : Owner),
      setOwner q.1 q.2.1 q.2.2 = some owner ∧ owner.rename identity ≠ identity := by
    intro identity
    by_cases ha : identity.longName = some "a"
    · refine ⟨(some "b", none, true), ⟨some "b", none⟩, by decide +kernel, fun h => ?_⟩
      have hlong : some "b" = identity.longName := congrArg Owner.longName h
      rw [ha] at hlong
      exact absurd hlong (by decide)
    · refine ⟨(some "a", none, true), ⟨some "a", none⟩, by decide +kernel, fun h => ?_⟩
      exact ha (congrArg Owner.longName h).symm
  rw [← changesOnly_iff (labelText_of_resolveSource hs) hrenames]
  unfold RenamesOwnDevice updateSerialIdentity
  simp only [renameDevice_eq_ok_iff hs hconnected]
  constructor
  · intro h q owner hset
    have hchanges := (h q.1 q.2.1 q.2.2 _ ⟨owner, hset, rfl⟩).1
    rwa [(persistSerialIdentity_spec label owner capture).1, ← setOwner_eq_some hset] at hchanges
  · rintro h longName shortName accepted _ ⟨owner, hset, rfl⟩
    obtain ⟨hentries, hrest⟩ := persistSerialIdentity_spec label owner capture
    refine ⟨?_, hrest⟩
    rw [hentries, ← setOwner_eq_some hset]
    exact h (longName, shortName, accepted) owner hset

/-- **Identities of devices.** A saved list of companions or sticks keeps the identities exactly
    when every row of it can be told from the others by its label, and a rename by label changes the
    entry of the renamed device alone exactly when the first entry with the label has its port. -/
theorem identities_kept_iff (capture : Capture) :
    (∀ req, KeepsIdentities none capture.meshcoreUsb
        (updateMeshcoreCompanions capture req).1.meshcoreUsb ↔
      ∀ r ∈ req.rows, Settled none capture.meshcoreUsb req.rows r) ∧
    (∀ req, KeepsIdentities ⟨none, none⟩ capture.serial
        (updateSerialDevices capture req).1.serial ↔
      ∀ r ∈ devicesIn req.rows,
        Settled ⟨none, none⟩ capture.serial (devicesIn req.rows) r) ∧
    (∀ sources label s, resolveCompanionSource sources label = some s → s.connected = true →
      (RenamesOwnCompanion sources capture label s ↔
        ∀ first ∈ firstLabelled capture.meshcoreUsb label, first.place = s.entry.place)) ∧
    ∀ sources label s, resolveSerialSource sources label = some s → s.connected = true →
      (RenamesOwnDevice sources capture label s ↔
        ∀ first ∈ firstLabelled capture.serial label, first.place = s.entry.place) := by
  refine ⟨fun req => ?_, fun req => ?_, fun sources label s hs hconnected => ?_,
    fun sources label s hs hconnected => ?_⟩
  · exact keepsIdentities_iff none capture.meshcoreUsb req.rows
  · exact keepsIdentities_iff ⟨none, none⟩ capture.serial (devicesIn req.rows)
  · exact renamesOwnCompanion_iff hs hconnected
  · exact renamesOwnDevice_iff hs hconnected

/-! ### Two companions -/

def usbSettings : MeshcoreSettings := ⟨115200, true⟩

/-- Two companions with these labels and the names `North` and `South`. -/
def twoCompanions (north south : String) : Capture where
  sources := ["meshcore_usb"]
  meshcoreUsb := [⟨some north, some "/dev/ttyACM0", usbSettings, some "North"⟩,
    ⟨some south, some "/dev/ttyACM1", usbSettings, some "South"⟩]
  serial := []

def swappedRows (north south : String) : ListUpdate MeshcoreSettings :=
  ⟨[⟨south, some "/dev/ttyACM1", usbSettings⟩, ⟨north, some " /dev/ttyACM0", usbSettings⟩], none⟩

def sourcesOf (capture : Capture) : List (Source MeshcoreSettings (Option String)) :=
  capture.meshcoreUsb.map fun e => ⟨e, true⟩

/-- Labelled companions keep their names, and a rename goes to the right entry. -/
theorem identities_kept_labelled :
    KeepsIdentities none (twoCompanions "868" "433").meshcoreUsb
        (updateMeshcoreCompanions (twoCompanions "868" "433")
          (swappedRows "868" "433")).1.meshcoreUsb ∧
      RenamesOwnCompanion (sourcesOf (twoCompanions "868" "433")) (twoCompanions "868" "433") "868"
        ⟨⟨some "868", some "/dev/ttyACM0", usbSettings, some "North"⟩, true⟩ := by
  obtain ⟨hlist, -, hrename, -⟩ := identities_kept_iff (twoCompanions "868" "433")
  constructor
  · refine (hlist (swappedRows "868" "433")).mpr fun r hr => ?_
    exact settled_of_nodup (by decide +kernel) (by decide +kernel) (by decide +kernel) hr
  · exact (hrename _ "868" _ rfl rfl).mpr (by decide +kernel)

/-- Without labels the first companion gets the name of the second; and after the labels were
    swapped a rename goes to the entry of the other companion. -/
theorem identities_swapped_unlabelled :
    (updateMeshcoreCompanions (twoCompanions "" "") (swappedRows "" "")).1.meshcoreUsb.map
        (fun e => (e.serialPort, e.identity)) =
      [(some "/dev/ttyACM1", some "South"), (some "/dev/ttyACM0", some "South")] ∧
    ¬ KeepsIdentities none (twoCompanions "" "").meshcoreUsb
      (updateMeshcoreCompanions (twoCompanions "" "") (swappedRows "" "")).1.meshcoreUsb ∧
    ¬ RenamesOwnCompanion (sourcesOf (twoCompanions "868" "433")) (twoCompanions "433" "868") "868"
      ⟨⟨some "868", some "/dev/ttyACM0", usbSettings, some "North"⟩, true⟩ := by
  refine ⟨by decide +kernel, fun h => ?_, fun h => ?_⟩
  · have hnorth := h.kept ⟨some "", some "/dev/ttyACM0", usbSettings, some "North"⟩
      (by decide +kernel) ⟨some "", some "/dev/ttyACM0", usbSettings, some "South"⟩
      (by decide +kernel) rfl
    exact absurd hnorth (by decide)
  · have hfirst := (renamesOwnCompanion_iff rfl rfl).mp h _ rfl
    exact absurd hfirst (by decide +kernel)

end Meshpoint.DeviceIdentities
