import Meshpoint.ConfigSchema

/-!
# Two layers of configuration

`_apply_yaml`, `_resolve_radio_frequency` and `load_config` of `src/config.py`: the default layer
and the local one are merged, one after the other, into the built-in configuration. The files are
given as parsed.

`Loaded` is what is intended: every dataclass is still there, a setting has the value of the last
layer that gives one, plugins are merged by id, and of the keys exactly those that are not applied
are reported.
-/

namespace Meshpoint.ConfigLayers

open OrderedDict ConfigFile ConfigMerge ConfigSchema RadioSettings

section

variable {O F : Type} [DecidableEq O] [RadioFloat F] (py : Python O F)

/-! ### Keys beside the sections -/

/-- What `plugins.<id>` becomes: a mapping updates a mapping, anything else replaces it. -/
def mergePlugin : Option (Doc O F) → Doc O F → Doc O F
  | some (.dict old), .dict conf => .dict (updateItems old conf)
  | _, conf => conf

def applyPlugins (plugins : OrderedDict (Key O) (Doc O F)) :
    Option (Doc O F) → OrderedDict (Key O) (Doc O F)
  | some (.dict entries) =>
    entries.foldl
      (fun acc entry => acc.set entry.1 (mergePlugin (acc.get? entry.1) entry.2)) plugins
  | _ => plugins

/-- The mappings of `plugin_sources`; none when it is no list. -/
def sourcesOf : Doc O F → Option (List (Entries (Key O) (Scalar O F)))
  | .list items => some (items.filterMap fun item =>
      match item with
      | .dict source => some source
      | _ => none)
  | _ => none

/-- `plugin_sources_enabled`; none when it is no Boolean. -/
def enabledOf : Doc O F → Option Bool
  | .scalar (.bool value) => some value
  | _ => none

/-- `plugins`, `plugin_sources` and `plugin_sources_enabled` are read. -/
def applyPopped (raw : Entries (Key O) (Scalar O F)) (cfg : AppConfig O F) : AppConfig O F where
  sections := cfg.sections
  plugins := applyPlugins cfg.plugins (lookupItems (.str "plugins") raw)
  pluginSources := ((lookupItems (.str "plugin_sources") raw).bind sourcesOf).getD cfg.pluginSources
  pluginSourcesEnabled :=
    ((lookupItems (.str "plugin_sources_enabled") raw).bind enabledOf).getD
      cfg.pluginSourcesEnabled

def withoutPopped (raw : Entries (Key O) (Scalar O F)) : Entries (Key O) (Scalar O F) :=
  eraseItems (.str "plugin_sources_enabled")
    (eraseItems (.str "plugin_sources") (eraseItems (.str "plugins") raw))

/-! ### Lists of devices -/

abbrev Sections (O F : Type) := List (String × Section O F)

/-- The functions that read the lists of devices of a section, by key. -/
abbrev Coercions (O F : Type) := List (String × (Doc O F → Option (Setting O F)))

/-- The keys that are taken out of the mapping for a section and assigned. -/
def coerceKeys : Coercions O F → Fields (Setting O F) → Entries (Key O) (Scalar O F) →
    Option (Fields (Setting O F) × Entries (Key O) (Scalar O F))
  | [], fields, entries => some (fields, entries)
  | (key, coerce) :: rest, fields, entries =>
    match lookupItems (.str key) entries with
    | none => coerceKeys rest fields entries
    | some value => (coerce value).bind fun setting =>
        coerceKeys rest (setItems key (.setting setting) fields) (eraseItems (.str key) entries)

/-- The same for every section that has such keys; the document is changed with them. -/
def coerceSections : List (String × Coercions O F) → Sections O F →
    Entries (Key O) (Scalar O F) → Option (Sections O F × Entries (Key O) (Scalar O F))
  | [], sections, raw => some (sections, raw)
  | (name, coercions) :: rest, sections, raw =>
    match lookupItems (.str name) raw, lookupItems name sections with
    | some (.dict entries), some sec =>
      (coerceKeys coercions sec.fields entries).bind fun coerced =>
        coerceSections rest (setItems name { sec with fields := coerced.1 } sections)
          (setItems (.str name) (.dict coerced.2) raw)
    | _, _ => coerceSections rest sections raw

/-! ### Sections -/

def applySection (sec : Section O F) (value : Doc O F) : Option (Section O F × List Trail) :=
  (mergeDataclass py.objects .yaml sec.fields value).bind fun fields =>
    (collectAttribute py.objects (.dataclass sec.cls fields) value).map fun unknown =>
      ({ sec with fields }, unknown)

/-- The loop over the sections. A key that is no text is unknown, and `", ".join` raises on it. -/
def applySections : Sections O F → Entries (Key O) (Scalar O F) →
    Option (Sections O F × List Trail)
  | sections, [] => some (sections, [])
  | _, (.other _, _) :: _ => none
  | sections, (.str name, value) :: rest =>
    match lookupItems name sections with
    | none => (applySections sections rest).map fun applied => (applied.1, [name] :: applied.2)
    | some sec =>
      (applySection py sec value).bind fun merged =>
        (applySections (setItems name merged.1 sections) rest).map fun applied =>
          (applied.1, merged.2.map (name :: ·) ++ applied.2)

/-- A configuration after a layer, and the keys that the layer's warning names. -/
structure Layer (O F : Type) where
  config : AppConfig O F
  unknown : List Trail

/-- The part of `_apply_yaml` for a mapping. -/
def applyMapping (raw : Entries (Key O) (Scalar O F)) (cfg : AppConfig O F) :
    Option (Layer O F) :=
  (coerceSections (coerced py) cfg.sections (withoutPopped raw)).bind fun coerced =>
    (applySections py coerced.1 coerced.2).map fun applied =>
      { config := { applyPopped raw cfg with sections := applied.1 }, unknown := applied.2 }

/-- `_apply_yaml`, of a file that does not exist or of the document that it holds. -/
def applyYaml : Option (Doc O F) → AppConfig O F → Option (Layer O F)
  | none, cfg => some ⟨cfg, []⟩
  | some doc, cfg =>
    match if py.objects.isTruthy doc then doc else .dict [] with
    | .dict raw => applyMapping py raw cfg
    | _ => some ⟨cfg, []⟩

/-! ### The radio frequency -/

/-- `value is None`. -/
def isNone : Attribute (Setting O F) → Bool
  | .setting (.yaml (.scalar .null)) => true
  | _ => false

/-- The region as a key of a table of texts: none for another scalar. Lists, mappings and instances
    are not hashable. -/
def regionKey : Attribute (Setting O F) → Option (Option String)
  | .setting (.yaml (.scalar (.str region))) => some (some region)
  | .setting (.yaml (.scalar (.other value))) => if py.otherHashable value then some none else none
  | .setting (.yaml (.scalar _)) => some none
  | _ => none

def defaultFrequency (region : Option String) : F :=
  (region.bind fun name => REGION_DEFAULTS.lookup name).getD (RadioFloat.decimal 9068750)

def slotFrequency (freqStart : F) : Attribute (Setting O F) → Attribute (Setting O F) → Option F
  | .setting (.yaml (.scalar bandwidthKhz)), .setting (.yaml (.scalar slot)) =>
    py.slotFrequency freqStart bandwidthKhz slot
  | _, _ => none

/-- `_resolve_radio_frequency`: what `frequency_mhz` becomes. -/
def resolvedFrequency (frequencyMhz slot region bandwidthKhz : Attribute (Setting O F)) :
    Option (Attribute (Setting O F)) :=
  if !isNone frequencyMhz then some frequencyMhz
  else
    (regionKey py region).bind fun region =>
      match if isNone slot then none else region.bind fun name => REGION_FREQ_START.lookup name with
      | some freqStart => (slotFrequency py freqStart bandwidthKhz slot).map fun frequency =>
          .setting (.yaml (.scalar (.float frequency)))
      | none => some (.setting (.yaml (.scalar (.float (defaultFrequency region)))))

/-- `radio.frequency_mhz = …`. -/
def withFrequency (radio : Section O F) (frequency : Attribute (Setting O F)) : Section O F :=
  { radio with fields := setItems "frequency_mhz" frequency radio.fields }

def resolveRadioFrequency (radio : Section O F) : Option (Section O F) :=
  match lookupItems "frequency_mhz" radio.fields, lookupItems "slot" radio.fields,
    lookupItems "region" radio.fields, lookupItems "bandwidth_khz" radio.fields with
  | some frequencyMhz, some slot, some region, some bandwidthKhz =>
    (resolvedFrequency py frequencyMhz slot region bandwidthKhz).map (withFrequency radio)
  | _, _, _, _ => none

/-! ### Loading -/

/-- What `load_config` comes to: the configuration after the default layer, after the local one,
    and as it is returned. -/
structure Load (O F : Type) where
  first : Layer O F
  second : Layer O F
  config : AppConfig O F

/-- The section is an object that the configuration holds. -/
def withRadio (cfg : AppConfig O F) (radio : Section O F) : AppConfig O F :=
  { cfg with sections := setItems "radio" radio cfg.sections }

/-- `load_config`. -/
def loadConfig (first second : Option (Doc O F)) : Option (Load O F) :=
  (applyYaml py first appConfig).bind fun first =>
    (applyYaml py second first.config).bind fun second =>
      (lookupItems "radio" second.config.sections).bind fun radio =>
        (resolveRadioFrequency py radio).map fun radio =>
          { first, second, config := withRadio second.config radio }

/-! ### What is intended -/

/-- A document whose top level is a mapping. -/
structure Document (O F : Type) [DecidableEq O] where
  raw : Entries (Key O) (Scalar O F)
  distinct : Distinct (.dict raw)

def Document.doc (document : Document O F) : Doc O F := .dict document.raw

/-- The function that reads the key of a section, if it is a list of devices. -/
def coercionOf (name key : String) : Option (Doc O F → Option (Setting O F)) :=
  (lookupItems name (coerced py)).bind (lookupItems key)

def parse : Trail → Doc O F → Option (Setting O F)
  | ["plugin_sources"], value =>
    (sourcesOf value).map fun sources => .yaml (.list (sources.map .dict))
  | ["plugin_sources_enabled"], value => (enabledOf value).map fun enabled => .yaml (bool enabled)
  | [name, key], value =>
    match coercionOf py name key with
    | some coerce => coerce value
    | none => some (.yaml value)
  | _, value => some (.yaml value)

/-- The value of the second document if it gives one, else of the first, else the built-in one. -/
def chosen (first second : Document O F) (trail : Trail) : Option (Attribute (Setting O F)) :=
  match docAt trail second.doc with
  | some value => (parse py trail value).map .setting
  | none =>
    match docAt trail first.doc with
    | some value => (parse py trail value).map .setting
    | none => appConfig.root.find trail

/-- `radio.frequency_mhz`, with the slot's or the region's frequency for null. -/
def chosenFrequency (first second : Document O F) : Option (Attribute (Setting O F)) :=
  (chosen py first second ["radio", "frequency_mhz"]).bind fun frequencyMhz =>
    (chosen py first second ["radio", "slot"]).bind fun slot =>
      (chosen py first second ["radio", "region"]).bind fun region =>
        (chosen py first second ["radio", "bandwidth_khz"]).bind fun bandwidthKhz =>
          resolvedFrequency py frequencyMhz slot region bandwidthKhz

def intended (first second : Document O F) (trail : Trail) : Option (Attribute (Setting O F)) :=
  if trail = ["radio", "frequency_mhz"] then chosenFrequency py first second
  else chosen py first second trail

def Applied (cfg : AppConfig O F) (trail : Trail) (value : Doc O F) : Prop :=
  (appConfig : AppConfig O F).root.kindAt trail = some none ∧
    ∃ setting, parse py trail value = some setting ∧ cfg.root.find trail = some (.setting setting)

/-- Of the keys for a dataclass, those that are not applied are the unknown ones. `plugins` and the
    dataclasses themselves are no keys of this kind. -/
def Exact (document : Document O F) (layer : Layer O F) : Prop :=
  ∀ trail value, (appConfig : AppConfig O F).root.InstanceAt trail.dropLast →
    ¬ (appConfig : AppConfig O F).root.InstanceAt trail → trail ≠ ["plugins"] →
    docAt trail document.doc = some value →
      (trail ∈ layer.unknown ↔ ¬ Applied py layer.config trail value)

/-- The entries of `plugins`; none for what is true and no mapping. -/
def pluginEntries : Option (Doc O F) → Option (Entries (Key O) (Scalar O F))
  | none => some []
  | some (.dict entries) => some entries
  | some value => if py.objects.isTruthy value then none else some []

def layeredPlugin : Option (Doc O F) → Option (Doc O F) → Option (Doc O F)
  | first, none => first
  | first, some conf => some (mergePlugin first conf)

structure Intended (first second : Document O F) (load : Load O F) : Prop where
  instances : ∀ trail cls, (appConfig : AppConfig O F).root.kindAt trail = some (some cls) →
    load.config.root.kindAt trail = some (some cls)
  settings : ∀ trail, (appConfig : AppConfig O F).root.kindAt trail = some none →
    trail ≠ ["plugins"] → ∃ setting, intended py first second trail = some (.setting setting) ∧
      load.config.root.find trail = some (.setting setting)
  plugins : ∃ entries entries',
    pluginEntries py (lookupItems (.str "plugins") first.raw) = some entries ∧
      pluginEntries py (lookupItems (.str "plugins") second.raw) = some entries' ∧
        ∀ id, load.config.plugins.get? id =
          layeredPlugin (lookupItems id entries) (lookupItems id entries')
  firstExact : Exact py first load.first
  secondExact : Exact py second load.second

def Loaded (first second : Document O F) : Prop :=
  ∃ load, loadConfig py (some first.doc) (some second.doc) = some load ∧
    Intended py first second load

/-- The documents that a layer reads as intended. -/
structure Fits (document : Document O F) : Prop where
  texts : ∀ key ∈ document.raw.map Prod.fst, ∃ name, key = .str name
  /-- What is given for a section or a part of one is a mapping, whose keys are texts and name no
      special attribute; for a section it can also be false. -/
  sections : ∀ trail value, (appConfig : AppConfig O F).root.InstanceAt trail → trail ≠ [] →
    docAt trail document.doc = some value →
      PlainMapping py.objects value ∨ trail.length = 1 ∧ py.objects.isTruthy value = false
  settings : ∀ trail value, (appConfig : AppConfig O F).root.kindAt trail = some none →
    trail ≠ ["plugins"] → docAt trail document.doc = some value → (parse py trail value).isSome
  plugins : (pluginEntries py (lookupItems (.str "plugins") document.raw)).isSome

end

end Meshpoint.ConfigLayers
