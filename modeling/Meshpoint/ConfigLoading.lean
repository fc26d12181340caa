import Meshpoint.LayerSections

/-!
# Loading two layers

When `load_config` returns the configuration that is intended (`loaded_iff`): both documents fit the
built-in configuration, and the radio frequency can be computed. From documents that fit, each layer
keeps every instance, and the settings and unknown keys are those of the layer (`layer_of_fits`). In
the other direction the documents are taken from the last to the first (`fits_of_layer`): no merge
makes an instance, so that what is one in the end was one before each layer.
-/

namespace Meshpoint.ConfigLayers

open OrderedDict ConfigFile ConfigMerge ConfigSchema RadioSettings

section

variable {O F : Type}

/-! ### The whole tree -/

theorem lookupItems_sections (sections : Sections O F) (fields : Fields (Setting O F))
    (name : String) :
    lookupItems name (sections.map (fun sec => (sec.1, sec.2.toAttribute)) ++ fields) =
      ((lookupItems name sections).map Section.toAttribute).or (lookupItems name fields) := by
  induction sections with
  | nil => rfl
  | cons sec rest ih =>
    by_cases hname : sec.1 = name
    · simp [lookupItems, hname]
    · simp [lookupItems, hname, ih]

theorem find_root (cfg : AppConfig O F) (name : String) (rest : Trail) :
    cfg.root.find (name :: rest) =
      (((lookupItems name cfg.sections).map Section.toAttribute).or
        (lookupItems name cfg.beside)).bind (Attribute.find rest) := by
  rw [← lookupItems_sections]
  rfl

theorem find_section {cfg : AppConfig O F} {name : String} {sec : Section O F}
    (h : lookupItems name cfg.sections = some sec) (rest : Trail) :
    cfg.root.find (name :: rest) = sec.toAttribute.find rest := by
  rw [find_root, h]
  rfl

theorem kindAt_section {cfg : AppConfig O F} {name : String} {sec : Section O F}
    (h : lookupItems name cfg.sections = some sec) (rest : Trail) :
    cfg.root.kindAt (name :: rest) = sec.toAttribute.kindAt rest := by
  rw [Attribute.kindAt, find_section h]
  rfl

theorem find_beside {cfg : AppConfig O F} {name : String}
    (h : lookupItems name cfg.sections = none) (rest : Trail) :
    cfg.root.find (name :: rest) =
      (lookupItems name cfg.beside).bind (Attribute.find rest) := by
  rw [find_root, h]
  rfl

theorem kindAt_beside {cfg : AppConfig O F} {name : String}
    (h : lookupItems name cfg.sections = none) (rest : Trail) :
    cfg.root.kindAt (name :: rest) =
      if name ∈ ["plugins", "plugin_sources", "plugin_sources_enabled"] ∧ rest = [] then some none
      else none := by
  have hsetting : ∀ value : Setting O F, ((Attribute.setting value).find rest).map Attribute.kind =
      if rest = [] then some none else none := by
    intro value
    cases rest <;> rfl
  rw [Attribute.kindAt, find_beside h]
  by_cases h₁ : name = "plugins"
  · subst h₁
    simpa [AppConfig.beside, lookupItems] using hsetting _
  · by_cases h₂ : name = "plugin_sources"
    · subst h₂
      simpa [AppConfig.beside, lookupItems] using hsetting _
    · by_cases h₃ : name = "plugin_sources_enabled"
      · subst h₃
        simpa [AppConfig.beside, lookupItems] using hsetting _
      · have hnone : lookupItems name cfg.beside = none := by
          simp [AppConfig.beside, lookupItems, Ne.symm h₁, Ne.symm h₂, Ne.symm h₃]
        simp [hnone, h₁, h₂, h₃]

theorem exists_section {cfg : AppConfig O F} {name : String} {rest : Trail}
    (h : cfg.root.InstanceAt (name :: rest)) : ∃ sec, lookupItems name cfg.sections = some sec := by
  cases hsec : lookupItems name cfg.sections with
  | some sec => exact ⟨sec, rfl⟩
  | none =>
    obtain ⟨cls, hcls⟩ := h
    rw [kindAt_beside hsec] at hcls
    split at hcls <;> cases hcls

/-! ### Another frequency -/

theorem lookup_withRadio (cfg : AppConfig O F) (radio : Section O F) :
    lookupItems "radio" (withRadio cfg radio).sections = some radio := by
  rw [withRadio, lookupItems_setItems, if_pos rfl]

theorem find_frequency (cfg : AppConfig O F) (radio : Section O F)
    (frequency : Attribute (Setting O F)) (rest : Trail) :
    (withRadio cfg (withFrequency radio frequency)).root.find
      ("radio" :: "frequency_mhz" :: rest) = frequency.find rest := by
  rw [find_section (lookup_withRadio cfg _), Section.toAttribute, withFrequency,
    Attribute.find_cons, lookupItems_setItems, if_pos rfl, Option.bind_some]

theorem find_withFrequency {cfg : AppConfig O F} {radio : Section O F}
    (hradio : lookupItems "radio" cfg.sections = some radio)
    {frequency : Attribute (Setting O F)} {name key : String}
    (hne : ¬ (name = "radio" ∧ key = "frequency_mhz"))
    (rest : Trail) :
    (withRadio cfg (withFrequency radio frequency)).root.find (name :: key :: rest) =
      cfg.root.find (name :: key :: rest) := by
  by_cases hname : name = "radio"
  · subst hname
    have hkey : ¬ "frequency_mhz" = key := fun heq => hne ⟨rfl, heq.symm⟩
    rw [find_section (lookup_withRadio cfg _), find_section hradio, Section.toAttribute,
      Section.toAttribute, withFrequency, Attribute.find_cons, Attribute.find_cons,
      lookupItems_setItems, if_neg hkey]
  · rw [find_root, find_root, withRadio, lookupItems_setItems,
      if_neg (fun heq => hname heq.symm)]
    rfl

theorem find_setting_withFrequency {cfg : AppConfig O F} {radio : Section O F}
    (hradio : lookupItems "radio" cfg.sections = some radio)
    {frequency : Attribute (Setting O F)}
    (hkind : cfg.root.kindAt ["radio", "frequency_mhz"] = some none) {trail : Trail}
    (htrail : trail ≠ ["radio", "frequency_mhz"]) {setting : Setting O F}
    (h : cfg.root.find trail = some (.setting setting)) :
    (withRadio cfg (withFrequency radio frequency)).root.find trail = some (.setting setting) := by
  cases trail with
  | nil => simp [AppConfig.root] at h
  | cons name rest =>
    cases rest with
    | nil =>
      by_cases hname : name = "radio"
      · subst hname
        rw [find_section hradio] at h
        simp [Section.toAttribute] at h
      · have hsame : (withRadio cfg (withFrequency radio frequency)).root.find [name] =
            cfg.root.find [name] := by
          rw [find_root, find_root, withRadio, lookupItems_setItems,
            if_neg (fun heq => hname heq.symm)]
          rfl
        rw [hsame, h]
    | cons key rest =>
      by_cases hkey : name = "radio" ∧ key = "frequency_mhz"
      · obtain ⟨rfl, rfl⟩ := hkey
        cases rest with
        | nil => exact absurd rfl htrail
        | cons first rest =>
          have hnone : cfg.root.kindAt ("radio" :: "frequency_mhz" :: first :: rest) = none := by
            rw [kindAt_section hradio] at hkind ⊢
            exact kindAt_setting_cons hkind first rest
          rw [Attribute.kindAt, h] at hnone
          cases hnone
      · rw [find_withFrequency hradio hkey, h]

end

section

variable {O F : Type} [DecidableEq O] [RadioFloat F] {py : Python O F}

/-! ### The built-in tree -/

def schemaNames : List String := (appConfig : AppConfig Empty ℚ).root.names

theorem names_appConfig : (appConfig : AppConfig O F).root.names = schemaNames := rfl

/-- No name of the configuration is special: none begins with an underscore, which is byte 95. -/
theorem special_schema (py : Python O F) {trail : Trail}
    (h : (appConfig : AppConfig O F).root.kindAt trail ≠ none) {name : String}
    (hname : name ∈ trail) : py.special name = false := by
  have hplain : (schemaNames.all fun name =>
      name.toByteArray.data.toList.head? ≠ some 95) = true := by decide +kernel
  have hmem := Attribute.mem_names h hname
  rw [names_appConfig] at hmem
  have hfirst := of_decide_eq_true (List.all_eq_true.mp hplain name hmem)
  cases hspecial : py.special name with
  | false => rfl
  | true =>
    obtain ⟨rest, rfl⟩ := py.special_dunder name hspecial
    refine absurd ?_ hfirst
    rw [String.toByteArray_append]
    simp only [ByteArray.data_append, Array.toList_append, List.head?_append]
    rfl

theorem kindAt_of_coercion {name key : String}
    (h : (lookupItems key (coercionsOf (coerced py) name)).isSome) :
    (appConfig : AppConfig O F).root.kindAt [name, key] = some none := by
  have hmem := mem_coerced h
  simp only [List.mem_cons, List.not_mem_nil, or_false, Prod.mk.injEq] at hmem
  rcases hmem with ⟨rfl, rfl⟩ | ⟨rfl, rfl⟩ | ⟨rfl, rfl⟩ | ⟨rfl, rfl⟩ | ⟨rfl, rfl⟩ <;> rfl

/-- A configuration with the instances and settings of the built-in one. -/
def SameKinds (cfg : AppConfig O F) : Prop :=
  ∀ trail, cfg.root.kindAt trail = (appConfig : AppConfig O F).root.kindAt trail

theorem not_popped {name : String} {rest : Trail}
    (h : (appConfig : AppConfig O F).root.InstanceAt (name :: rest)) :
    name ∉ ["plugins", "plugin_sources", "plugin_sources_enabled"] := by
  have hinstance : (appConfig : AppConfig O F).root.InstanceAt [name] :=
    Attribute.instanceAt_prefix h ⟨rest, rfl⟩
  intro hmem
  simp only [List.mem_cons, List.not_mem_nil, or_false] at hmem
  rcases hmem with rfl | rfl | rfl <;>
    exact not_instanceAt_setting_cons rfl [] hinstance

/-! ### A layer that fits -/

omit [RadioFloat F] in
theorem applyYaml_document (document : Document O F) (cfg : AppConfig O F) :
    applyYaml py (some document.doc) cfg = applyMapping py document.raw cfg := by
  have hempty : (if py.objects.isTruthy document.doc then document.doc else .dict []) =
      document.doc := by
    split
    · rfl
    · rename_i hfalse
      have hnil : document.raw = [] := by
        simpa [Document.doc, Objects.isTruthy] using hfalse
      rw [Document.doc, hnil]
  rw [applyYaml, hempty, Document.doc]

omit [RadioFloat F] in
theorem get?_applyPlugins {raw : Entries (Key O) (Scalar O F)}
    {entries : Entries (Key O) (Scalar O F)} (plugins : OrderedDict (Key O) (Doc O F))
    (hdistinct : Distinct (.dict raw))
    (hentries : pluginEntries py (lookupItems (.str "plugins") raw) = some entries)
    (id : Key O) :
    (applyPlugins plugins (lookupItems (.str "plugins") raw)).get? id =
      layeredPlugin (plugins.get? id) (lookupItems id entries) := by
  cases hraw : lookupItems (.str "plugins") raw with
  | none =>
    rw [hraw] at hentries
    cases hentries
    rfl
  | some value =>
    rw [hraw] at hentries
    cases value with
    | dict given =>
      cases hentries
      have hnodup := (hdistinct.below hraw).nodup
      clear hraw hdistinct
      induction entries generalizing plugins with
      | nil => rfl
      | cons entry rest ih =>
        rw [List.map_cons, List.nodup_cons] at hnodup
        change (applyPlugins (plugins.set entry.1 (mergePlugin (plugins.get? entry.1) entry.2))
          (some (.dict rest))).get? id = _
        rw [ih _ hnodup.2, get?_set]
        by_cases hid : entry.1 = id
        · have hfresh : lookupItems id rest = none := by
            rw [← hid]
            exact lookupItems_eq_none_iff.mpr hnodup.1
          simp [hid, hfresh, lookupItems, layeredPlugin]
        · simp [hid, lookupItems]
    | scalar value =>
      simp only [pluginEntries] at hentries
      split at hentries
      · cases hentries
      · cases hentries
        rfl
    | list items =>
      simp only [pluginEntries] at hentries
      split at hentries
      · cases hentries
      · cases hentries
        rfl

/-- What a layer leaves when its document fits. -/
structure LayerReads (py : Python O F) (document : Document O F) (cfg : AppConfig O F)
    (layer : Layer O F) : Prop where
  sameKinds : SameKinds layer.config
  settings : ∀ trail, (appConfig : AppConfig O F).root.kindAt trail = some none →
    trail ≠ ["plugins"] → ∃ setting, layer.config.root.find trail = some (.setting setting) ∧
      match docAt trail document.doc with
      | some given => parse py trail given = some setting
      | none => cfg.root.find trail = some (.setting setting)
  plugins : ∀ entries, pluginEntries py (lookupItems (.str "plugins") document.raw) = some entries →
    ∀ id, layer.config.plugins.get? id =
      layeredPlugin (cfg.plugins.get? id) (lookupItems id entries)
  exact : Exact py document layer

theorem lookup_of_section (document : Document O F) {name : String}
    (h : (appConfig : AppConfig O F).root.InstanceAt [name]) :
    lookupItems (.str name) (withoutPopped document.raw) =
      lookupItems (.str name) document.raw := by
  rw [lookup_withoutPopped, if_neg (not_popped h)]

theorem instanceAt_section {cfg : AppConfig O F} (hkinds : SameKinds cfg) {name : String}
    {sec : Section O F} (hsec : lookupItems name cfg.sections = some sec) :
    (appConfig : AppConfig O F).root.InstanceAt [name] := by
  refine ⟨sec.cls, ?_⟩
  rw [← hkinds, kindAt_section hsec]
  simp [Attribute.kindAt, Section.toAttribute, Attribute.kind]

theorem reads_of_section {document : Document O F} {cfg : AppConfig O F}
    (hfits : Fits py document) (hkinds : SameKinds cfg) {name : String} {value : Doc O F}
    {sec : Section O F} (hvalue : lookupItems (.str name) document.raw = some value)
    (hsec : lookupItems name cfg.sections = some sec) :
    ∃ merged, readSection py name sec value = some merged ∧ Reads py name sec value merged := by
  have hsame : ∀ trail, sec.toAttribute.kindAt trail =
      (appConfig : AppConfig O F).root.kindAt (name :: trail) := fun trail => by
    rw [← kindAt_section hsec, hkinds]
  have hdoc : ∀ trail, docAt (name :: trail) document.doc = docAt trail value := fun trail => by
    rw [Document.doc, docAt_cons_dict, hvalue, Option.bind_some]
  refine reads_of_fits (fun key hkey => ?_) (document.distinct.below hvalue) ?_ ?_
  · rw [hsame]
    exact kindAt_of_coercion hkey
  · intro trail given hinstance hgiven
    obtain ⟨cls, hcls⟩ := hinstance
    rw [hsame] at hcls
    refine (hfits.sections (name :: trail) given ⟨cls, hcls⟩ (List.cons_ne_nil _ _)
      (by rw [hdoc, hgiven])).imp_right fun hfalse => ⟨?_, hfalse.2⟩
    simpa using hfalse.1
  · intro trail given hkind hgiven
    refine hfits.settings (name :: trail) given (by rw [← hsame, hkind]) ?_ (by rw [hdoc, hgiven])
    intro heq
    cases trail with
    | nil => simp [Attribute.kindAt, Section.toAttribute, Attribute.kind] at hkind
    | cons first rest => cases heq

omit [RadioFloat F] in
theorem missing_of_sectionAt {sections : Sections O F} {raw : Entries (Key O) (Scalar O F)}
    {result : Sections O F × List Trail} {name : String}
    (h : SectionAt (readSection py) sections raw result name)
    (hmissing : lookupItems name sections = none) : lookupItems name result.1 = none := by
  unfold SectionAt at h
  rw [hmissing] at h
  split at h
  · rename_i hsec
    cases hsec
  · exact h.1
  · exact h.1

theorem section_of_layer {document : Document O F} {cfg : AppConfig O F} {layer : Layer O F}
    (hfits : Fits py document) (hkinds : SameKinds cfg) {name : String} {sec : Section O F}
    (hlayer : SectionAt (readSection py) cfg.sections (withoutPopped document.raw)
      (layer.config.sections, layer.unknown) name)
    (hsec : lookupItems name cfg.sections = some sec) :
    ∃ sec', lookupItems name layer.config.sections = some sec' ∧
      (∀ trail, sec'.toAttribute.kindAt trail = sec.toAttribute.kindAt trail) ∧
      (∀ trail current, sec.toAttribute.find trail = some (.setting current) →
        ∃ setting, sec'.toAttribute.find trail = some (.setting setting) ∧
          match docAt (name :: trail) document.doc with
          | some given => parse py (name :: trail) given = some setting
          | none => setting = current) ∧
      ∀ trail, name :: trail ∈ layer.unknown ↔ docAt (name :: trail) document.doc ≠ none ∧
        sec.toAttribute.kindAt trail = none ∧ sec.toAttribute.InstanceAt trail.dropLast := by
  have hpopped := lookup_of_section document (instanceAt_section hkinds hsec)
  unfold SectionAt at hlayer
  rw [hpopped, hsec] at hlayer
  unfold Document.doc
  cases hvalue : lookupItems (.str name) document.raw with
  | none =>
    simp only [hvalue] at hlayer
    refine ⟨sec, hlayer.1, fun trail => rfl, fun trail current hcurrent => ?_, fun trail => ?_⟩
    · exact ⟨current, hcurrent, by simp [hvalue]⟩
    · refine iff_of_false (hlayer.2 trail) fun hunknown => hunknown.1 ?_
      rw [docAt_cons_dict, hvalue, Option.bind_none]
  | some value =>
    simp only [hvalue] at hlayer
    obtain ⟨merged, hmerged, hlookup, hunknown⟩ := hlayer
    obtain ⟨merged', hmerged', hreads⟩ := reads_of_section hfits hkinds hvalue hsec
    cases hmerged.symm.trans hmerged'
    refine ⟨merged.1, hlookup, hreads.kindAt, fun trail current hcurrent => ?_, fun trail => ?_⟩
    · rw [docAt_cons_dict, hvalue, Option.bind_some]
      exact hreads.settings trail current hcurrent
    · rw [hunknown, hreads.unknown, docAt_cons_dict, hvalue, Option.bind_some]
      exact Iff.rfl

section

variable {document : Document O F} {cfg : AppConfig O F} {layer : Layer O F}
  (hfits : Fits py document) (hkinds : SameKinds cfg)
  (hnames : ∀ name, SectionAt (readSection py) cfg.sections (withoutPopped document.raw)
    (layer.config.sections, layer.unknown) name)

include hfits hkinds hnames

theorem sameKinds_of_layer : SameKinds layer.config := by
  intro trail
  rw [← hkinds]
  cases trail with
  | nil => simp [Attribute.kindAt, AppConfig.root, Attribute.kind]
  | cons name rest =>
    cases hsec : lookupItems name cfg.sections with
    | some sec =>
      obtain ⟨sec', hsec', hkind, -⟩ := section_of_layer hfits hkinds (hnames name) hsec
      rw [kindAt_section hsec', kindAt_section hsec, hkind]
    | none =>
      rw [kindAt_beside hsec, kindAt_beside (missing_of_sectionAt (hnames name) hsec)]

theorem settings_of_layer
    (hconfig : layer.config =
      { applyPopped document.raw cfg with sections := layer.config.sections })
    (trail : Trail) (hkind : (appConfig : AppConfig O F).root.kindAt trail = some none)
    (hplugins : trail ≠ ["plugins"]) :
    ∃ setting, layer.config.root.find trail = some (.setting setting) ∧
      match docAt trail document.doc with
      | some given => parse py trail given = some setting
      | none => cfg.root.find trail = some (.setting setting) := by
  rw [← hkinds] at hkind
  cases trail with
  | nil => simp [Attribute.kindAt, AppConfig.root, Attribute.kind] at hkind
  | cons name rest =>
    cases hsec : lookupItems name cfg.sections with
    | some sec =>
      obtain ⟨sec', hsec', -, hsettings, -⟩ := section_of_layer hfits hkinds (hnames name) hsec
      obtain ⟨current, hcurrent⟩ := Attribute.exists_setting hkind
      rw [find_section hsec] at hcurrent
      obtain ⟨setting, hsetting, hgiven⟩ := hsettings rest current hcurrent
      refine ⟨setting, by rw [find_section hsec', hsetting], ?_⟩
      split at hgiven
      · rename_i given hdoc
        exact hgiven
      · rename_i hdoc
        simp only [find_section hsec, hcurrent, hgiven]
    | none =>
      rw [kindAt_beside hsec] at hkind
      split at hkind
      · rename_i hpopped
        obtain ⟨hmem, rfl⟩ := hpopped
        have hbeside : layer.config.beside = (applyPopped document.raw cfg).beside := by
          rw [hconfig]
          rfl
        have hdoc : docAt [name] document.doc = lookupItems (.str name) document.raw := by
          rw [Document.doc, docAt_cons_dict]
          cases lookupItems (.str name) document.raw <;> simp
        have hparse := hfits.settings [name]
        rw [find_beside hsec, find_beside (missing_of_sectionAt (hnames name) hsec), hbeside, hdoc]
        rw [hdoc, ← hkinds, kindAt_beside hsec, if_pos ⟨hmem, rfl⟩] at hparse
        simp only [List.mem_cons, List.not_mem_nil, or_false] at hmem
        rcases hmem with rfl | rfl | rfl
        · exact absurd rfl hplugins
        · refine ⟨.yaml (.list ((applyPopped document.raw cfg).pluginSources.map .dict)), rfl, ?_⟩
          cases hvalue : lookupItems (.str "plugin_sources") document.raw with
          | none => simp [applyPopped, hvalue, AppConfig.beside, lookupItems]
          | some given =>
            obtain ⟨setting, hsetting⟩ := Option.isSome_iff_exists.mp
              (hparse given rfl (by simp) hvalue)
            obtain ⟨sources, hsources, rfl⟩ := Option.map_eq_some_iff.mp hsetting
            simp [applyPopped, hvalue, hsources, parse]
        · refine ⟨.yaml (bool (applyPopped document.raw cfg).pluginSourcesEnabled), rfl, ?_⟩
          cases hvalue : lookupItems (.str "plugin_sources_enabled") document.raw with
          | none => simp [applyPopped, hvalue, AppConfig.beside, lookupItems]
          | some given =>
            obtain ⟨setting, hsetting⟩ := Option.isSome_iff_exists.mp
              (hparse given rfl (by simp) hvalue)
            obtain ⟨enabled, henabled, rfl⟩ := Option.map_eq_some_iff.mp hsetting
            simp [applyPopped, hvalue, henabled, parse]
      · cases hkind

theorem mem_unknown_of_layer (name : String) (rest : Trail) :
    name :: rest ∈ layer.unknown ↔
      Unknown (appConfig : AppConfig O F).root document.doc (name :: rest) := by
  rw [← unknown_congr hkinds]
  unfold Unknown
  cases hsec : lookupItems name cfg.sections with
  | some sec =>
    obtain ⟨sec', -, -, -, hunknown⟩ := section_of_layer hfits hkinds (hnames name) hsec
    rw [hunknown, kindAt_section hsec]
    cases rest with
    | nil => simp [Attribute.kindAt, Section.toAttribute, Attribute.kind]
    | cons first rest =>
      rw [List.dropLast_cons_cons, Attribute.InstanceAt, Attribute.InstanceAt,
        kindAt_section hsec]
  | none =>
    have hname := hnames name
    unfold SectionAt at hname
    rw [lookup_withoutPopped, hsec] at hname
    rw [kindAt_beside hsec, Document.doc, docAt_cons_dict]
    by_cases hpopped : name ∈ ["plugins", "plugin_sources", "plugin_sources_enabled"]
    · rw [if_pos hpopped] at hname
      refine iff_of_false (hname.2 rest) ?_
      rintro ⟨-, hnone, hparent⟩
      cases rest with
      | nil => simp [hpopped] at hnone
      | cons first rest =>
        rw [List.dropLast_cons_cons] at hparent
        obtain ⟨sec, hsome⟩ := exists_section hparent
        rw [hsec] at hsome
        cases hsome
    · rw [if_neg hpopped] at hname
      cases hvalue : lookupItems (.str name) document.raw with
      | none =>
        simp only [hvalue] at hname
        exact iff_of_false (hname.2 rest) fun hunknown => hunknown.1 rfl
      | some value =>
        simp only [hvalue] at hname
        rw [hname.2]
        constructor
        · rintro rfl
          exact ⟨by simp, by simp [hpopped], Attribute.instanceAt_nil _ _⟩
        · rintro ⟨-, -, hparent⟩
          cases rest with
          | nil => rfl
          | cons first rest =>
            rw [List.dropLast_cons_cons] at hparent
            obtain ⟨sec, hsome⟩ := exists_section hparent
            rw [hsec] at hsome
            cases hsome

theorem exact_of_layer
    (hsettings : ∀ trail, (appConfig : AppConfig O F).root.kindAt trail = some none →
      trail ≠ ["plugins"] → ∃ setting, layer.config.root.find trail = some (.setting setting) ∧
        match docAt trail document.doc with
        | some given => parse py trail given = some setting
        | none => cfg.root.find trail = some (.setting setting)) : Exact py document layer := by
  intro trail value hparent hinstance hplugins hvalue
  cases trail with
  | nil => exact absurd (Attribute.instanceAt_nil _ _) hinstance
  | cons name rest =>
    rw [mem_unknown_of_layer hfits hkinds hnames]
    cases hkind : (appConfig : AppConfig O F).root.kindAt (name :: rest) with
    | some kind =>
      cases kind with
      | some cls => exact absurd ⟨cls, hkind⟩ hinstance
      | none =>
        obtain ⟨setting, hsetting, hgiven⟩ := hsettings (name :: rest) hkind hplugins
        rw [hvalue] at hgiven
        refine iff_of_false (fun hunknown => ?_) (not_not.mpr ⟨hkind, setting, hgiven, hsetting⟩)
        rw [hunknown.2.1] at hkind
        cases hkind
    | none =>
      refine iff_of_true ⟨by simp [hvalue], hkind, hparent⟩ fun happlied => ?_
      rw [happlied.1] at hkind
      cases hkind

end

/-- **A layer that fits.** It is applied; its settings have the values it gives, and its keys that
    are not applied are the unknown ones. -/
theorem layer_of_fits {document : Document O F} {cfg : AppConfig O F} (hfits : Fits py document)
    (hkinds : SameKinds cfg) : ∃ layer, applyYaml py (some document.doc) cfg = some layer ∧
      LayerReads py document cfg layer := by
  have hisSome : (applyMapping py document.raw cfg).isSome := by
    refine applyMapping_isSome document.distinct.nodup hfits.texts ?_
    intro name value sec hvalue hsec
    rw [lookup_of_section document (instanceAt_section hkinds hsec)] at hvalue
    obtain ⟨merged, hmerged, -⟩ := reads_of_section hfits hkinds hvalue hsec
    rw [hmerged]
    rfl
  obtain ⟨layer, hlayer⟩ := Option.isSome_iff_exists.mp hisSome
  obtain ⟨-, -, hconfig, hnames⟩ := sectionAt_of_applyMapping document.distinct.nodup hlayer
  have hsettings := settings_of_layer hfits hkinds hnames hconfig
  refine ⟨layer, by rw [applyYaml_document, hlayer], sameKinds_of_layer hfits hkinds hnames,
    hsettings, ?_, exact_of_layer hfits hkinds hnames hsettings⟩
  intro entries hentries id
  rw [hconfig]
  exact get?_applyPlugins cfg.plugins document.distinct hentries id

/-! ### From a layer to its document -/

section

variable {document : Document O F} {cfg : AppConfig O F} {layer : Layer O F}
  (hlayer : applyYaml py (some document.doc) cfg = some layer) (hexact : Exact py document layer)

include hlayer hexact

/-- A key of a dataclass that names a special attribute would be neither applied nor unknown. -/
theorem not_special_of_exact {name key : String} {parent : Trail}
    (hparent : (appConfig : AppConfig O F).root.InstanceAt (name :: parent))
    (hgiven : docAt (name :: parent ++ [key]) document.doc ≠ none)
    (hsec : ∃ sec, lookupItems name cfg.sections = some sec) : py.special key = false := by
  by_contra hspecial
  rw [Bool.not_eq_false] at hspecial
  have hnone : (appConfig : AppConfig O F).root.kindAt (name :: parent ++ [key]) = none := by
    by_contra hkind
    have hplain : py.special key = false := special_schema py hkind (by simp)
    rw [hspecial] at hplain
    cases hplain
  obtain ⟨value, hvalue⟩ := Option.ne_none_iff_exists'.mp hgiven
  have hmem := (hexact (name :: parent ++ [key]) value (by rwa [List.dropLast_concat])
    (by rintro ⟨cls, hcls⟩; rw [hnone] at hcls; cases hcls) (by simp) hvalue).mpr
    (fun happlied => by rw [happlied.1] at hnone; cases hnone)
  obtain ⟨sec, hsec⟩ := hsec
  rw [applyYaml_document] at hlayer
  obtain ⟨-, -, -, hnames⟩ := sectionAt_of_applyMapping document.distinct.nodup hlayer
  have hname := hnames name
  unfold SectionAt at hname
  rw [lookup_of_section document (Attribute.instanceAt_prefix hparent ⟨parent, rfl⟩), hsec] at hname
  cases hraw : lookupItems (.str name) document.raw with
  | none =>
    simp only [hraw] at hname
    exact hname.2 _ hmem
  | some given =>
    simp only [hraw] at hname
    obtain ⟨merged, hmerged, -, hunknown⟩ := hname
    obtain ⟨cls, hcls⟩ := hparent
    have hkind : (appConfig : AppConfig O F).root.kindAt (name :: parent) ≠ none := by simp [hcls]
    exact special_not_mem_of_readSection hmerged
      (fun other hother => special_schema py hkind (List.mem_cons_of_mem _ hother)) hspecial
      ((hunknown (parent ++ [key])).mp hmem)

/-- What is an instance after the layer was one before, and was given nothing or a mapping. -/
theorem mappings_of_layer {name : String} {rest : Trail}
    (hschema : (appConfig : AppConfig O F).root.InstanceAt (name :: rest))
    (hat : layer.config.root.InstanceAt (name :: rest)) :
    cfg.root.InstanceAt (name :: rest) ∧ ∀ given, docAt (name :: rest) document.doc = some given →
      PlainMapping py.objects given ∨ rest = [] ∧ py.objects.isTruthy given = false := by
  obtain ⟨sec', hsec'⟩ := exists_section hat
  have happlied := hlayer
  rw [applyYaml_document] at happlied
  obtain ⟨-, -, -, hnames⟩ := sectionAt_of_applyMapping document.distinct.nodup happlied
  have hname := hnames name
  cases hsec : lookupItems name cfg.sections with
  | none =>
    rw [missing_of_sectionAt hname hsec] at hsec'
    cases hsec'
  | some sec =>
    have hkind : ∀ trail, cfg.root.InstanceAt (name :: trail) ↔
        sec.toAttribute.InstanceAt trail := fun trail => by
      unfold Attribute.InstanceAt
      rw [kindAt_section hsec]
    have hkind' : layer.config.root.InstanceAt (name :: rest) ↔
        sec'.toAttribute.InstanceAt rest := by
      unfold Attribute.InstanceAt
      rw [kindAt_section hsec']
    unfold SectionAt at hname
    rw [lookup_of_section document (Attribute.instanceAt_prefix hschema ⟨rest, rfl⟩), hsec] at hname
    rw [hkind'] at hat
    rw [hkind, Document.doc, docAt_cons_dict]
    cases hraw : lookupItems (.str name) document.raw with
    | none =>
      simp only [hraw, hsec', Option.some.injEq] at hname
      rw [hname.1] at hat
      exact ⟨hat, fun given hgiven => by cases hgiven⟩
    | some value =>
      simp only [hraw, hsec', Option.some.injEq] at hname
      obtain ⟨merged, hmerged, rfl, -⟩ := hname
      rw [Option.bind_some]
      refine mappings_of_readSection (document.distinct.below hraw) hmerged ?_ ?_ hat
      · intro key tail hrest
        cases hcoerce : lookupItems key (coercionsOf (coerced py) name) with
        | none => rfl
        | some coerce =>
          have hsetting : (appConfig : AppConfig O F).root.kindAt [name, key] = some none :=
            kindAt_of_coercion (by rw [hcoerce]; rfl)
          obtain ⟨cls, hcls⟩ : (appConfig : AppConfig O F).root.InstanceAt [name, key] :=
            Attribute.instanceAt_prefix hschema ⟨tail, by rw [hrest]; rfl⟩
          rw [hsetting] at hcls
          cases hcls
      · intro parent key hparent hgiven
        refine not_special_of_exact hlayer hexact
          (Attribute.instanceAt_prefix hschema ((List.prefix_cons_inj name).mpr hparent)) ?_
          ⟨sec, hsec⟩
        rwa [List.cons_append, Document.doc, docAt_cons_dict, hraw, Option.bind_some]

theorem parse_of_beside {name : String}
    (hsec : lookupItems name (appConfig : AppConfig O F).sections = none)
    (hpopped : name ∈ ["plugins", "plugin_sources", "plugin_sources_enabled"])
    (hplugins : [name] ≠ ["plugins"]) {value : Doc O F}
    (hvalue : docAt [name] document.doc = some value) : (parse py [name] value).isSome := by
  have happlied := hlayer
  rw [applyYaml_document] at happlied
  obtain ⟨-, -, -, hnames⟩ := sectionAt_of_applyMapping document.distinct.nodup happlied
  have hknown : [name] ∉ layer.unknown := by
    have hname := hnames name
    unfold SectionAt at hname
    rw [lookup_withoutPopped, if_pos hpopped] at hname
    exact hname.2 []
  have hsetting : ¬ (appConfig : AppConfig O F).root.InstanceAt [name] := by
    intro hinstance
    obtain ⟨sec, hsome⟩ := exists_section hinstance
    rw [hsec] at hsome
    cases hsome
  obtain ⟨-, setting, hparse, -⟩ := not_not.mp (mt (hexact [name] value
    (Attribute.instanceAt_nil _ _) hsetting hplugins hvalue).mpr hknown)
  rw [hparse]
  rfl

theorem parse_of_section {name key : String}
    (hinstance : (appConfig : AppConfig O F).root.InstanceAt [name])
    (hat : layer.config.root.InstanceAt [name]) {rest : Trail} {value : Doc O F}
    (hvalue : docAt (name :: key :: rest) document.doc = some value) :
    (parse py (name :: key :: rest) value).isSome := by
  by_cases hother : lookupItems key (coercionsOf (coerced py) name) = none ∨ rest ≠ []
  · rw [parse_other hother]
    rfl
  · rw [not_or, not_ne_iff] at hother
    obtain ⟨hcoerce, rfl⟩ := hother
    obtain ⟨coerce, hcoerce⟩ := Option.ne_none_iff_exists'.mp hcoerce
    rw [parse_coerced hcoerce]
    obtain ⟨before, hbefore⟩ :=
      exists_section (mappings_of_layer hlayer hexact hinstance hat).1
    rw [Document.doc, docAt_cons_dict] at hvalue
    obtain ⟨given, hgiven, hvalue⟩ := Option.bind_eq_some_iff.mp hvalue
    rw [applyYaml_document] at hlayer
    obtain ⟨-, -, -, hnames⟩ := sectionAt_of_applyMapping document.distinct.nodup hlayer
    have hname := hnames name
    unfold SectionAt at hname
    rw [lookup_of_section document hinstance, hgiven, hbefore] at hname
    obtain ⟨merged, hmerged, -⟩ := hname
    exact coerce_isSome_of_readSection hmerged hcoerce hvalue

/-- **A layer that leaves what is intended had a document that fits.** -/
theorem fits_of_layer
    (hkept : ∀ trail, (appConfig : AppConfig O F).root.InstanceAt trail →
      layer.config.root.InstanceAt trail)
    (hplugins : (pluginEntries py (lookupItems (.str "plugins") document.raw)).isSome) :
    Fits py document := by
  have happlied := hlayer
  rw [applyYaml_document] at happlied
  obtain ⟨htexts, -⟩ := sectionAt_of_applyMapping document.distinct.nodup happlied
  refine ⟨htexts, ?_, ?_, hplugins⟩
  · intro trail value hinstance hne hvalue
    cases trail with
    | nil => exact absurd rfl hne
    | cons name rest =>
      have hgiven := (mappings_of_layer hlayer hexact hinstance (hkept _ hinstance)).2 value hvalue
      refine hgiven.imp_right fun hfalse => ⟨?_, hfalse.2⟩
      simp [hfalse.1]
  · intro trail value hkind hne hvalue
    cases trail with
    | nil => simp [Attribute.kindAt, AppConfig.root, Attribute.kind] at hkind
    | cons name rest =>
      cases hsec : lookupItems name (appConfig : AppConfig O F).sections with
      | none =>
        rw [kindAt_beside hsec] at hkind
        split at hkind
        · rename_i hpopped
          obtain ⟨hmem, rfl⟩ := hpopped
          exact parse_of_beside hlayer hexact hsec hmem hne hvalue
        · cases hkind
      | some sec =>
        have hinstance := instanceAt_section (show SameKinds (appConfig : AppConfig O F) from
          fun _ => rfl) hsec
        cases rest with
        | nil =>
          obtain ⟨cls, hcls⟩ := hinstance
          rw [hkind] at hcls
          cases hcls
        | cons key rest =>
          exact parse_of_section hlayer hexact hinstance (hkept _ hinstance) hvalue

end

/-! ### The radio frequency -/

omit [DecidableEq O] in
theorem resolvedFrequency_cases
    {frequencyMhz slot region bandwidthKhz frequency : Attribute (Setting O F)}
    (h : resolvedFrequency py frequencyMhz slot region bandwidthKhz = some frequency) :
    frequency = frequencyMhz ∨
      ∃ old new, frequencyMhz = .setting old ∧ frequency = .setting new := by
  unfold resolvedFrequency at h
  split at h
  · cases h
    exact .inl rfl
  · rename_i hnull
    refine .inr ?_
    cases frequencyMhz with
    | dataclass cls fields => exact absurd rfl hnull
    | setting old =>
      obtain ⟨key, -, h⟩ := Option.bind_eq_some_iff.mp h
      split at h
      · obtain ⟨mhz, -, rfl⟩ := Option.map_eq_some_iff.mp h
        exact ⟨old, _, rfl, rfl⟩
      · cases h
        exact ⟨old, _, rfl, rfl⟩

theorem exists_of_loadConfig {first second : Option (Doc O F)} {load : Load O F}
    (h : loadConfig py first second = some load) :
    applyYaml py first appConfig = some load.first ∧
      applyYaml py second load.first.config = some load.second ∧
      ∃ radio frequencyMhz slot region bandwidthKhz frequency,
        lookupItems "radio" load.second.config.sections = some radio ∧
        lookupItems "frequency_mhz" radio.fields = some frequencyMhz ∧
        lookupItems "slot" radio.fields = some slot ∧
        lookupItems "region" radio.fields = some region ∧
        lookupItems "bandwidth_khz" radio.fields = some bandwidthKhz ∧
        resolvedFrequency py frequencyMhz slot region bandwidthKhz = some frequency ∧
        load.config = withRadio load.second.config (withFrequency radio frequency) := by
  obtain ⟨first', hfirst, h⟩ := Option.bind_eq_some_iff.mp h
  obtain ⟨second', hsecond, h⟩ := Option.bind_eq_some_iff.mp h
  obtain ⟨radio, hradio, h⟩ := Option.bind_eq_some_iff.mp h
  obtain ⟨resolved, hresolved, rfl⟩ := Option.map_eq_some_iff.mp h
  unfold resolveRadioFrequency at hresolved
  split at hresolved
  · rename_i frequencyMhz slot region bandwidthKhz hfrequency hslot hregion hbandwidth
    obtain ⟨frequency, hresolve, rfl⟩ := Option.map_eq_some_iff.mp hresolved
    exact ⟨hfirst, hsecond, radio, frequencyMhz, slot, region, bandwidthKhz, frequency, hradio,
      hfrequency, hslot, hregion, hbandwidth, hresolve, rfl⟩
  · cases hresolved

section

variable {cfg : AppConfig O F} {radio : Section O F}
  {frequencyMhz slot region bandwidthKhz frequency : Attribute (Setting O F)}
  (hradio : lookupItems "radio" cfg.sections = some radio)

include hradio

omit [DecidableEq O] in
theorem kindAt_withFrequency
    (hfrequency : lookupItems "frequency_mhz" radio.fields = some frequencyMhz)
    (hresolved : resolvedFrequency py frequencyMhz slot region bandwidthKhz = some frequency)
    (trail : Trail) :
    (withRadio cfg (withFrequency radio frequency)).root.kindAt trail = cfg.root.kindAt trail := by
  cases trail with
  | nil => simp [Attribute.kindAt, AppConfig.root, Attribute.kind]
  | cons name rest =>
    cases rest with
    | nil =>
      by_cases hname : name = "radio"
      · subst hname
        rw [kindAt_section (lookup_withRadio cfg _), kindAt_section hradio]
        simp [Attribute.kindAt, Section.toAttribute, withFrequency, Attribute.kind]
      · rw [Attribute.kindAt, Attribute.kindAt, find_root, find_root, withRadio,
          lookupItems_setItems, if_neg (fun heq => hname heq.symm)]
        rfl
    | cons key rest =>
      by_cases hkey : name = "radio" ∧ key = "frequency_mhz"
      · obtain ⟨rfl, rfl⟩ := hkey
        rw [Attribute.kindAt, find_frequency, kindAt_section hradio, Section.toAttribute,
          Attribute.kindAt_below hfrequency]
        rcases resolvedFrequency_cases hresolved with rfl | ⟨old, new, rfl, rfl⟩
        · rfl
        · cases rest <;> rfl
      · rw [Attribute.kindAt, find_withFrequency hradio hkey]
        rfl

end

/-! ### Both layers -/

theorem chosen_of_layers {first second : Document O F} {layer layer' : Layer O F}
    (hfirst : LayerReads py first appConfig layer)
    (hsecond : LayerReads py second layer.config layer') {trail : Trail}
    (hkind : (appConfig : AppConfig O F).root.kindAt trail = some none)
    (hplugins : trail ≠ ["plugins"]) :
    ∃ setting, chosen py first second trail = some (.setting setting) ∧
      layer'.config.root.find trail = some (.setting setting) := by
  obtain ⟨setting', hsetting', hgiven'⟩ := hsecond.settings trail hkind hplugins
  refine ⟨setting', ?_, hsetting'⟩
  unfold chosen
  split at hgiven'
  · rename_i given hdoc
    simp only [hdoc, hgiven', Option.map_some]
  · rename_i hdoc
    obtain ⟨setting, hsetting, hgiven⟩ := hfirst.settings trail hkind hplugins
    rw [hsetting] at hgiven'
    cases hgiven'
    split at hgiven
    · rename_i given hdoc'
      simp only [hdoc, hdoc', hgiven, Option.map_some]
    · rename_i hdoc'
      simp only [hdoc, hdoc', hgiven]

theorem radio_of_layers {first second : Document O F} {layer layer' : Layer O F}
    (hfirst : LayerReads py first appConfig layer)
    (hsecond : LayerReads py second layer.config layer') {radio : Section O F}
    (hradio : lookupItems "radio" layer'.config.sections = some radio) (key : String)
    (hkind : (appConfig : AppConfig O F).root.kindAt ["radio", key] = some none) :
    ∃ setting, chosen py first second ["radio", key] = some (.setting setting) ∧
      lookupItems key radio.fields = some (.setting setting) := by
  obtain ⟨setting, hchosen, hfind⟩ := chosen_of_layers hfirst hsecond hkind (by simp)
  refine ⟨setting, hchosen, ?_⟩
  rw [find_section hradio, Section.toAttribute, Attribute.find_cons] at hfind
  obtain ⟨found, hfound, hnil⟩ := Option.bind_eq_some_iff.mp hfind
  rw [Attribute.find_nil] at hnil
  rw [hfound, hnil]

theorem loaded_of_fits {first second : Document O F} (hfirst : Fits py first)
    (hsecond : Fits py second) (hisSome : (chosenFrequency py first second).isSome) :
    Loaded py first second := by
  obtain ⟨layer, hlayer, hreads⟩ :=
    layer_of_fits hfirst (show SameKinds (appConfig : AppConfig O F) from fun _ => rfl)
  obtain ⟨layer', hlayer', hreads'⟩ := layer_of_fits hsecond hreads.sameKinds
  obtain ⟨radio, hradio⟩ : ∃ radio, lookupItems "radio" layer'.config.sections = some radio :=
    exists_section ((Attribute.instanceAt_congr hreads'.sameKinds ["radio"]).mpr
      ⟨"RadioConfig", rfl⟩)
  obtain ⟨frequencyMhz, hchosen₁, hfrequency⟩ :=
    radio_of_layers hreads hreads' hradio "frequency_mhz" rfl
  obtain ⟨slot, hchosen₂, hslot⟩ :=
    radio_of_layers hreads hreads' hradio "slot" rfl
  obtain ⟨region, hchosen₃, hregion⟩ :=
    radio_of_layers hreads hreads' hradio "region" rfl
  obtain ⟨bandwidthKhz, hchosen₄, hbandwidth⟩ :=
    radio_of_layers hreads hreads' hradio "bandwidth_khz" rfl
  have hchosen : chosenFrequency py first second = resolvedFrequency py (.setting frequencyMhz)
      (.setting slot) (.setting region) (.setting bandwidthKhz) := by
    simp only [chosenFrequency, hchosen₁, hchosen₂, hchosen₃, hchosen₄, Option.bind_some]
  obtain ⟨frequency, hresolved⟩ := Option.isSome_iff_exists.mp hisSome
  rw [hchosen] at hresolved
  obtain ⟨mhz, rfl⟩ : ∃ mhz, frequency = .setting mhz := by
    rcases resolvedFrequency_cases hresolved with rfl | ⟨old, new, -, rfl⟩
    · exact ⟨frequencyMhz, rfl⟩
    · exact ⟨new, rfl⟩
  have hkinds := kindAt_withFrequency hradio hfrequency hresolved
  refine ⟨⟨layer, layer', withRadio layer'.config (withFrequency radio (.setting mhz))⟩, ?_,
    ?_, ?_, ?_, hreads.exact, hreads'.exact⟩
  · simp only [loadConfig, hlayer, hlayer', hradio, resolveRadioFrequency, hfrequency, hslot,
      hregion, hbandwidth, hresolved, Option.bind_some, Option.map_some]
  · intro trail cls hcls
    rw [hkinds, hreads'.sameKinds, hcls]
  · intro trail hkind hplugins
    by_cases htrail : trail = ["radio", "frequency_mhz"]
    · subst htrail
      refine ⟨mhz, ?_, ?_⟩
      · rw [intended, if_pos rfl, hchosen, hresolved]
      · rw [find_frequency, Attribute.find_nil]
    · obtain ⟨setting, hsetting, hfind⟩ := chosen_of_layers hreads hreads' hkind hplugins
      refine ⟨setting, by rw [intended, if_neg htrail, hsetting], ?_⟩
      exact find_setting_withFrequency hradio (hreads'.sameKinds _) htrail hfind
  · obtain ⟨entries, hentries⟩ := Option.isSome_iff_exists.mp hfirst.plugins
    obtain ⟨entries', hentries'⟩ := Option.isSome_iff_exists.mp hsecond.plugins
    refine ⟨entries, entries', hentries, hentries', fun id => ?_⟩
    have hid := hreads'.plugins entries' hentries' id
    rw [hreads.plugins entries hentries id] at hid
    refine hid.trans ?_
    cases lookupItems id entries <;> rfl

theorem fits_of_loaded {first second : Document O F} (h : Loaded py first second) :
    Fits py first ∧ Fits py second ∧ (chosenFrequency py first second).isSome := by
  obtain ⟨load, hload, hintended⟩ := h
  obtain ⟨hfirst, hsecond, radio, _, _, _, _, frequency, hradio, hfrequency, -, -, -, hresolved,
    hconfig⟩ := exists_of_loadConfig hload
  obtain ⟨entries, entries', hentries, hentries', -⟩ := hintended.plugins
  have hkept : ∀ trail, (appConfig : AppConfig O F).root.InstanceAt trail →
      load.second.config.root.InstanceAt trail := by
    rintro trail ⟨cls, hcls⟩
    have hinstance := hintended.instances trail cls hcls
    rw [hconfig, kindAt_withFrequency hradio hfrequency hresolved] at hinstance
    exact ⟨cls, hinstance⟩
  have hkept' : ∀ trail, (appConfig : AppConfig O F).root.InstanceAt trail →
      load.first.config.root.InstanceAt trail := by
    intro trail hinstance
    cases trail with
    | nil => exact Attribute.instanceAt_nil _ _
    | cons name rest =>
      exact (mappings_of_layer hsecond hintended.secondExact hinstance (hkept _ hinstance)).1
  refine ⟨fits_of_layer hfirst hintended.firstExact hkept' (by rw [hentries]; rfl),
    fits_of_layer hsecond hintended.secondExact hkept (by rw [hentries']; rfl), ?_⟩
  obtain ⟨setting, hchosen, -⟩ := hintended.settings ["radio", "frequency_mhz"] rfl (by simp)
  rw [intended, if_pos rfl] at hchosen
  rw [hchosen]
  rfl

/-- **When loading is as intended.** It returns a configuration with all its dataclasses, in which
    each setting has the value of the last layer that gives one and each key that is not applied is
    reported, exactly when both documents fit and the frequency can be computed from what they
    choose. -/
theorem loaded_iff (first second : Document O F) :
    Loaded py first second ↔
      Fits py first ∧ Fits py second ∧ (chosenFrequency py first second).isSome := by
  constructor
  · exact fits_of_loaded
  · rintro ⟨hfirst, hsecond, hisSome⟩
    exact loaded_of_fits hfirst hsecond hisSome

end

/-! ### Two documents that do not fit -/

/-- Objects where no key names a special attribute. -/
def plainPython : Python Empty ℚ where
  floatTruthy value := value ≠ 0
  otherTruthy value := value.elim
  otherHashable value := value.elim
  special _ := false
  special_dunder _ h := by cases h
  setSpecial _ _ _ := none
  specialUnknown _ _ := none
  slotFrequency
    | freqStart, .float bandwidthKhz, .int slot =>
      some (RadioFloat.slotFrequency freqStart bandwidthKhz slot)
    | _, _, _ => none

def emptyDocument : Document Empty ℚ where
  raw := []
  distinct := distinct_dict List.nodup_nil (by simp)

/-- `transmit: {nodeinfo: null}`. -/
def nodeinfoNull : Document Empty ℚ where
  raw := [(.str "transmit", .dict [(.str "nodeinfo", null)])]
  distinct := by
    refine distinct_dict (by simp) ?_
    simp only [List.mem_singleton, forall_eq]
    exact distinct_dict (by simp) (by simpa [null] using distinct_scalar _)

/-- `radio: 5`. -/
def radioNumber : Document Empty ℚ where
  raw := [(.str "radio", int 5)]
  distinct := distinct_dict (by simp) (by simpa [int] using distinct_scalar _)

/-- Null takes the place of `transmit.nodeinfo`, and a number for a section raises. -/
theorem not_loaded_nodeinfoNull :
    (loadConfig plainPython (some emptyDocument.doc) (some nodeinfoNull.doc)).map
        (fun load => load.config.root.kindAt ["transmit", "nodeinfo"]) = some (some none) ∧
      ¬ Loaded plainPython emptyDocument nodeinfoNull ∧
      (loadConfig plainPython (some emptyDocument.doc) (some radioNumber.doc)).isNone ∧
      ¬ Loaded plainPython emptyDocument radioNumber := by
  have hkind : (loadConfig plainPython (some emptyDocument.doc) (some nodeinfoNull.doc)).map
      (fun load => load.config.root.kindAt ["transmit", "nodeinfo"]) = some (some none) := by
    decide +kernel
  have hnone : (loadConfig plainPython (some emptyDocument.doc) (some radioNumber.doc)).isNone := by
    decide +kernel
  refine ⟨hkind, ?_, hnone, ?_⟩
  · rintro ⟨load, hload, hintended⟩
    have hinstance := hintended.instances ["transmit", "nodeinfo"] "NodeInfoConfig" rfl
    rw [hload, Option.map_some, Option.some.injEq, hinstance] at hkind
    cases hkind
  · rintro ⟨load, hload, -⟩
    rw [hload] at hnone
    cases hnone

end Meshpoint.ConfigLayers
