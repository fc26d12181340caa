import Meshpoint.ConfigLayers

/-!
# A layer, section by section

What `_apply_yaml` does to each section of the configuration, from what its loops do. A section
whose document fits is read as intended (`reads_of_fits`), and one that still is an instance
afterwards was given a mapping (`mappings_of_readSection`).
-/

namespace Meshpoint.ConfigLayers

open OrderedDict ConfigFile ConfigMerge ConfigSchema

section

variable {O F : Type} [DecidableEq O] {py : Python O F}


/-! ### Taking keys out -/

theorem lookup_withoutPopped (raw : Entries (Key O) (Scalar O F)) (name : String) :
    lookupItems (.str name) (withoutPopped raw) =
      if name ∈ ["plugins", "plugin_sources", "plugin_sources_enabled"] then none
      else lookupItems (.str name) raw := by
  unfold withoutPopped
  simp only [lookupItems_eraseItems, Key.str.injEq, List.mem_cons, List.not_mem_nil, or_false]
  by_cases h₁ : name = "plugins"
  · simp [h₁]
  · by_cases h₂ : name = "plugin_sources"
    · simp [h₂]
    · by_cases h₃ : name = "plugin_sources_enabled"
      · simp [h₃]
      · simp [h₁, h₂, h₃]

/-- What taking the keys of one table out of a mapping makes of one key. -/
structure CoercedAt (coercions : Coercions O F) (fields : Fields (Setting O F))
    (entries : Entries (Key O) (Scalar O F))
    (result : Fields (Setting O F) × Entries (Key O) (Scalar O F)) (key : String) : Prop where
  entry : lookupItems (.str key) result.2 =
    if (lookupItems key coercions).isSome then none else lookupItems (.str key) entries
  field : match lookupItems key coercions, lookupItems (.str key) entries with
    | some coerce, some value => ∃ setting, coerce value = some setting ∧
        lookupItems key result.1 = some (.setting setting)
    | _, _ => lookupItems key result.1 = lookupItems key fields

theorem coercedAt_of_coerceKeys {coercions : Coercions O F} {fields : Fields (Setting O F)}
    {entries : Entries (Key O) (Scalar O F)}
    {result : Fields (Setting O F) × Entries (Key O) (Scalar O F)}
    (hnodup : (coercions.map Prod.fst).Nodup)
    (h : coerceKeys coercions fields entries = some result) (key : String) :
    CoercedAt coercions fields entries result key := by
  induction coercions generalizing fields entries with
  | nil =>
    rw [coerceKeys] at h
    cases h
    exact ⟨rfl, rfl⟩
  | cons coercion rest ih =>
    obtain ⟨name, coerce⟩ := coercion
    rw [List.map_cons, List.nodup_cons] at hnodup
    have hfresh : lookupItems name rest = none := lookupItems_eq_none_iff.mpr hnodup.1
    rw [coerceKeys] at h
    cases hvalue : lookupItems (.str name) entries with
    | none =>
      simp only [hvalue] at h
      obtain ⟨hentry, hfield⟩ := ih hnodup.2 h
      by_cases hname : name = key
      · subst hname
        simp only [hfresh, hvalue] at hentry hfield
        exact ⟨by simp [lookupItems, hentry], by simp [lookupItems, hvalue, hfield]⟩
      · exact ⟨by simpa [lookupItems, hname] using hentry,
          by simpa only [lookupItems, hname, if_false] using hfield⟩
    | some value =>
      simp only [hvalue] at h
      obtain ⟨setting, hsetting, h⟩ := Option.bind_eq_some_iff.mp h
      obtain ⟨hentry, hfield⟩ := ih hnodup.2 h
      by_cases hname : name = key
      · subst hname
        simp only [hfresh, lookupItems_eraseItems, lookupItems_setItems, if_true] at hentry hfield
        exact ⟨by simpa [lookupItems] using hentry,
          by simpa only [lookupItems, if_true, hvalue] using ⟨setting, hsetting, hfield⟩⟩
      · have hne : ¬ key = name := fun heq => hname heq.symm
        simp only [lookupItems_eraseItems, lookupItems_setItems, Key.str.injEq, hne, hname,
          if_false] at hentry hfield
        exact ⟨by simpa [lookupItems, hname] using hentry,
          by simpa only [lookupItems, hname, if_false] using hfield⟩

theorem coerceKeys_isSome {coercions : Coercions O F} {fields : Fields (Setting O F)}
    {entries : Entries (Key O) (Scalar O F)} (hnodup : (coercions.map Prod.fst).Nodup)
    (hcoerce : ∀ key coerce value, lookupItems key coercions = some coerce →
      lookupItems (.str key) entries = some value → (coerce value).isSome) :
    (coerceKeys coercions fields entries).isSome := by
  induction coercions generalizing fields entries with
  | nil => rfl
  | cons coercion rest ih =>
    obtain ⟨name, coerce⟩ := coercion
    rw [List.map_cons, List.nodup_cons] at hnodup
    have hrest : ∀ key coerce' value, lookupItems key rest = some coerce' →
        lookupItems (.str key) entries = some value → key ≠ name ∧ (coerce' value).isSome := by
      intro key coerce' value hkey hvalue
      have hne : name ≠ key := by
        rintro rfl
        rw [lookupItems_eq_none_iff.mpr hnodup.1] at hkey
        cases hkey
      exact ⟨hne.symm, hcoerce key coerce' value
        (by rw [lookupItems, if_neg hne, hkey]) hvalue⟩
    rw [coerceKeys]
    cases hvalue : lookupItems (.str name) entries with
    | none => exact ih hnodup.2 fun key coerce' value hkey hvalue => (hrest key _ _ hkey hvalue).2
    | some value =>
      obtain ⟨setting, hsetting⟩ := Option.isSome_iff_exists.mp
        (hcoerce name coerce value (by rw [lookupItems, if_pos rfl]) hvalue)
      simp only [hsetting, Option.bind_some]
      refine ih hnodup.2 fun key coerce' value' hkey hvalue' => ?_
      rw [lookupItems_eraseItems] at hvalue'
      split at hvalue'
      · cases hvalue'
      · exact (hrest key _ _ hkey hvalue').2

theorem sublist_of_coerceKeys {coercions : Coercions O F} {fields : Fields (Setting O F)}
    {entries : Entries (Key O) (Scalar O F)}
    {result : Fields (Setting O F) × Entries (Key O) (Scalar O F)}
    (h : coerceKeys coercions fields entries = some result) : result.2.Sublist entries := by
  induction coercions generalizing fields entries with
  | nil =>
    rw [coerceKeys] at h
    cases h
    exact List.Sublist.refl entries
  | cons coercion rest ih =>
    rw [coerceKeys] at h
    split at h
    · exact ih h
    · obtain ⟨setting, -, h⟩ := Option.bind_eq_some_iff.mp h
      exact (ih h).trans List.filter_sublist

def coercionsOf (table : List (String × Coercions O F)) (name : String) : Coercions O F :=
  (lookupItems name table).getD []

/-- What taking keys out makes of one section and of what the document gives for it. -/
def CoercedSection (table : List (String × Coercions O F)) (sections : Sections O F)
    (raw : Entries (Key O) (Scalar O F))
    (result : Sections O F × Entries (Key O) (Scalar O F)) (name : String) : Prop :=
  match lookupItems (.str name) raw, lookupItems name sections with
  | some (.dict entries), some sec => ∃ coerced,
      coerceKeys (coercionsOf table name) sec.fields entries = some coerced ∧
        lookupItems name result.1 = some { sec with fields := coerced.1 } ∧
        lookupItems (.str name) result.2 = some (.dict coerced.2)
  | value, old => lookupItems name result.1 = old ∧ lookupItems (.str name) result.2 = value

theorem coercedSection_of_coerceSections {table : List (String × Coercions O F)}
    {sections : Sections O F} {raw : Entries (Key O) (Scalar O F)}
    {result : Sections O F × Entries (Key O) (Scalar O F)} (hnodup : (table.map Prod.fst).Nodup)
    (h : coerceSections table sections raw = some result) :
    result.2.map Prod.fst = raw.map Prod.fst ∧
      ∀ name, CoercedSection table sections raw result name := by
  induction table generalizing sections raw with
  | nil =>
    rw [coerceSections] at h
    cases h
    refine ⟨rfl, fun name => ?_⟩
    unfold CoercedSection
    split
    · rename_i entries sec hvalue hsec
      exact ⟨(sec.fields, entries), rfl, hsec, hvalue⟩
    · exact ⟨rfl, rfl⟩
  | cons entry rest ih =>
    obtain ⟨given, coercions⟩ := entry
    rw [List.map_cons, List.nodup_cons] at hnodup
    have hfresh : lookupItems given rest = none := lookupItems_eq_none_iff.mpr hnodup.1
    have hother : ∀ name, given ≠ name →
        coercionsOf ((given, coercions) :: rest) name = coercionsOf rest name := by
      intro name hne
      rw [coercionsOf, lookupItems, if_neg hne, coercionsOf]
    have hgiven : coercionsOf ((given, coercions) :: rest) given = coercions := by
      rw [coercionsOf, lookupItems, if_pos rfl, Option.getD_some]
    rw [coerceSections] at h
    split at h
    · rename_i entries sec hvalue hsec
      obtain ⟨coerced, hcoerced, h⟩ := Option.bind_eq_some_iff.mp h
      obtain ⟨hkeys, hnames⟩ := ih hnodup.2 h
      have hmem : Key.str given ∈ raw.map Prod.fst := by
        by_contra hmem
        rw [lookupItems_eq_none_iff.mpr hmem] at hvalue
        cases hvalue
      rw [keys_setItems, if_pos hmem] at hkeys
      refine ⟨hkeys, fun name => ?_⟩
      have hname := hnames name
      unfold CoercedSection at hname ⊢
      rw [lookupItems_setItems, lookupItems_setItems] at hname
      by_cases heq : given = name
      · subst heq
        simp only [if_true, coercionsOf, hfresh, Option.getD_none, coerceKeys] at hname
        obtain ⟨coerced', hcoerced', hfields, hentries⟩ := hname
        cases hcoerced'
        simp only [hvalue, hsec, hgiven]
        exact ⟨coerced, hcoerced, hfields, hentries⟩
      · rw [hother name heq]
        simpa only [heq, Key.str.injEq, if_false] using hname
    · rename_i hnone
      obtain ⟨hkeys, hnames⟩ := ih hnodup.2 h
      refine ⟨hkeys, fun name => ?_⟩
      have hname := hnames name
      by_cases heq : given = name
      · subst heq
        unfold CoercedSection at hname ⊢
        split at hname
        · rename_i entries sec hvalue hsec
          exact absurd hsec (hnone entries sec hvalue)
        · exact hname
      · unfold CoercedSection at hname ⊢
        rwa [hother name heq]

theorem coerceSections_isSome {table : List (String × Coercions O F)} {sections : Sections O F}
    {raw : Entries (Key O) (Scalar O F)} (hnodup : (table.map Prod.fst).Nodup)
    (hcoerce : ∀ name entries sec, lookupItems (.str name) raw = some (.dict entries) →
      lookupItems name sections = some sec →
        (coerceKeys (coercionsOf table name) sec.fields entries).isSome) :
    (coerceSections table sections raw).isSome := by
  induction table generalizing sections raw with
  | nil => rfl
  | cons entry rest ih =>
    obtain ⟨given, coercions⟩ := entry
    rw [List.map_cons, List.nodup_cons] at hnodup
    have hfresh : lookupItems given rest = none := lookupItems_eq_none_iff.mpr hnodup.1
    -- The rest of the table has no keys for the section of the first entry.
    have hrest : ∀ name entries (sec : Section O F), (given ≠ name →
        (coerceKeys (coercionsOf ((given, coercions) :: rest) name) sec.fields entries).isSome) →
          (coerceKeys (coercionsOf rest name) sec.fields entries).isSome := by
      intro name entries sec hname
      by_cases heq : given = name
      · subst heq
        rw [coercionsOf, hfresh]
        rfl
      · simpa only [coercionsOf, lookupItems, heq, if_false] using hname heq
    rw [coerceSections]
    split
    · rename_i entries sec hvalue hsec
      obtain ⟨coerced, hcoerced⟩ := Option.isSome_iff_exists.mp
        (hcoerce given entries sec hvalue hsec)
      rw [coercionsOf, lookupItems, if_pos rfl, Option.getD_some] at hcoerced
      rw [hcoerced, Option.bind_some]
      refine ih hnodup.2 fun name entries' sec' hvalue' hsec' =>
        hrest name entries' sec' fun hne => ?_
      rw [lookupItems_setItems, if_neg (by simpa using hne)] at hvalue'
      rw [lookupItems_setItems, if_neg hne] at hsec'
      exact hcoerce name entries' sec' hvalue' hsec'
    · exact ih hnodup.2 fun name entries' sec' hvalue' hsec' => hrest name entries' sec' fun _ =>
        hcoerce name entries' sec' hvalue' hsec'

/-! ### The loop over the sections -/

/-- What the loop makes of the section of one name, and the unknown keys that begin with it. -/
def SectionAt (read : String → Section O F → Doc O F → Option (Section O F × List Trail))
    (sections : Sections O F) (raw : Entries (Key O) (Scalar O F))
    (result : Sections O F × List Trail) (name : String) : Prop :=
  match lookupItems (.str name) raw, lookupItems name sections with
  | some value, some sec => ∃ merged, read name sec value = some merged ∧
      lookupItems name result.1 = some merged.1 ∧
        ∀ rest, name :: rest ∈ result.2 ↔ rest ∈ merged.2
  | some _, none => lookupItems name result.1 = none ∧ ∀ rest, name :: rest ∈ result.2 ↔ rest = []
  | none, old => lookupItems name result.1 = old ∧ ∀ rest, name :: rest ∉ result.2

theorem sectionAt_of_applySections {sections : Sections O F}
    {raw : Entries (Key O) (Scalar O F)} {result : Sections O F × List Trail}
    (hnodup : (raw.map Prod.fst).Nodup) (h : applySections py sections raw = some result)
    (name : String) : SectionAt (fun _ => applySection py) sections raw result name := by
  induction raw generalizing sections result with
  | nil =>
    rw [applySections] at h
    cases h
    exact ⟨rfl, fun rest => List.not_mem_nil⟩
  | cons entry rest ih =>
    obtain ⟨given | given, value⟩ := entry
    · rw [List.map_cons, List.nodup_cons] at hnodup
      have hfresh : lookupItems (.str given) rest = none := lookupItems_eq_none_iff.mpr hnodup.1
      rw [applySections] at h
      cases hsec : lookupItems given sections with
      | none =>
        simp only [hsec] at h
        obtain ⟨applied, happlied, rfl⟩ := Option.map_eq_some_iff.mp h
        have hname := ih hnodup.2 happlied
        by_cases heq : given = name
        · subst heq
          simp only [SectionAt, hfresh, hsec] at hname
          simp only [SectionAt, lookupItems, if_true, hsec]
          refine ⟨hname.1, fun tail => ?_⟩
          simp [hname.2]
        · simp only [SectionAt, lookupItems, Key.str.injEq, heq, if_false] at hname ⊢
          have hne : ¬ name = given := fun h => heq h.symm
          simpa [hne] using hname
      | some sec =>
        simp only [hsec] at h
        obtain ⟨merged, hmerged, h⟩ := Option.bind_eq_some_iff.mp h
        obtain ⟨applied, happlied, rfl⟩ := Option.map_eq_some_iff.mp h
        have hname := ih hnodup.2 happlied
        by_cases heq : given = name
        · subst heq
          simp only [SectionAt, hfresh, lookupItems_setItems, if_true] at hname
          simp only [SectionAt, lookupItems, if_true, hsec]
          refine ⟨merged, hmerged, hname.1, fun tail => ?_⟩
          simp [hname.2]
        · have hne : ¬ name = given := fun h => heq h.symm
          simp only [SectionAt, lookupItems, Key.str.injEq, heq, if_false,
            lookupItems_setItems] at hname ⊢
          simpa [heq] using hname
    · rw [applySections] at h
      cases h

omit [DecidableEq O] in
theorem nil_not_mem_of_applySections {sections : Sections O F}
    {raw : Entries (Key O) (Scalar O F)} {result : Sections O F × List Trail}
    (h : applySections py sections raw = some result) : [] ∉ result.2 := by
  induction raw generalizing sections result with
  | nil =>
    rw [applySections] at h
    cases h
    exact List.not_mem_nil
  | cons entry rest ih =>
    obtain ⟨given | given, value⟩ := entry
    · rw [applySections] at h
      split at h
      · obtain ⟨applied, happlied, rfl⟩ := Option.map_eq_some_iff.mp h
        simpa using ih happlied
      · obtain ⟨merged, -, h⟩ := Option.bind_eq_some_iff.mp h
        obtain ⟨applied, happlied, rfl⟩ := Option.map_eq_some_iff.mp h
        simpa using ih happlied
    · rw [applySections] at h
      cases h

omit [DecidableEq O] in
theorem keys_str_of_applySections {sections : Sections O F} {raw : Entries (Key O) (Scalar O F)}
    {result : Sections O F × List Trail} (h : applySections py sections raw = some result) :
    ∀ key ∈ raw.map Prod.fst, ∃ name, key = .str name := by
  induction raw generalizing sections result with
  | nil => simp
  | cons entry rest ih =>
    obtain ⟨given | given, value⟩ := entry
    · rw [List.map_cons, List.forall_mem_cons]
      refine ⟨⟨given, rfl⟩, ?_⟩
      rw [applySections] at h
      split at h
      · obtain ⟨applied, happlied, -⟩ := Option.map_eq_some_iff.mp h
        exact ih happlied
      · obtain ⟨merged, -, h⟩ := Option.bind_eq_some_iff.mp h
        obtain ⟨applied, happlied, -⟩ := Option.map_eq_some_iff.mp h
        exact ih happlied
    · rw [applySections] at h
      cases h

theorem applySections_isSome {sections : Sections O F} {raw : Entries (Key O) (Scalar O F)}
    (hnodup : (raw.map Prod.fst).Nodup)
    (htexts : ∀ key ∈ raw.map Prod.fst, ∃ name, key = .str name)
    (happly : ∀ name value sec, lookupItems (.str name) raw = some value →
      lookupItems name sections = some sec → (applySection py sec value).isSome) :
    (applySections py sections raw).isSome := by
  induction raw generalizing sections with
  | nil => rfl
  | cons entry rest ih =>
    obtain ⟨key, value⟩ := entry
    rw [List.map_cons, List.nodup_cons] at hnodup
    rw [List.map_cons, List.forall_mem_cons] at htexts
    obtain ⟨⟨given, rfl⟩, htexts⟩ := htexts
    have hfresh : lookupItems (.str given) rest = none := lookupItems_eq_none_iff.mpr hnodup.1
    have hrest : ∀ name other, lookupItems (.str name) rest = some other → given ≠ name := by
      rintro name other hname rfl
      rw [hfresh] at hname
      cases hname
    rw [applySections]
    cases hsec : lookupItems given sections with
    | none =>
      rw [Option.isSome_map]
      refine ih hnodup.2 htexts fun name other sec hother hsec' => ?_
      exact happly name other sec
        (by rw [lookupItems, if_neg (by simpa using hrest name other hother), hother]) hsec'
    | some sec =>
      obtain ⟨merged, hmerged⟩ := Option.isSome_iff_exists.mp
        (happly given value sec (by rw [lookupItems, if_pos rfl]) hsec)
      simp only [hmerged, Option.bind_some, Option.isSome_map]
      refine ih hnodup.2 htexts fun name other sec' hother hsec' => ?_
      have hne := hrest name other hother
      rw [lookupItems_setItems, if_neg hne] at hsec'
      exact happly name other sec'
        (by rw [lookupItems, if_neg (by simpa using hne), hother]) hsec'

/-! ### One layer -/

def readSection (py : Python O F) (name : String) (sec : Section O F) :
    Doc O F → Option (Section O F × List Trail)
  | .dict entries =>
    (coerceKeys (coercionsOf (coerced py) name) sec.fields entries).bind fun coerced =>
      applySection py { sec with fields := coerced.1 } (.dict coerced.2)
  | value => applySection py sec value

theorem readSection_other {value : Doc O F} (hvalue : ∀ entries, value ≠ .dict entries)
    (name : String) (sec : Section O F) :
    readSection py name sec value = applySection py sec value := by
  cases value with
  | dict entries => exact absurd rfl (hvalue entries)
  | scalar value => rfl
  | list items => rfl

theorem docAt_cons_other {value : Doc O F} (hvalue : ∀ entries, value ≠ .dict entries)
    (first : String) (rest : Trail) : docAt (first :: rest) value = none := by
  cases value with
  | dict entries => exact absurd rfl (hvalue entries)
  | scalar value => rfl
  | list items => rfl

theorem nodup_coerced : ((coerced py).map Prod.fst).Nodup := by
  simp [coerced]

theorem nodup_coercionsOf (name : String) :
    ((coercionsOf (coerced py) name).map Prod.fst).Nodup := by
  unfold coercionsOf coerced
  simp only [lookupItems]
  split
  · simp
  · split
    · simp
    · split <;> simp

theorem mem_coerced {name key : String}
    (h : (lookupItems key (coercionsOf (coerced py) name)).isSome) :
    (name, key) ∈ [("capture", "meshcore_usb"), ("capture", "serial"),
      ("capture", "rfenv_companion"), ("repeater_poll", "repeaters"), ("metrics", "api_keys")] := by
  obtain ⟨coerce, hcoerce⟩ := Option.isSome_iff_exists.mp h
  unfold coercionsOf at hcoerce
  cases htable : lookupItems name (coerced py) with
  | none => simp [htable, lookupItems] at hcoerce
  | some coercions =>
    rw [htable, Option.getD_some] at hcoerce
    have hname := (lookupItems_eq_some_iff nodup_coerced).mp htable
    have hkey : key ∈ coercions.map Prod.fst := by
      by_contra hkey
      rw [lookupItems_eq_none_iff.mpr hkey] at hcoerce
      cases hcoerce
    simp only [coerced, List.mem_cons, List.not_mem_nil, or_false, Prod.mk.injEq] at hname
    rcases hname with ⟨rfl, rfl⟩ | ⟨rfl, rfl⟩ | ⟨rfl, rfl⟩
    · simpa using hkey
    · simpa using hkey
    · simpa using hkey

theorem sublist_withoutPopped (raw : Entries (Key O) (Scalar O F)) :
    (withoutPopped raw).Sublist raw :=
  (List.filter_sublist.trans List.filter_sublist).trans List.filter_sublist

theorem keys_withoutPopped {raw : Entries (Key O) (Scalar O F)} {key : Key O}
    (h : key ∈ raw.map Prod.fst) : key ∈ (withoutPopped raw).map Prod.fst ∨
      ∃ name, key = .str name := by
  cases key with
  | str name => exact .inr ⟨name, rfl⟩
  | other value =>
    obtain ⟨entry, hentry, hkey⟩ := List.mem_map.mp h
    refine .inl (List.mem_map.mpr ⟨entry, ?_, hkey⟩)
    simp [withoutPopped, eraseItems, hentry, hkey]

/-- **What a layer does.** Each section is read by itself. -/
theorem sectionAt_of_applyMapping {raw : Entries (Key O) (Scalar O F)} {cfg : AppConfig O F}
    {layer : Layer O F} (hnodup : (raw.map Prod.fst).Nodup)
    (h : applyMapping py raw cfg = some layer) :
    (∀ key ∈ raw.map Prod.fst, ∃ name, key = .str name) ∧ [] ∉ layer.unknown ∧
      layer.config = { applyPopped raw cfg with sections := layer.config.sections } ∧
      ∀ name, SectionAt (readSection py) cfg.sections (withoutPopped raw)
        (layer.config.sections, layer.unknown) name := by
  obtain ⟨coerced', hcoerced, h⟩ := Option.bind_eq_some_iff.mp h
  obtain ⟨applied, happlied, rfl⟩ := Option.map_eq_some_iff.mp h
  obtain ⟨hkeys, hnames⟩ := coercedSection_of_coerceSections nodup_coerced hcoerced
  have hnodup' : (coerced'.2.map Prod.fst).Nodup := by
    rw [hkeys]
    exact hnodup.sublist ((sublist_withoutPopped raw).map Prod.fst)
  refine ⟨fun key hkey => ?_, nil_not_mem_of_applySections happlied, rfl, fun name => ?_⟩
  · rcases keys_withoutPopped hkey with hkey | hname
    · rw [← hkeys] at hkey
      exact keys_str_of_applySections happlied key hkey
    · exact hname
  · have hcoerced := hnames name
    have happly := sectionAt_of_applySections hnodup' happlied name
    unfold CoercedSection at hcoerced
    split at hcoerced
    · rename_i entries sec hvalue hsec
      obtain ⟨taken, htaken, hfields, hentries⟩ := hcoerced
      simp only [SectionAt, hfields, hentries] at happly
      simp only [SectionAt, hvalue, hsec]
      simpa only [readSection, htaken, Option.bind_some] using happly
    · rename_i hnone
      obtain ⟨hsec, hvalue⟩ := hcoerced
      simp only [SectionAt, hsec, hvalue] at happly ⊢
      split
      · rename_i value sec hvalue' hsec'
        simp only [hvalue', hsec'] at happly
        cases value with
        | dict entries => exact absurd hsec' (hnone entries sec hvalue')
        | scalar value => exact happly
        | list items => exact happly
      · rename_i value hvalue' hsec'
        simpa only [hvalue', hsec'] using happly
      · rename_i hvalue'
        simpa only [hvalue'] using happly

theorem applyMapping_isSome {raw : Entries (Key O) (Scalar O F)} {cfg : AppConfig O F}
    (hnodup : (raw.map Prod.fst).Nodup)
    (htexts : ∀ key ∈ raw.map Prod.fst, ∃ name, key = .str name)
    (hread : ∀ name value sec, lookupItems (.str name) (withoutPopped raw) = some value →
      lookupItems name cfg.sections = some sec → (readSection py name sec value).isSome) :
    (applyMapping py raw cfg).isSome := by
  have hcoerce : ∀ name entries sec,
      lookupItems (.str name) (withoutPopped raw) = some (.dict entries) →
        lookupItems name cfg.sections = some sec →
          (coerceKeys (coercionsOf (coerced py) name) sec.fields entries).isSome := by
    intro name entries sec hvalue hsec
    obtain ⟨merged, hmerged⟩ := Option.isSome_iff_exists.mp (hread name _ sec hvalue hsec)
    obtain ⟨taken, htaken, -⟩ := Option.bind_eq_some_iff.mp hmerged
    rw [htaken]
    rfl
  obtain ⟨coerced', hcoerced⟩ := Option.isSome_iff_exists.mp
    (coerceSections_isSome nodup_coerced hcoerce)
  obtain ⟨hkeys, hnames⟩ := coercedSection_of_coerceSections nodup_coerced hcoerced
  have hsublist := (sublist_withoutPopped raw).map Prod.fst
  rw [applyMapping, hcoerced, Option.bind_some, Option.isSome_map]
  refine applySections_isSome (by rw [hkeys]; exact hnodup.sublist hsublist)
    (by rw [hkeys]; exact fun key hkey => htexts key (hsublist.subset hkey)) ?_
  intro name value sec hvalue hsec
  have hname := hnames name
  unfold CoercedSection at hname
  split at hname
  · rename_i entries sec' hvalue' hsec'
    obtain ⟨taken, htaken, hfields, hentries⟩ := hname
    rw [hfields] at hsec
    rw [hentries] at hvalue
    cases hsec
    cases hvalue
    have hread' := hread name _ sec' hvalue' hsec'
    rwa [readSection, htaken, Option.bind_some] at hread'
  · rename_i hnone
    rw [hname.1] at hsec
    rw [hname.2] at hvalue
    have hread' := hread name value sec hvalue hsec
    cases value with
    | dict entries => exact absurd hsec (hnone entries sec hvalue)
    | scalar value => exact hread'
    | list items => exact hread'

/-! ### The coerced keys of a section -/

theorem kindAt_setting_cons {V : Type} {attr : Attribute V} {key : String}
    (h : attr.kindAt [key] = some none) (first : String) (rest : Trail) :
    attr.kindAt (key :: first :: rest) = none := by
  cases attr with
  | setting value => rfl
  | dataclass cls fields =>
    cases hfield : lookupItems key fields with
    | none => exact Attribute.kindAt_missing hfield _
    | some current =>
      rw [Attribute.kindAt_below hfield] at h ⊢
      cases current with
      | setting value => rfl
      | dataclass cls' fields' => simp [Attribute.kindAt, Attribute.kind] at h

theorem not_instanceAt_setting_cons {V : Type} {attr : Attribute V} {key : String}
    (h : attr.kindAt [key] = some none) (rest : Trail) : ¬ attr.InstanceAt (key :: rest) := by
  rintro ⟨cls, hcls⟩
  cases rest with
  | nil => simp [h] at hcls
  | cons first rest => simp [kindAt_setting_cons h] at hcls

theorem docAt_coerced {coercions : Coercions O F} {fields : Fields (Setting O F)}
    {entries : Entries (Key O) (Scalar O F)}
    {result : Fields (Setting O F) × Entries (Key O) (Scalar O F)}
    (h : ∀ key, CoercedAt coercions fields entries result key) (key : String) (rest : Trail) :
    docAt (key :: rest) (.dict result.2) =
      if (lookupItems key coercions).isSome then none else docAt (key :: rest) (.dict entries) := by
  rw [docAt_cons_dict, (h key).entry]
  split
  · rfl
  · rw [docAt_cons_dict]

theorem distinct_coerced {coercions : Coercions O F} {fields : Fields (Setting O F)}
    {entries : Entries (Key O) (Scalar O F)}
    {result : Fields (Setting O F) × Entries (Key O) (Scalar O F)}
    (hdistinct : Distinct (.dict entries))
    (h : ∀ key, CoercedAt coercions fields entries result key)
    (hsublist : result.2.Sublist entries) : Distinct (.dict result.2) := by
  intro trail nested hnested
  cases trail with
  | nil =>
    rw [docAt_nil] at hnested
    cases hnested
    exact hdistinct.nodup.sublist (hsublist.map Prod.fst)
  | cons key rest =>
    rw [docAt_coerced h] at hnested
    split at hnested
    · cases hnested
    · exact hdistinct (key :: rest) nested hnested

theorem find_coerced {coercions : Coercions O F} {fields : Fields (Setting O F)}
    {entries : Entries (Key O) (Scalar O F)}
    {result : Fields (Setting O F) × Entries (Key O) (Scalar O F)}
    (h : ∀ key, CoercedAt coercions fields entries result key) (cls key : String) (rest : Trail) :
    (∃ coerce value setting, lookupItems key coercions = some coerce ∧
      lookupItems (.str key) entries = some value ∧ coerce value = some setting ∧
        (Attribute.dataclass cls result.1).find (key :: rest) =
          (Attribute.setting setting).find rest) ∨
    ((lookupItems key coercions).isSome → lookupItems (.str key) entries = none) ∧
      (Attribute.dataclass cls result.1).find (key :: rest) =
        (Attribute.dataclass cls fields).find (key :: rest) := by
  have hfield := (h key).field
  split at hfield
  · rename_i coerce value hcoerce hvalue
    obtain ⟨setting, hsetting, hlookup⟩ := hfield
    refine .inl ⟨coerce, value, setting, hcoerce, hvalue, hsetting, ?_⟩
    rw [Attribute.find_cons, hlookup, Option.bind_some]
  · rename_i hnone
    refine .inr ⟨fun hcoerce => ?_, by rw [Attribute.find_cons, Attribute.find_cons, hfield]⟩
    obtain ⟨coerce, hcoerce⟩ := Option.isSome_iff_exists.mp hcoerce
    cases hvalue : lookupItems (.str key) entries with
    | none => rfl
    | some value => exact absurd hvalue (hnone coerce value hcoerce)

theorem kindAt_coerced {coercions : Coercions O F} {fields : Fields (Setting O F)}
    {entries : Entries (Key O) (Scalar O F)}
    {result : Fields (Setting O F) × Entries (Key O) (Scalar O F)} {cls : String}
    (h : ∀ key, CoercedAt coercions fields entries result key)
    (hsettings : ∀ key, (lookupItems key coercions).isSome →
      (Attribute.dataclass cls fields).kindAt [key] = some none) (trail : Trail) :
    (Attribute.dataclass cls result.1).kindAt trail =
      (Attribute.dataclass cls fields).kindAt trail := by
  cases trail with
  | nil => simp [Attribute.kindAt, Attribute.kind]
  | cons key rest =>
    rcases find_coerced h cls key rest with
      ⟨coerce, value, setting, hcoerce, -, -, hfind⟩ | ⟨-, hfind⟩
    · have hsetting := hsettings key (by rw [hcoerce]; rfl)
      rw [Attribute.kindAt, hfind]
      cases rest with
      | nil =>
        rw [hsetting]
        rfl
      | cons first rest =>
        rw [kindAt_setting_cons hsetting]
        rfl
    · rw [Attribute.kindAt, hfind]
      rfl

theorem mem_of_coerceKeys {coercions : Coercions O F} {fields : Fields (Setting O F)}
    {entries : Entries (Key O) (Scalar O F)}
    {result : Fields (Setting O F) × Entries (Key O) (Scalar O F)}
    (h : coerceKeys coercions fields entries = some result) {value : O}
    (hkey : Key.other value ∈ entries.map Prod.fst) : Key.other value ∈ result.2.map Prod.fst := by
  induction coercions generalizing fields entries with
  | nil =>
    rw [coerceKeys] at h
    cases h
    exact hkey
  | cons coercion rest ih =>
    rw [coerceKeys] at h
    split at h
    · exact ih h hkey
    · obtain ⟨setting, -, h⟩ := Option.bind_eq_some_iff.mp h
      refine ih h ?_
      obtain ⟨entry, hentry, hfst⟩ := List.mem_map.mp hkey
      refine List.mem_map.mpr ⟨entry, List.mem_filter.mpr ⟨hentry, ?_⟩, hfst⟩
      simp [hfst]

/-! ### Sections -/

omit [DecidableEq O] in
theorem mergeDataclass_dict (fields : Fields (Setting O F))
    (entries : Entries (Key O) (Scalar O F)) :
    mergeDataclass py.objects .yaml fields (.dict entries) =
      mergeItems py.objects .yaml fields entries := by
  unfold mergeDataclass
  split
  · rfl
  · rename_i hfalse
    have hnil : entries = [] := by
      simpa [Objects.isTruthy] using hfalse
    rw [hnil, mergeItems]

omit [DecidableEq O] in
theorem applySection_dict {sec : Section O F} {entries : Entries (Key O) (Scalar O F)}
    {merged : Section O F × List Trail} :
    applySection py sec (.dict entries) = some merged ↔
      mergeAttribute py.objects .yaml sec.toAttribute (.dict entries) = some merged.1.toAttribute ∧
        collectAttribute py.objects merged.1.toAttribute (.dict entries) = some merged.2 := by
  unfold applySection Section.toAttribute
  rw [mergeDataclass_dict, mergeAttribute]
  constructor
  · intro h
    obtain ⟨fields, hfields, h⟩ := Option.bind_eq_some_iff.mp h
    obtain ⟨unknown, hunknown, rfl⟩ := Option.map_eq_some_iff.mp h
    exact ⟨by rw [hfields]; rfl, hunknown⟩
  · rintro ⟨hmerge, hunknown⟩
    obtain ⟨fields, hfields, heq⟩ := Option.map_eq_some_iff.mp hmerge
    obtain ⟨⟨cls, fields'⟩, unknown⟩ := merged
    cases heq
    rw [hfields, Option.bind_some, hunknown]
    rfl

omit [DecidableEq O] in
theorem applySection_other {sec : Section O F} {value : Doc O F}
    (hvalue : ∀ entries, value ≠ .dict entries) {merged : Section O F × List Trail} :
    applySection py sec value = some merged ↔
      py.objects.isTruthy value = false ∧ merged = (sec, []) := by
  have hcollect : ∀ fields,
      collectAttribute py.objects (.dataclass sec.cls fields) value = some [] := by
    intro fields
    cases value with
    | dict entries => exact absurd rfl (hvalue entries)
    | scalar value => rw [collectAttribute.eq_def]
    | list items => rw [collectAttribute.eq_def]
  have hmerge : mergeDataclass py.objects .yaml sec.fields value =
      if py.objects.isTruthy value then none else some sec.fields := by
    cases value with
    | dict entries => exact absurd rfl (hvalue entries)
    | scalar value => rfl
    | list items => rfl
  unfold applySection
  rw [hmerge]
  cases py.objects.isTruthy value <;> simp [hcollect, eq_comm]

/-- The keys of a section that are coerced are settings of it. -/
def CoercedSettings (py : Python O F) (name : String) (sec : Attribute (Setting O F)) : Prop :=
  ∀ key, (lookupItems key (coercionsOf (coerced py) name)).isSome → sec.kindAt [key] = some none

/-- What a section has for a document: the document's value of each setting that is given. -/
structure Reads (py : Python O F) (name : String) (sec : Section O F) (value : Doc O F)
    (merged : Section O F × List Trail) : Prop where
  kindAt : ∀ trail, merged.1.toAttribute.kindAt trail = sec.toAttribute.kindAt trail
  settings : ∀ trail current, sec.toAttribute.find trail = some (.setting current) →
    ∃ setting, merged.1.toAttribute.find trail = some (.setting setting) ∧
      match docAt trail value with
      | some given => parse py (name :: trail) given = some setting
      | none => setting = current
  unknown : ∀ trail, trail ∈ merged.2 ↔ Unknown sec.toAttribute value trail

theorem parse_coerced {name key : String} {coerce : Doc O F → Option (Setting O F)}
    (h : lookupItems key (coercionsOf (coerced py) name) = some coerce) (value : Doc O F) :
    parse py [name, key] value = coerce value := by
  have hcoercion : coercionOf py name key = some coerce := by
    unfold coercionsOf at h
    unfold coercionOf
    cases htable : lookupItems name (coerced py) with
    | none => simp [htable, lookupItems] at h
    | some coercions => simpa [htable] using h
  simp [parse, hcoercion]

theorem parse_other {name key : String} {rest : Trail}
    (h : lookupItems key (coercionsOf (coerced py) name) = none ∨ rest ≠ []) (value : Doc O F) :
    parse py (name :: key :: rest) value = some (.yaml value) := by
  cases rest with
  | cons first rest => simp [parse]
  | nil =>
    have hcoercion : coercionOf py name key = none := by
      have hnone := h.resolve_right (by simp)
      unfold coercionsOf at hnone
      unfold coercionOf
      cases htable : lookupItems name (coerced py) with
      | none => rfl
      | some coercions => simpa [htable] using hnone
    simp [parse, hcoercion]

theorem unknown_coerced {coercions : Coercions O F} {fields : Fields (Setting O F)}
    {entries : Entries (Key O) (Scalar O F)}
    {result : Fields (Setting O F) × Entries (Key O) (Scalar O F)}
    {attr : Attribute (Setting O F)}
    (h : ∀ key, CoercedAt coercions fields entries result key)
    (hsettings : ∀ key, (lookupItems key coercions).isSome → attr.kindAt [key] = some none)
    (trail : Trail) : Unknown attr (.dict result.2) trail ↔ Unknown attr (.dict entries) trail := by
  cases trail with
  | nil => simp [Unknown]
  | cons key rest =>
    unfold Unknown
    rw [docAt_coerced h]
    split
    · rename_i hcoerced
      have hsetting := hsettings key hcoerced
      refine iff_of_false (fun hunknown => hunknown.1 rfl) ?_
      rintro ⟨-, hnone, hinstance⟩
      cases rest with
      | nil => simp [hsetting] at hnone
      | cons first rest =>
        rw [List.dropLast_cons_cons] at hinstance
        exact not_instanceAt_setting_cons hsetting _ hinstance
    · exact Iff.rfl

theorem setting_of_coerced {name cls : String} {fields fields' : Fields (Setting O F)}
    {entries : Entries (Key O) (Scalar O F)}
    {result : Fields (Setting O F) × Entries (Key O) (Scalar O F)}
    (h : ∀ key, CoercedAt (coercionsOf (coerced py) name) fields entries result key)
    (hcoerced : CoercedSettings py name (.dataclass cls fields))
    (hfind : ∀ trail current, (Attribute.dataclass cls result.1).find trail =
      some (.setting current) → (Attribute.dataclass cls fields').find trail =
        some (.setting ((docAt trail (.dict result.2)).elim current .yaml)))
    {trail : Trail} {current : Setting O F}
    (hcurrent : (Attribute.dataclass cls fields).find trail = some (.setting current)) :
    ∃ setting, (Attribute.dataclass cls fields').find trail = some (.setting setting) ∧
      match docAt trail (.dict entries) with
      | some given => parse py (name :: trail) given = some setting
      | none => setting = current := by
  cases trail with
  | nil => simp at hcurrent
  | cons key rest =>
    rcases find_coerced h cls key rest with
      ⟨coerce, value, setting, hcoerce, hvalue, hsetting, htaken⟩ | ⟨hnone, htaken⟩
    · have hisSome : (lookupItems key (coercionsOf (coerced py) name)).isSome := by
        rw [hcoerce]
        rfl
      cases rest with
      | cons first rest =>
        have hkind := kindAt_setting_cons (hcoerced key hisSome) first rest
        rw [Attribute.kindAt, hcurrent] at hkind
        cases hkind
      | nil =>
        refine ⟨setting, ?_, ?_⟩
        · rw [hfind [key] setting (by rw [htaken, Attribute.find_nil]), docAt_coerced h,
            if_pos hisSome]
          rfl
        · rw [docAt_cons_dict, hvalue, Option.bind_some, docAt_nil]
          simp only [parse_coerced hcoerce, hsetting]
    · rw [hcurrent] at htaken
      refine ⟨_, hfind (key :: rest) current htaken, ?_⟩
      rw [docAt_coerced h]
      split
      · rename_i given hgiven
        split
        · rename_i hisSome
          rw [docAt_cons_dict, hnone hisSome] at hgiven
          cases hgiven
        · rename_i hisNone
          rw [hgiven, parse_other (.inl (by simpa using hisNone))]
          rfl
      · rename_i hgiven
        rw [hgiven]
        split <;> rfl

theorem reads_of_mapping {name : String} {sec : Section O F}
    {entries : Entries (Key O) (Scalar O F)}
    (hcoerced : CoercedSettings py name sec.toAttribute) (hdistinct : Distinct (.dict entries))
    (hmappings : ∀ trail given, sec.toAttribute.InstanceAt trail →
      docAt trail (.dict entries) = some given →
        PlainMapping py.objects given ∨ trail = [] ∧ py.objects.isTruthy given = false)
    (hparse : ∀ trail given, sec.toAttribute.kindAt trail = some none →
      docAt trail (.dict entries) = some given → (parse py (name :: trail) given).isSome) :
    ∃ merged, readSection py name sec (.dict entries) = some merged ∧
      Reads py name sec (.dict entries) merged := by
  have hkeys : ∀ key ∈ entries.map Prod.fst, Plain py.objects key := by
    rcases hmappings [] _ (Attribute.instanceAt_nil sec.cls sec.fields) (docAt_nil _) with
      ⟨entries', heq, hplain⟩ | ⟨-, hfalse⟩
    · cases heq
      exact hplain
    · have hnil : entries = [] := by
        simpa [Objects.isTruthy] using hfalse
      simp [hnil]
  have hcoerce : (coerceKeys (coercionsOf (coerced py) name) sec.fields entries).isSome := by
    refine coerceKeys_isSome (nodup_coercionsOf name) fun key coerce value hcoerce hvalue => ?_
    have hgiven := hparse [key] value (hcoerced key (by rw [hcoerce]; rfl))
      (by rw [docAt_cons_dict, hvalue, Option.bind_some, docAt_nil])
    rwa [parse_coerced hcoerce] at hgiven
  obtain ⟨taken, htaken⟩ := Option.isSome_iff_exists.mp hcoerce
  have hat := coercedAt_of_coerceKeys (nodup_coercionsOf name) htaken
  have hsublist := sublist_of_coerceKeys htaken
  have hkinds : ∀ trail, (Attribute.dataclass sec.cls taken.1).kindAt trail =
      sec.toAttribute.kindAt trail := kindAt_coerced hat hcoerced
  have hdistinct' := distinct_coerced hdistinct hat hsublist
  have hregular : Regular py.objects (.dataclass sec.cls taken.1) (.dict taken.2) := by
    intro trail given hinstance hgiven
    cases trail with
    | nil =>
      rw [docAt_nil] at hgiven
      cases hgiven
      exact ⟨taken.2, rfl, fun key hkey => hkeys key ((hsublist.map Prod.fst).subset hkey)⟩
    | cons key rest =>
      rw [docAt_coerced hat] at hgiven
      split at hgiven
      · cases hgiven
      · exact (hmappings (key :: rest) given
          ((Attribute.instanceAt_congr hkinds _).mp hinstance) hgiven).resolve_right (by simp)
  have hisSome : (mergeAttribute py.objects .yaml (.dataclass sec.cls taken.1)
      (.dict taken.2)).isSome := mergeAttribute_isSome hdistinct' hregular
  obtain ⟨attr', hmerge⟩ := Option.isSome_iff_exists.mp hisSome
  obtain ⟨fields', hfields, rfl⟩ : ∃ fields', mergeItems py.objects .yaml taken.1 taken.2 =
      some fields' ∧ .dataclass sec.cls fields' = attr' := by
    rw [mergeAttribute] at hmerge
    exact Option.map_eq_some_iff.mp hmerge
  have hfind := find_mergeAttribute hdistinct' hregular hmerge
  have hkinds' : ∀ trail, (Attribute.dataclass sec.cls fields').kindAt trail =
      sec.toAttribute.kindAt trail := fun trail => ((hfind trail).1).trans (hkinds trail)
  have hregular' : Regular py.objects (.dataclass sec.cls fields') (.dict taken.2) :=
    hregular.congr fun trail => (hfind trail).1
  obtain ⟨unknown, hunknown⟩ := Option.isSome_iff_exists.mp
    (collectAttribute_isSome hdistinct' hregular')
  refine ⟨(⟨sec.cls, fields'⟩, unknown), ?_, hkinds', ?_, ?_⟩
  · rw [readSection, htaken, Option.bind_some]
    exact applySection_dict.mpr ⟨hmerge, hunknown⟩
  · intro trail current hcurrent
    exact setting_of_coerced hat hcoerced (fun trail => (hfind trail).2) hcurrent
  · intro trail
    rw [mem_collectAttribute_iff hdistinct' hregular' hunknown, unknown_congr hkinds',
      unknown_coerced hat hcoerced]

/-- **A section that fits.** -/
theorem reads_of_fits {name : String} {sec : Section O F} {value : Doc O F}
    (hcoerced : CoercedSettings py name sec.toAttribute) (hdistinct : Distinct value)
    (hmappings : ∀ trail given, sec.toAttribute.InstanceAt trail →
      docAt trail value = some given →
        PlainMapping py.objects given ∨ trail = [] ∧ py.objects.isTruthy given = false)
    (hparse : ∀ trail given, sec.toAttribute.kindAt trail = some none →
      docAt trail value = some given → (parse py (name :: trail) given).isSome) :
    ∃ merged, readSection py name sec value = some merged ∧ Reads py name sec value merged := by
  by_cases hvalue : ∃ entries, value = .dict entries
  · obtain ⟨entries, rfl⟩ := hvalue
    exact reads_of_mapping hcoerced hdistinct hmappings hparse
  · have hother : ∀ entries, value ≠ .dict entries := not_exists.mp hvalue
    have hbelow := docAt_cons_other hother
    have hfalse : py.objects.isTruthy value = false := by
      rcases hmappings [] value (Attribute.instanceAt_nil sec.cls sec.fields) (docAt_nil value) with
        ⟨entries, rfl, -⟩ | ⟨-, hfalse⟩
      · exact absurd rfl (hother entries)
      · exact hfalse
    refine ⟨(sec, []), ?_, ⟨fun trail => rfl, ?_, ?_⟩⟩
    · rw [readSection_other hother]
      exact (applySection_other hother).mpr ⟨hfalse, rfl⟩
    · intro trail current hcurrent
      cases trail with
      | nil => simp [Section.toAttribute] at hcurrent
      | cons first rest => exact ⟨current, hcurrent, by simp [hbelow]⟩
    · intro trail
      refine iff_of_false List.not_mem_nil fun hunknown => ?_
      cases trail with
      | nil => simp [Unknown, Attribute.kindAt] at hunknown
      | cons first rest => exact hunknown.1 (hbelow first rest)

theorem coerce_isSome_of_readSection {name key : String} {sec : Section O F} {value given : Doc O F}
    {merged : Section O F × List Trail} (h : readSection py name sec value = some merged)
    {coerce : Doc O F → Option (Setting O F)}
    (hcoerce : lookupItems key (coercionsOf (coerced py) name) = some coerce)
    (hgiven : docAt [key] value = some given) : (coerce given).isSome := by
  cases value with
  | dict entries =>
    obtain ⟨taken, htaken, -⟩ := Option.bind_eq_some_iff.mp h
    have hfield := (coercedAt_of_coerceKeys (nodup_coercionsOf name) htaken key).field
    have hvalue : lookupItems (.str key) entries = some given := by
      rw [docAt_cons_dict] at hgiven
      obtain ⟨value, hvalue, hnil⟩ := Option.bind_eq_some_iff.mp hgiven
      rw [docAt_nil] at hnil
      rw [hvalue, hnil]
    simp only [hcoerce, hvalue] at hfield
    obtain ⟨setting, hsetting, -⟩ := hfield
    rw [hsetting]
    rfl
  | scalar value => cases hgiven
  | list items => cases hgiven

theorem special_not_mem_of_readSection {name special : String} {sec : Section O F}
    {value : Doc O F} {merged : Section O F × List Trail}
    (h : readSection py name sec value = some merged) {trail : Trail}
    (htrail : ∀ name ∈ trail, py.special name = false) (hspecial : py.special special = true) :
    trail ++ [special] ∉ merged.2 := by
  by_cases hvalue : ∃ entries, value = .dict entries
  · obtain ⟨entries, rfl⟩ := hvalue
    obtain ⟨taken, -, happly⟩ := Option.bind_eq_some_iff.mp h
    exact special_not_mem_collectAttribute (applySection_dict.mp happly).2 htrail hspecial
  · have hother : ∀ entries, value ≠ .dict entries := not_exists.mp hvalue
    rw [readSection_other hother] at h
    obtain ⟨-, rfl⟩ := (applySection_other hother).mp h
    exact List.not_mem_nil

/-- The keys of a mapping are plain when those that are left are and none is special. -/
theorem plain_of_taken {coercions : Coercions O F} {fields : Fields (Setting O F)}
    {entries : Entries (Key O) (Scalar O F)}
    {result : Fields (Setting O F) × Entries (Key O) (Scalar O F)}
    (htaken : coerceKeys coercions fields entries = some result)
    (hplain : ∀ key ∈ result.2.map Prod.fst, Plain py.objects key)
    (hspecial : ∀ key, docAt [key] (.dict entries) ≠ none → py.special key = false) :
    ∀ key ∈ entries.map Prod.fst, Plain py.objects key := by
  intro key hkey
  cases key with
  | other value =>
    obtain ⟨name, hname, -⟩ := hplain _ (mem_of_coerceKeys htaken hkey)
    cases hname
  | str key =>
    refine ⟨key, rfl, hspecial key fun hnone => ?_⟩
    cases hlookup : lookupItems (.str key) entries with
    | none => exact lookupItems_eq_none_iff.mp hlookup hkey
    | some value => simp [hlookup] at hnone

/-- What is an instance in a section that was read was one before, and was given nothing or a
    mapping. -/
theorem mappings_of_readSection {name : String} {sec : Section O F} {value : Doc O F}
    {merged : Section O F × List Trail} (hdistinct : Distinct value)
    (h : readSection py name sec value = some merged) {trail : Trail}
    (hcoerced : ∀ key rest, trail = key :: rest →
      lookupItems key (coercionsOf (coerced py) name) = none)
    (hspecial : ∀ parent key, parent <+: trail → docAt (parent ++ [key]) value ≠ none →
      py.special key = false)
    (hat : merged.1.toAttribute.InstanceAt trail) :
    sec.toAttribute.InstanceAt trail ∧ ∀ given, docAt trail value = some given →
      PlainMapping py.objects given ∨ trail = [] ∧ py.objects.isTruthy given = false := by
  by_cases hvalue : ∃ entries, value = .dict entries
  · obtain ⟨entries, rfl⟩ := hvalue
    obtain ⟨taken, htaken, happly⟩ := Option.bind_eq_some_iff.mp h
    have hkeys := coercedAt_of_coerceKeys (nodup_coercionsOf name) htaken
    have hbelow : ∀ key rest, docAt (key :: rest) (.dict taken.2) ≠ none →
        docAt (key :: rest) (.dict entries) ≠ none := by
      intro key rest
      rw [docAt_coerced hkeys]
      split
      · exact fun hnone => absurd rfl hnone
      · exact id
    obtain ⟨hinstance, hplain⟩ := plainMapping_of_merged
      (distinct_coerced hdistinct hkeys (sublist_of_coerceKeys htaken))
      (applySection_dict.mp happly).1
      (fun parent key hparent hkey => hspecial parent key hparent (by
        cases parent with
        | nil => exact hbelow key [] hkey
        | cons first rest => exact hbelow first (rest ++ [key]) hkey)) hat
    cases trail with
    | nil =>
      refine ⟨Attribute.instanceAt_nil sec.cls sec.fields, fun given hgiven => ?_⟩
      rw [docAt_nil] at hgiven
      cases hgiven
      obtain ⟨entries', heq, hplain⟩ := hplain _ (docAt_nil _)
      cases heq
      exact .inl ⟨entries, rfl, plain_of_taken htaken hplain fun key =>
        hspecial [] key List.nil_prefix⟩
    | cons key rest =>
      have hfree := hcoerced key rest rfl
      have hfind : (Section.toAttribute ⟨sec.cls, taken.1⟩).find (key :: rest) =
          sec.toAttribute.find (key :: rest) := by
        rcases find_coerced hkeys sec.cls key rest with
          ⟨coerce, value, setting, hcoerce, -⟩ | ⟨-, hfind⟩
        · rw [hfree] at hcoerce
          cases hcoerce
        · exact hfind
      have hdoc : docAt (key :: rest) (.dict taken.2) = docAt (key :: rest) (.dict entries) := by
        rw [docAt_coerced hkeys, hfree]
        rfl
      rw [hdoc] at hplain
      refine ⟨?_, fun given hgiven => .inl (hplain given hgiven)⟩
      unfold Attribute.InstanceAt Attribute.kindAt at hinstance ⊢
      rwa [hfind] at hinstance
  · have hother : ∀ entries, value ≠ .dict entries := not_exists.mp hvalue
    rw [readSection_other hother] at h
    obtain ⟨hfalse, rfl⟩ := (applySection_other hother).mp h
    refine ⟨hat, fun given hgiven => ?_⟩
    cases trail with
    | nil =>
      rw [docAt_nil] at hgiven
      cases hgiven
      exact .inr ⟨rfl, hfalse⟩
    | cons first rest =>
      rw [docAt_cons_other hother] at hgiven
      cases hgiven

end

end Meshpoint.ConfigLayers
