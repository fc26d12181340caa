import Meshpoint.OrderedDict

/-!
# Writing the local configuration

Model of `save_section_to_yaml`, `save_top_level_to_yaml` and `remove_subsection_key` of
`src/config.py`.  Each reads the whole file, changes one mapping and writes the whole document over
the file, which is truncated first.  The YAML library is the parameter `YamlLib`; its documents are
trees, without aliases.

`safe_iff` says when no failure leaves the file between two documents.
-/

namespace Meshpoint.ConfigFile

open OrderedDict

/-! ### Documents -/

/-- A YAML document over keys and scalars. -/
inductive Yaml (κ σ : Type) where
  | scalar (value : σ)
  | list (items : List (Yaml κ σ))
  | dict (entries : List (κ × Yaml κ σ))

abbrev Text := List Char

/-- `yaml.safe_load` and `yaml.dump`, `none` when they raise, and the truth of a scalar. -/
structure YamlLib (κ σ : Type) where
  load : Text → Option (Yaml κ σ)
  dump : Yaml κ σ → Option Text
  truthy : σ → Bool

section

variable {κ σ : Type} [DecidableEq κ]

/-- `bool(value)`. -/
def YamlLib.isTruthy (lib : YamlLib κ σ) : Yaml κ σ → Bool
  | .scalar value => lib.truthy value
  | .list items => !items.isEmpty
  | .dict entries => !entries.isEmpty

abbrev Entries (κ σ : Type) := List (κ × Yaml κ σ)

/-- The entries that the functions work on; `none` when reading the file, or the first access to a
    document that is no mapping, raises. -/
def existingEntries (lib : YamlLib κ σ) : Option Text → Option (Entries κ σ)
  | none => some []
  | some text =>
    match lib.load text with
    | none => none
    | some document =>
      if lib.isTruthy document then
        match document with
        | .dict entries => some entries
        | _ => none
      else some []

/-! ### The functions -/

/-- `sub.update(values)`. -/
def updateItems (entries values : Entries κ σ) : Entries κ σ :=
  values.foldl (fun acc entry => setItems entry.1 entry.2 acc) entries

/-- `del sub[key]`. -/
def eraseItems (key : κ) (entries : Entries κ σ) : Entries κ σ :=
  entries.filter fun entry => entry.1 ≠ key

/-- `save_section_to_yaml`: the new document. -/
def saveSectionToYaml (sectionName : κ) (values : OrderedDict κ (Yaml κ σ))
    (existing : Entries κ σ) : Entries κ σ :=
  let existing :=
    if lookupItems sectionName existing = none then setItems sectionName (.dict []) existing
    else existing
  match lookupItems sectionName existing with
  | some (.dict entries) => setItems sectionName (.dict (updateItems entries values.items)) existing
  | _ => setItems sectionName (.dict values.items) existing

/-- `save_top_level_to_yaml`: the new document. -/
def saveTopLevelToYaml (key : κ) (value : Yaml κ σ) (existing : Entries κ σ) : Entries κ σ :=
  setItems key value existing

/-- `remove_subsection_key`: the new document, `none` when there is nothing to remove. -/
def removeSubsectionKey (sectionName key : κ) (existing : Entries κ σ) : Option (Entries κ σ) :=
  match lookupItems sectionName existing with
  | some (.dict entries) =>
    if lookupItems key entries = none then none
    else some (setItems sectionName (.dict (eraseItems key entries)) existing)
  | _ => none

/-- A call of one of the functions. -/
inductive Call (κ σ : Type) where
  | saveSection (sectionName : κ) (values : OrderedDict κ (Yaml κ σ))
  | saveTopLevel (key : κ) (value : Yaml κ σ)
  | removeSubsectionKey (sectionName key : κ)

/-- The document that a call writes over a file; `none` when it does not open it for writing. -/
def Call.document (lib : YamlLib κ σ) (old : Option Text) : Call κ σ → Option (Yaml κ σ)
  | .saveSection sectionName values =>
    (existingEntries lib old).map fun existing =>
      .dict (saveSectionToYaml sectionName values existing)
  | .saveTopLevel key value =>
    (existingEntries lib old).map fun existing => .dict (saveTopLevelToYaml key value existing)
  | .removeSubsectionKey sectionName key =>
    if old = none then none
    else (existingEntries lib old).bind fun existing =>
      (ConfigFile.removeSubsectionKey sectionName key existing).map .dict

/-! ### Failures -/

/-- How far a call comes: it fails or dies before the file is opened for writing, or with the first
    characters of the new document in it, or it comes to its end. -/
inductive Ending where
  | beforeOpen
  | during (written : Nat)
  | completed

/-- The file afterwards.  A document that cannot be represented leaves it empty: it is truncated
    when it is opened. -/
def fileAfter (lib : YamlLib κ σ) (call : Call κ σ) (old : Option Text) :
    Ending → Option Text
  | .beforeOpen => old
  | .during written =>
    match call.document lib old with
    | none => old
    | some document => some (((lib.dump document).getD []).take written)
  | .completed =>
    match call.document lib old with
    | none => old
    | some document => some ((lib.dump document).getD [])

def Changes (existing new : Entries κ σ) : Call κ σ → Prop
  | .saveSection sectionName values =>
    (∀ key, key ≠ sectionName → lookupItems key new = lookupItems key existing) ∧
      ∃ entries, lookupItems sectionName new = some (.dict entries) ∧ ∀ key,
        lookupItems key entries = (values.get? key).or
          (match lookupItems sectionName existing with
            | some (.dict before) => lookupItems key before
            | _ => none)
  | .saveTopLevel key value =>
    (∀ other, other ≠ key → lookupItems other new = lookupItems other existing) ∧
      lookupItems key new = some value
  | .removeSubsectionKey sectionName key =>
    (∀ other, other ≠ sectionName → lookupItems other new = lookupItems other existing) ∧
      ∃ before entries, lookupItems sectionName existing = some (.dict before) ∧
        lookupItems sectionName new = some (.dict entries) ∧
        ∀ other, lookupItems other entries = if other = key then none else lookupItems other before

/-- A call changes what it names in a file, and no failure leaves anything but the old or the new
    document in it. -/
structure Safe (lib : YamlLib κ σ) (call : Call κ σ) (old : Option Text) : Prop where
  changes : ∀ document text, call.document lib old = some document → lib.dump document = some text →
    fileAfter lib call old .completed = some text ∧
      ∃ existing new, existingEntries lib old = some existing ∧
        existingEntries lib (some text) = some new ∧ Changes existing new call
  complete : ∀ ending, fileAfter lib call old ending = old ∨
    ∃ document text, call.document lib old = some document ∧ lib.dump document = some text ∧
      fileAfter lib call old ending = some text

/-- What the YAML library does: a written document is read back, that of a mapping with a key has
    more than one character, and the empty file is no mapping. -/
structure LawfulYaml (lib : YamlLib κ σ) : Prop where
  inverse : ∀ document text, lib.dump document = some text → lib.load text = some document
  long : ∀ entries text, entries ≠ [] → lib.dump (.dict entries) = some text → 2 ≤ text.length
  empty : ∀ document, lib.load [] = some document → lib.isTruthy document = false

/-! ### The changes -/

theorem lookupItems_updateItems {values : Entries κ σ} (hnodup : (values.map Prod.fst).Nodup)
    (entries : Entries κ σ) (key : κ) :
    lookupItems key (updateItems entries values) =
      (lookupItems key values).or (lookupItems key entries) := by
  induction values generalizing entries with
  | nil => rfl
  | cons entry rest ih =>
    rw [List.map_cons, List.nodup_cons] at hnodup
    change lookupItems key (updateItems (setItems entry.1 entry.2 entries) rest) = _
    rw [ih hnodup.2, lookupItems_setItems]
    by_cases hkey : entry.1 = key
    · have hrest : lookupItems key rest = none := by
        rw [lookupItems_eq_none_iff, ← hkey]
        exact hnodup.1
      simp only [lookupItems, hkey, hrest, if_true, Option.none_or, Option.some_or]
    · simp only [lookupItems, hkey, if_false]

theorem lookupItems_eraseItems (entries : Entries κ σ) (key other : κ) :
    lookupItems other (eraseItems key entries) =
      if other = key then none else lookupItems other entries := by
  unfold eraseItems
  rw [lookupItems_filter (p := fun k => decide (k ≠ key))]
  by_cases hother : other = key
  · rw [if_neg (by simp [hother]), if_pos hother]
  · rw [if_pos (by simpa using hother), if_neg hother]

theorem ne_nil_of_lookup {key : κ} {entries : Entries κ σ} {value : Yaml κ σ}
    (h : lookupItems key entries = some value) : entries ≠ [] := by
  rintro rfl
  cases h

theorem changes_saveSection (sectionName : κ) (values : OrderedDict κ (Yaml κ σ))
    (existing : Entries κ σ) :
    Changes existing (saveSectionToYaml sectionName values existing)
      (.saveSection sectionName values) := by
  have hupdate : ∀ entries key, lookupItems key (updateItems entries values.items) =
      (values.get? key).or (lookupItems key entries) :=
    fun entries key => lookupItems_updateItems values.nodupKeys entries key
  unfold saveSectionToYaml
  cases hold : lookupItems sectionName existing with
  | none =>
    -- the section is made first
    simp only [Changes, if_true, lookupItems_setItems]
    refine ⟨fun key hkey => ?_, _, rfl, fun key => ?_⟩
    · rw [if_neg hkey.symm, if_neg hkey.symm]
    · rw [hupdate, hold]
      rfl
  | some value =>
    simp only [reduceCtorEq, if_false, hold]
    cases value with
    | dict entries =>
      simp only [Changes, lookupItems_setItems, if_true]
      refine ⟨fun key hkey => if_neg hkey.symm, _, rfl, fun key => ?_⟩
      rw [hupdate, hold]
    | scalar scalar =>
      simp only [Changes, lookupItems_setItems, if_true]
      refine ⟨fun key hkey => if_neg hkey.symm, _, rfl, fun key => ?_⟩
      rw [hold, Option.or_none]
      rfl
    | list items =>
      simp only [Changes, lookupItems_setItems, if_true]
      refine ⟨fun key hkey => if_neg hkey.symm, _, rfl, fun key => ?_⟩
      rw [hold, Option.or_none]
      rfl

theorem changes_saveTopLevel (key : κ) (value : Yaml κ σ) (existing : Entries κ σ) :
    Changes existing (saveTopLevelToYaml key value existing) (.saveTopLevel key value) := by
  simp only [Changes, saveTopLevelToYaml, lookupItems_setItems, if_true, and_true]
  exact fun other hother => if_neg hother.symm

theorem changes_removeSubsectionKey {sectionName key : κ} {existing new : Entries κ σ}
    (h : removeSubsectionKey sectionName key existing = some new) :
    Changes existing new (.removeSubsectionKey sectionName key) := by
  unfold removeSubsectionKey at h
  split at h
  · rename_i entries hentries
    split at h
    · cases h
    · obtain rfl := Option.some.inj h
      simp only [Changes, lookupItems_setItems, if_true]
      exact ⟨fun other hother => if_neg hother.symm, entries, _, hentries, rfl,
        fun other => lookupItems_eraseItems entries key other⟩
  · cases h

theorem Changes.ne_nil {existing new : Entries κ σ} {call : Call κ σ}
    (h : Changes existing new call) : new ≠ [] := by
  cases call with
  | saveSection sectionName values =>
    obtain ⟨_, entries, hentries, _⟩ := h
    exact ne_nil_of_lookup hentries
  | saveTopLevel key value => exact ne_nil_of_lookup h.2
  | removeSubsectionKey sectionName key =>
    obtain ⟨_, before, entries, _, hentries, _⟩ := h
    exact ne_nil_of_lookup hentries

variable {lib : YamlLib κ σ} {call : Call κ σ} {old : Option Text}

theorem exists_of_document {document : Yaml κ σ} (h : call.document lib old = some document) :
    ∃ existing new, existingEntries lib old = some existing ∧ document = .dict new ∧
      Changes existing new call := by
  cases call with
  | saveSection sectionName values =>
    obtain ⟨existing, hexisting, rfl⟩ := Option.map_eq_some_iff.mp h
    exact ⟨existing, _, hexisting, rfl, changes_saveSection sectionName values existing⟩
  | saveTopLevel key value =>
    obtain ⟨existing, hexisting, rfl⟩ := Option.map_eq_some_iff.mp h
    exact ⟨existing, _, hexisting, rfl, changes_saveTopLevel key value existing⟩
  | removeSubsectionKey sectionName key =>
    simp only [Call.document] at h
    split at h
    · cases h
    · obtain ⟨existing, hexisting, hmap⟩ := Option.bind_eq_some_iff.mp h
      obtain ⟨new, hnew, rfl⟩ := Option.map_eq_some_iff.mp hmap
      exact ⟨existing, new, hexisting, rfl, changes_removeSubsectionKey hnew⟩

/-- **A completed write** changes exactly the named keys. -/
theorem changes_of_completed (hlawful : LawfulYaml lib) {document : Yaml κ σ} {text : Text}
    (hdocument : call.document lib old = some document) (htext : lib.dump document = some text) :
    fileAfter lib call old .completed = some text ∧
      ∃ existing new, existingEntries lib old = some existing ∧
        existingEntries lib (some text) = some new ∧ Changes existing new call := by
  obtain ⟨existing, new, hexisting, rfl, hchanges⟩ := exists_of_document hdocument
  refine ⟨?_, existing, new, hexisting, ?_, hchanges⟩
  · simp only [fileAfter, hdocument, htext, Option.getD_some]
  · have htruthy : lib.isTruthy (.dict new) = true := by
      simp [YamlLib.isTruthy, List.isEmpty_eq_false_iff.mpr hchanges.ne_nil]
    simp only [existingEntries, hlawful.inverse _ _ htext, htruthy, if_true]

/-! ### The failures -/

/-- A call that does not open the file for writing: the file cannot be read or holds no mapping, or
    there is no such key to remove. -/
def WritesNothing (lib : YamlLib κ σ) (old : Option Text) : Call κ σ → Prop
  | .saveSection _ _ => existingEntries lib old = none
  | .saveTopLevel _ _ => existingEntries lib old = none
  | .removeSubsectionKey sectionName key => ∀ existing, old ≠ none →
    existingEntries lib old = some existing →
      ∀ entries, lookupItems sectionName existing = some (.dict entries) →
        lookupItems key entries = none

theorem document_eq_none_iff : call.document lib old = none ↔ WritesNothing lib old call := by
  cases call with
  | saveSection sectionName values => exact Option.map_eq_none_iff
  | saveTopLevel key value => exact Option.map_eq_none_iff
  | removeSubsectionKey sectionName key =>
    simp only [Call.document, WritesNothing]
    cases old with
    | none =>
      rw [if_pos rfl]
      exact iff_of_true rfl fun _ hne => absurd rfl hne
    | some text =>
      rw [if_neg (Option.some_ne_none text), Option.bind_eq_none_iff]
      constructor
      · intro h existing _ hexisting entries hentries
        have hnone := Option.map_eq_none_iff.mp (h existing hexisting)
        simp only [removeSubsectionKey, hentries] at hnone
        by_contra hkey
        rw [if_neg hkey] at hnone
        cases hnone
      · intro h existing hexisting
        rw [Option.map_eq_none_iff]
        unfold removeSubsectionKey
        split
        · rename_i entries hentries
          exact if_pos (h existing (Option.some_ne_none text) hexisting entries hentries)
        · rfl

/-- **No failure leaves half a document** exactly when nothing is written, or a document that cannot
    be represented over an empty file; and a completed write changes exactly the named keys. -/
theorem safe_iff (hlawful : LawfulYaml lib) :
    (∀ document text, call.document lib old = some document → lib.dump document = some text →
      fileAfter lib call old .completed = some text ∧
        ∃ existing new, existingEntries lib old = some existing ∧
          existingEntries lib (some text) = some new ∧ Changes existing new call) ∧
    (Safe lib call old ↔ WritesNothing lib old call ∨
      old = some [] ∧ ∀ document, call.document lib old = some document →
        lib.dump document = none) := by
  refine ⟨fun document text hdocument htext => changes_of_completed hlawful hdocument htext, ?_⟩
  rw [← document_eq_none_iff]
  constructor
  · intro hsafe
    cases hdocument : call.document lib old with
    | none => exact .inl rfl
    | some document =>
      right
      obtain ⟨_, new, _, rfl, hchanges⟩ := exists_of_document hdocument
      cases htext : lib.dump (.dict new) with
      | none =>
        -- the file is left empty, and there is no new document
        refine ⟨?_, ?_⟩
        · rcases hsafe.complete .completed with hold | ⟨document, text, hdocument', htext', _⟩
          · simp only [fileAfter, hdocument, htext, Option.getD_none] at hold
            exact hold.symm
          · obtain rfl := Option.some.inj (hdocument.symm.trans hdocument')
            rw [htext] at htext'
            cases htext'
        · rintro _ ⟨⟩
          exact htext
      | some text =>
        exfalso
        have hlong := hlawful.long new text hchanges.ne_nil htext
        have hcut : ∀ written, some (text.take written) = old ∨ text.take written = text := by
          intro written
          have hafter : fileAfter lib call old (.during written) = some (text.take written) := by
            simp only [fileAfter, hdocument, htext, Option.getD_some]
          rcases hsafe.complete (.during written) with
            hold | ⟨document, text', hdocument', htext', hnew⟩
          · exact .inl (hafter.symm.trans hold)
          · obtain rfl := Option.some.inj (hdocument.symm.trans hdocument')
            obtain rfl := Option.some.inj (htext.symm.trans htext')
            exact .inr (Option.some.inj (hafter.symm.trans hnew))
        have hlength : ∀ written, written < 2 → text.take written ≠ text := by
          intro written hwritten heq
          have hcount := congrArg List.length heq
          rw [List.length_take] at hcount
          omega
        -- cut before the first character, and after it
        have hzero := (hcut 0).resolve_right (hlength 0 (by decide))
        have hone := (hcut 1).resolve_right (hlength 1 (by decide))
        have hsame := congrArg List.length (Option.some.inj (hzero.trans hone.symm))
        rw [List.length_take, List.length_take] at hsame
        omega
  · rintro (hnone | ⟨rfl, hunrepresentable⟩)
    · refine ⟨fun document text hdocument => ?_, fun ending => .inl ?_⟩
      · rw [hnone] at hdocument
        cases hdocument
      · cases ending with
        | beforeOpen => rfl
        | during written => simp only [fileAfter, hnone]
        | completed => simp only [fileAfter, hnone]
    · refine ⟨fun document text hdocument htext => ?_, fun ending => .inl ?_⟩
      · rw [hunrepresentable document hdocument] at htext
        cases htext
      · cases ending with
        | beforeOpen => rfl
        | during written =>
          simp only [fileAfter]
          split
          · rfl
          · rename_i document hdocument
            rw [hunrepresentable document hdocument, Option.getD_none, List.take_nil]
        | completed =>
          simp only [fileAfter]
          split
          · rfl
          · rename_i document hdocument
            rw [hunrepresentable document hdocument, Option.getD_none]

end

/-! ### A file with a region -/

def usText : Text := "radio:\n  region: US\n".toList

def euText : Text := "radio:\n  region: EU_868\n".toList

def regionDocument (region : String) : Yaml String (Option String) :=
  .dict [("radio", .dict [("region", .scalar (some region))])]

/-- The library on the two files; a null is `none`. -/
def regionYaml : YamlLib String (Option String) where
  load text :=
    if text = [] then some (.scalar none)
    else if text = usText then some (regionDocument "US")
    else if text = euText then some (regionDocument "EU_868")
    else none
  dump
    | .dict [("radio", .dict [("region", .scalar (some "US"))])] => some usText
    | .dict [("radio", .dict [("region", .scalar (some "EU_868"))])] => some euText
    | _ => none
  truthy value := value.any fun text => text ≠ ""

theorem lawful_regionYaml : LawfulYaml regionYaml where
  inverse := by
    intro document text h
    simp only [regionYaml] at h
    split at h
    · obtain rfl := Option.some.inj h
      rfl
    · obtain rfl := Option.some.inj h
      rfl
    · cases h
  long := by
    intro entries text _ h
    simp only [regionYaml] at h
    split at h
    · obtain rfl := Option.some.inj h
      decide
    · obtain rfl := Option.some.inj h
      decide
    · cases h
  empty := by
    rintro _ ⟨⟩
    rfl

def toEurope : Call String (Option String) :=
  .saveSection "radio" (OrderedDict.empty.set "region" (.scalar (some "EU_868")))

def dropPlugin : Call String (Option String) := .removeSubsectionKey "plugins" "demo"

theorem safe_dropPlugin : Safe regionYaml dropPlugin (some usText) := by
  refine (safe_iff lawful_regionYaml).2.mpr (.inl ?_)
  rintro existing _ ⟨⟩ entries hentries
  cases hentries

/-- **Killed after the file is opened**, a change of the region leaves an empty file. -/
theorem region_lost :
    fileAfter regionYaml toEurope (some usText) .completed = some euText ∧
      fileAfter regionYaml toEurope (some usText) (.during 0) = some [] ∧
      ¬ Safe regionYaml toEurope (some usText) := by
  have hdump : regionYaml.dump (regionDocument "EU_868") = some euText := rfl
  refine ⟨rfl, rfl, ?_⟩
  intro hsafe
  rcases hsafe.complete (.during 0) with hold | ⟨document, text, hdocument, htext, hnew⟩
  · exact absurd (Option.some.inj hold) (by decide)
  · obtain rfl : regionDocument "EU_868" = document := Option.some.inj hdocument
    obtain rfl := Option.some.inj (hdump.symm.trans htext)
    exact absurd (Option.some.inj hnew) (by decide)

end Meshpoint.ConfigFile
