import Meshpoint.ConfigFile

/-!
# Merging a document into dataclasses

`_merge_dataclass` and `_collect_unknown_keys` of `src/config.py`. A dataclass instance is a tree:
each attribute is a setting or another instance. Documents are trees of YAML, without aliases. A
trail of names leads from the root of either to a part of it, and what a merge does is said for
each trail (`find_mergeAttribute`, `mem_collectAttribute_iff`).
-/

namespace Meshpoint.ConfigMerge

open OrderedDict ConfigFile

/-! ### Keys and attributes -/

/-- A key of a mapping: a text, or another scalar. -/
inductive Key (O : Type) where
  | str (name : String)
  | other (value : O)
deriving DecidableEq

/-- An attribute: a setting, or a dataclass instance. -/
inductive Attribute (V : Type) where
  | setting (value : V)
  | dataclass (cls : String) (fields : List (String × Attribute V))

abbrev Fields (V : Type) := List (String × Attribute V)

abbrev Trail := List String

/-- What the functions use of Python objects: the truth of a scalar; the attributes that every
    instance has besides its fields, whose names start with two underscores; what assigning to one
    of these does to the fields, and which keys below one are unknown, `none` where it raises. -/
structure Objects (O σ V : Type) where
  truthy : σ → Bool
  special : String → Bool
  special_dunder : ∀ name, special name = true → ∃ rest, name = "__" ++ rest
  setSpecial : String → Yaml (Key O) σ → Fields V → Option (Fields V)
  specialUnknown : String → Yaml (Key O) σ → Option (List (String × Trail))

section

variable {O σ V : Type} [DecidableEq O] (obj : Objects O σ V) (raw : Yaml (Key O) σ → V)

def Objects.isTruthy : Yaml (Key O) σ → Bool
  | .scalar value => obj.truthy value
  | .list items => !items.isEmpty
  | .dict entries => !entries.isEmpty

/-! ### The two functions -/

mutual

/-- The loop of `_merge_dataclass`; `none` when it raises, as `hasattr` does on a key that is no
    text. -/
def mergeItems (fields : Fields V) : Entries (Key O) σ → Option (Fields V)
  | [] => some fields
  | (.other _, _) :: _ => none
  | (.str name, value) :: rest =>
    match lookupItems name fields with
    | some current =>
      (mergeAttribute current value).bind fun merged =>
        mergeItems (setItems name merged fields) rest
    | none =>
      if obj.special name then
        (obj.setSpecial name value fields).bind fun fields => mergeItems fields rest
      else mergeItems fields rest

/-- What the loop makes of an attribute: an instance that is given a mapping is merged, anything
    else is replaced. -/
def mergeAttribute : Attribute V → Yaml (Key O) σ → Option (Attribute V)
  | .dataclass cls fields, .dict entries => (mergeItems fields entries).map (.dataclass cls)
  | _, value => some (.setting (raw value))

end

/-- `_merge_dataclass`: what is true and no mapping has no `items`. -/
def mergeDataclass (fields : Fields V) (overrides : Yaml (Key O) σ) : Option (Fields V) :=
  if obj.isTruthy overrides then
    match overrides with
    | .dict entries => mergeItems obj raw fields entries
    | _ => none
  else some fields

mutual

/-- `_collect_unknown_keys`, with the trail to each key. -/
def collectUnknownKeys (fields : Fields V) : Entries (Key O) σ → Option (List Trail)
  | [] => some []
  | (.other _, _) :: _ => none
  | (.str name, value) :: rest =>
    match lookupItems name fields with
    | some current =>
      (collectAttribute current value).bind fun nested =>
        (collectUnknownKeys fields rest).map fun unknown => nested.map (name :: ·) ++ unknown
    | none =>
      if obj.special name then
        (obj.specialUnknown name value).bind fun nested =>
          (collectUnknownKeys fields rest).map fun unknown =>
            nested.map (fun key => name :: key.1 :: key.2) ++ unknown
      else (collectUnknownKeys fields rest).map fun unknown => [name] :: unknown

/-- The unknown keys below an attribute: there are none but in a mapping for an instance. -/
def collectAttribute : Attribute V → Yaml (Key O) σ → Option (List Trail)
  | .dataclass _ fields, .dict entries => collectUnknownKeys fields entries
  | _, _ => some []

end

/-! ### Trails -/

def docAt : Trail → Yaml (Key O) σ → Option (Yaml (Key O) σ)
  | [], value => some value
  | name :: rest, .dict entries => (lookupItems (.str name) entries).bind (docAt rest)
  | _ :: _, _ => none

def Attribute.find : Trail → Attribute V → Option (Attribute V)
  | [], attr => some attr
  | name :: rest, .dataclass _ fields => (lookupItems name fields).bind (Attribute.find rest)
  | _ :: _, .setting _ => none

def Attribute.kind : Attribute V → Option String
  | .setting _ => none
  | .dataclass cls _ => some cls

/-- The class of the instance at the end of a trail, `some none` for a setting; none where there is
    nothing. -/
def Attribute.kindAt (trail : Trail) (attr : Attribute V) : Option (Option String) :=
  (attr.find trail).map Attribute.kind

def Attribute.InstanceAt (attr : Attribute V) (trail : Trail) : Prop :=
  ∃ cls, attr.kindAt trail = some (some cls)

mutual

def Attribute.names : Attribute V → List String
  | .setting _ => []
  | .dataclass _ fields => namesOf fields

def namesOf : Fields V → List String
  | [] => []
  | (name, attr) :: rest => name :: (attr.names ++ namesOf rest)

end

def Distinct (doc : Yaml (Key O) σ) : Prop :=
  ∀ trail entries, docAt trail doc = some (.dict entries) → (entries.map Prod.fst).Nodup

/-- A key that `hasattr` takes and that names no attribute besides the fields. -/
def Plain (key : Key O) : Prop := ∃ name, key = .str name ∧ obj.special name = false

def PlainMapping (value : Yaml (Key O) σ) : Prop :=
  ∃ entries, value = .dict entries ∧ ∀ key ∈ entries.map Prod.fst, Plain obj key

/-- What stands where an attribute is an instance is a mapping with plain keys. -/
def Regular (attr : Attribute V) (doc : Yaml (Key O) σ) : Prop :=
  ∀ trail value, attr.InstanceAt trail → docAt trail doc = some value → PlainMapping obj value

/-- A key that is given where the attribute is an instance without a field of that name. -/
def Unknown (attr : Attribute V) (doc : Yaml (Key O) σ) (trail : Trail) : Prop :=
  docAt trail doc ≠ none ∧ attr.kindAt trail = none ∧ attr.InstanceAt trail.dropLast

end

section

variable {O σ V : Type} [DecidableEq O] {obj : Objects O σ V} {raw : Yaml (Key O) σ → V}

/-! ### One level -/

/-- What merging a mapping makes of the attribute of one name. -/
def MergedAt (obj : Objects O σ V) (raw : Yaml (Key O) σ → V) (fields : Fields V)
    (entries : Entries (Key O) σ) (fields' : Fields V) (name : String) : Prop :=
  match lookupItems (.str name) entries, lookupItems name fields with
  | some value, some current =>
    ∃ merged, mergeAttribute obj raw current value = some merged ∧
      lookupItems name fields' = some merged
  | _, old => lookupItems name fields' = old

theorem mergedAt_of_mergeItems {fields fields' : Fields V} {entries : Entries (Key O) σ}
    (hnodup : (entries.map Prod.fst).Nodup) (hplain : ∀ key ∈ entries.map Prod.fst, Plain obj key)
    (h : mergeItems obj raw fields entries = some fields') (name : String) :
    MergedAt obj raw fields entries fields' name := by
  induction entries generalizing fields with
  | nil =>
    rw [mergeItems] at h
    cases h
    rfl
  | cons entry rest ih =>
    obtain ⟨key, value⟩ := entry
    rw [List.map_cons, List.nodup_cons] at hnodup
    obtain ⟨given, rfl, hspecial⟩ := hplain key List.mem_cons_self
    have hrest : ∀ key ∈ rest.map Prod.fst, Plain obj key := fun key hkey =>
      hplain key (List.mem_cons_of_mem _ hkey)
    have hfresh : lookupItems (.str given) rest = none := lookupItems_eq_none_iff.mpr hnodup.1
    rw [mergeItems] at h
    cases hfield : lookupItems given fields with
    | none =>
      simp only [hfield, hspecial, Bool.false_eq_true, if_false] at h
      have hmerged := ih hnodup.2 hrest h
      by_cases hname : given = name
      · subst hname
        simpa only [MergedAt, lookupItems, if_true, hfield, hfresh] using hmerged
      · simpa only [MergedAt, lookupItems, Key.str.injEq, hname, if_false] using hmerged
    | some current =>
      simp only [hfield] at h
      obtain ⟨merged, hcurrent, h⟩ := Option.bind_eq_some_iff.mp h
      have hmerged := ih hnodup.2 hrest h
      by_cases hname : given = name
      · subst hname
        simp only [MergedAt, hfresh, lookupItems_setItems, if_true] at hmerged
        simp only [MergedAt, lookupItems, if_true, hfield]
        exact ⟨merged, hcurrent, hmerged⟩
      · simpa only [MergedAt, lookupItems, Key.str.injEq, hname, if_false,
          lookupItems_setItems] using hmerged

theorem mergeItems_isSome {fields : Fields V} {entries : Entries (Key O) σ}
    (hnodup : (entries.map Prod.fst).Nodup) (hplain : ∀ key ∈ entries.map Prod.fst, Plain obj key)
    (hmerge : ∀ name value current, lookupItems (.str name) entries = some value →
      lookupItems name fields = some current → (mergeAttribute obj raw current value).isSome) :
    (mergeItems obj raw fields entries).isSome := by
  induction entries generalizing fields with
  | nil => rfl
  | cons entry rest ih =>
    obtain ⟨key, value⟩ := entry
    rw [List.map_cons, List.nodup_cons] at hnodup
    obtain ⟨given, rfl, hspecial⟩ := hplain key List.mem_cons_self
    have hrest : ∀ key ∈ rest.map Prod.fst, Plain obj key := fun key hkey =>
      hplain key (List.mem_cons_of_mem _ hkey)
    have hother : ∀ {name other}, lookupItems (.str name) rest = some other → given ≠ name := by
      rintro name other hname rfl
      rw [lookupItems_eq_none_iff.mpr hnodup.1] at hname
      cases hname
    have hmergeRest : ∀ {fields' : Fields V},
        (∀ name, given ≠ name → lookupItems name fields' = lookupItems name fields) →
        ∀ name other current, lookupItems (.str name) rest = some other →
          lookupItems name fields' = some current →
            (mergeAttribute obj raw current other).isSome := by
      intro fields' hfields name other current hname hcurrent
      have hne := hother hname
      rw [hfields name hne] at hcurrent
      exact hmerge name other current
        (by rw [lookupItems, if_neg (by simpa using hne), hname]) hcurrent
    rw [mergeItems]
    cases hfield : lookupItems given fields with
    | none =>
      simp only [hspecial, Bool.false_eq_true, if_false]
      exact ih hnodup.2 hrest (hmergeRest fun _ _ => rfl)
    | some current =>
      obtain ⟨merged, hmerged⟩ := Option.isSome_iff_exists.mp
        (hmerge given value current (by rw [lookupItems, if_pos rfl]) hfield)
      simp only [hmerged, Option.bind_some]
      exact ih hnodup.2 hrest
        (hmergeRest fun name hne => by rw [lookupItems_setItems, if_neg hne])

omit [DecidableEq O] in
theorem keys_str_of_mergeItems {fields fields' : Fields V} {entries : Entries (Key O) σ}
    (h : mergeItems obj raw fields entries = some fields') :
    ∀ key ∈ entries.map Prod.fst, ∃ name, key = .str name := by
  induction entries generalizing fields with
  | nil => simp
  | cons entry rest ih =>
    obtain ⟨key | key, value⟩ := entry
    · rw [List.map_cons, List.forall_mem_cons]
      refine ⟨⟨key, rfl⟩, ?_⟩
      rw [mergeItems] at h
      cases hfield : lookupItems key fields with
      | none =>
        simp only [hfield] at h
        by_cases hspecial : obj.special key = true
        · rw [if_pos hspecial] at h
          obtain ⟨fields₁, -, h⟩ := Option.bind_eq_some_iff.mp h
          exact ih h
        · rw [if_neg hspecial] at h
          exact ih h
      | some current =>
        simp only [hfield] at h
        obtain ⟨merged, -, h⟩ := Option.bind_eq_some_iff.mp h
        exact ih h
    · rw [mergeItems] at h
      cases h

/-- What puts a trail among the unknown keys of a mapping. -/
def UnknownAt (obj : Objects O σ V) (fields : Fields V) (name : String) (value : Yaml (Key O) σ)
    (rest : Trail) : Prop :=
  match lookupItems name fields with
  | some current => ∃ nested, collectAttribute obj current value = some nested ∧ rest ∈ nested
  | none =>
    if obj.special name then
      ∃ nested, obj.specialUnknown name value = some nested ∧
        ∃ key ∈ nested, rest = key.1 :: key.2
    else rest = []

omit [DecidableEq O] in
theorem mem_collectUnknownKeys {fields : Fields V} {entries : Entries (Key O) σ}
    {unknown : List Trail} (h : collectUnknownKeys obj fields entries = some unknown)
    (trail : Trail) :
    trail ∈ unknown ↔ ∃ name value rest, trail = name :: rest ∧ (.str name, value) ∈ entries ∧
      UnknownAt obj fields name value rest := by
  induction entries generalizing unknown with
  | nil =>
    rw [collectUnknownKeys] at h
    cases h
    simp
  | cons entry rest ih =>
    obtain ⟨key | key, value⟩ := entry
    · have hcons : ∀ {here others : List Trail}, unknown = here ++ others →
          collectUnknownKeys obj fields rest = some others →
          (∀ trail, trail ∈ here ↔ ∃ tail, trail = key :: tail ∧
            UnknownAt obj fields key value tail) →
          (trail ∈ unknown ↔ ∃ name value' tail, trail = name :: tail ∧
            (.str name, value') ∈ (Key.str key, value) :: rest ∧
            UnknownAt obj fields name value' tail) := by
        intro here others hunknown hothers hhere
        rw [hunknown, List.mem_append, hhere, ih hothers]
        constructor
        · rintro (⟨tail, htrail, hat⟩ | ⟨name, value', tail, htrail, hmem, hat⟩)
          · exact ⟨key, value, tail, htrail, List.mem_cons_self, hat⟩
          · exact ⟨name, value', tail, htrail, List.mem_cons_of_mem _ hmem, hat⟩
        · rintro ⟨name, value', tail, htrail, hmem, hat⟩
          rcases List.mem_cons.mp hmem with heq | hmem
          · cases heq
            exact .inl ⟨tail, htrail, hat⟩
          · exact .inr ⟨name, value', tail, htrail, hmem, hat⟩
      rw [collectUnknownKeys] at h
      cases hfield : lookupItems key fields with
      | some current =>
        simp only [hfield] at h
        obtain ⟨nested, hnested, h⟩ := Option.bind_eq_some_iff.mp h
        obtain ⟨others, hothers, hunknown⟩ := Option.map_eq_some_iff.mp h
        refine hcons hunknown.symm hothers fun trail => ?_
        simp [UnknownAt, hfield, hnested, eq_comm, and_comm]
      | none =>
        by_cases hspecial : obj.special key = true
        · simp only [hfield, hspecial, if_true] at h
          obtain ⟨nested, hnested, h⟩ := Option.bind_eq_some_iff.mp h
          obtain ⟨others, hothers, hunknown⟩ := Option.map_eq_some_iff.mp h
          refine hcons hunknown.symm hothers fun trail => ?_
          have hat : ∀ tail, UnknownAt obj fields key value tail ↔
              ∃ unknownKey ∈ nested, tail = unknownKey.1 :: unknownKey.2 := fun tail => by
            simp only [UnknownAt, hfield, hspecial, if_true, hnested, Option.some.injEq,
              exists_eq_left']
          rw [List.mem_map]
          constructor
          · rintro ⟨unknownKey, hmem, rfl⟩
            exact ⟨_, rfl, (hat _).mpr ⟨unknownKey, hmem, rfl⟩⟩
          · rintro ⟨tail, rfl, htail⟩
            obtain ⟨unknownKey, hmem, rfl⟩ := (hat tail).mp htail
            exact ⟨unknownKey, hmem, rfl⟩
        · simp only [hfield, hspecial] at h
          obtain ⟨others, hothers, hunknown⟩ := Option.map_eq_some_iff.mp h
          refine hcons (show unknown = [[key]] ++ others from hunknown.symm) hothers fun trail => ?_
          simp [UnknownAt, hfield, hspecial]
    · rw [collectUnknownKeys] at h
      cases h

omit [DecidableEq O] in
theorem exists_of_mem_collectAttribute {attr : Attribute V} {doc : Yaml (Key O) σ}
    {unknown : List Trail} (h : collectAttribute obj attr doc = some unknown) {trail : Trail}
    (hmem : trail ∈ unknown) :
    ∃ fields entries, collectUnknownKeys obj fields entries = some unknown := by
  rw [collectAttribute.eq_def] at h
  split at h
  · exact ⟨_, _, h⟩
  · cases h
    cases hmem

omit [DecidableEq O] in
theorem nil_not_mem_collectAttribute {attr : Attribute V} {doc : Yaml (Key O) σ}
    {unknown : List Trail} (h : collectAttribute obj attr doc = some unknown) : [] ∉ unknown := by
  intro hmem
  obtain ⟨fields, entries, hfields⟩ := exists_of_mem_collectAttribute h hmem
  obtain ⟨name, value, rest, hnil, -⟩ := (mem_collectUnknownKeys hfields []).mp hmem
  cases hnil

omit [DecidableEq O] in
theorem collectUnknownKeys_isSome {fields : Fields V} {entries : Entries (Key O) σ}
    (hplain : ∀ key ∈ entries.map Prod.fst, Plain obj key)
    (hcollect : ∀ name value current, (Key.str name, value) ∈ entries →
      lookupItems name fields = some current → (collectAttribute obj current value).isSome) :
    (collectUnknownKeys obj fields entries).isSome := by
  induction entries with
  | nil => rfl
  | cons entry rest ih =>
    obtain ⟨key, value⟩ := entry
    obtain ⟨name, rfl, hspecial⟩ := hplain key List.mem_cons_self
    obtain ⟨others, hothers⟩ := Option.isSome_iff_exists.mp
      (ih (fun key hkey => hplain key (List.mem_cons_of_mem _ hkey))
        fun other value current hmem => hcollect other value current (List.mem_cons_of_mem _ hmem))
    rw [collectUnknownKeys]
    cases hfield : lookupItems name fields with
    | none => simp [hspecial, hothers]
    | some current =>
      obtain ⟨nested, hnested⟩ := Option.isSome_iff_exists.mp
        (hcollect name value current List.mem_cons_self hfield)
      simp [hnested, hothers]

/-! ### Whole trees -/

@[simp] theorem docAt_nil (doc : Yaml (Key O) σ) : docAt [] doc = some doc := by
  rw [docAt.eq_def]

@[simp] theorem docAt_cons_dict (name : String) (rest : Trail) (entries : Entries (Key O) σ) :
    docAt (name :: rest) (.dict entries) =
      (lookupItems (.str name) entries).bind (docAt rest) := rfl

@[simp] theorem Attribute.find_nil (attr : Attribute V) : attr.find [] = some attr := by
  rw [Attribute.find.eq_def]

@[simp] theorem Attribute.find_cons (name : String) (rest : Trail) (cls : String)
    (fields : Fields V) :
    (Attribute.dataclass cls fields).find (name :: rest) =
      (lookupItems name fields).bind (Attribute.find rest) := rfl

@[simp] theorem Attribute.find_cons_setting (name : String) (rest : Trail) (value : V) :
    (Attribute.setting value).find (name :: rest) = none := rfl

theorem Distinct.nodup {entries : Entries (Key O) σ} (h : Distinct (.dict entries)) :
    (entries.map Prod.fst).Nodup := h [] entries (docAt_nil _)

theorem Distinct.below {entries : Entries (Key O) σ} (h : Distinct (.dict entries)) {name : String}
    {value : Yaml (Key O) σ} (hvalue : lookupItems (.str name) entries = some value) :
    Distinct value := fun trail nested hnested =>
  h (name :: trail) nested (by rw [docAt_cons_dict, hvalue, Option.bind_some, hnested])

theorem distinct_scalar (value : σ) : Distinct (.scalar value : Yaml (Key O) σ) := by
  intro trail entries hentries
  cases trail <;> simp [docAt] at hentries

theorem distinct_dict {entries : Entries (Key O) σ} (hnodup : (entries.map Prod.fst).Nodup)
    (hbelow : ∀ entry ∈ entries, Distinct entry.2) : Distinct (.dict entries) := by
  intro trail nested hnested
  cases trail with
  | nil =>
    rw [docAt_nil] at hnested
    cases hnested
    exact hnodup
  | cons name rest =>
    rw [docAt_cons_dict] at hnested
    obtain ⟨value, hvalue, hnested⟩ := Option.bind_eq_some_iff.mp hnested
    exact hbelow _ ((lookupItems_eq_some_iff hnodup).mp hvalue) rest nested hnested

theorem Attribute.kindAt_below {cls name : String} {fields : Fields V} {current : Attribute V}
    (hcurrent : lookupItems name fields = some current) (rest : Trail) :
    (Attribute.dataclass cls fields).kindAt (name :: rest) = current.kindAt rest := by
  rw [Attribute.kindAt, Attribute.find_cons, hcurrent]
  rfl

theorem Attribute.kindAt_missing {cls name : String} {fields : Fields V}
    (hmissing : lookupItems name fields = none) (rest : Trail) :
    (Attribute.dataclass cls fields).kindAt (name :: rest) = none := by
  rw [Attribute.kindAt, Attribute.find_cons, hmissing]
  rfl

theorem Attribute.instanceAt_nil (cls : String) (fields : Fields V) :
    (Attribute.dataclass cls fields).InstanceAt [] :=
  ⟨cls, by simp [Attribute.kindAt, Attribute.kind]⟩

theorem Attribute.instanceAt_below {cls name : String} {fields : Fields V} {current : Attribute V}
    (hcurrent : lookupItems name fields = some current) (rest : Trail) :
    (Attribute.dataclass cls fields).InstanceAt (name :: rest) ↔ current.InstanceAt rest := by
  unfold Attribute.InstanceAt
  rw [Attribute.kindAt_below hcurrent]

theorem Attribute.not_instanceAt_setting (value : V) (trail : Trail) :
    ¬ (Attribute.setting value).InstanceAt trail := by
  rintro ⟨cls, hcls⟩
  cases trail <;> simp [Attribute.kindAt, Attribute.kind] at hcls

theorem mem_namesOf {name : String} {fields : Fields V} {current : Attribute V}
    (h : lookupItems name fields = some current) :
    name ∈ namesOf fields ∧ ∀ other ∈ current.names, other ∈ namesOf fields := by
  induction fields with
  | nil => cases h
  | cons field rest ih =>
    obtain ⟨given, attr⟩ := field
    rw [namesOf]
    by_cases hname : given = name
    · rw [lookupItems, if_pos hname] at h
      cases h
      exact ⟨by simp [hname], fun other hother => by simp [hother]⟩
    · rw [lookupItems, if_neg hname] at h
      obtain ⟨hhere, hbelow⟩ := ih h
      exact ⟨by simp [hhere], fun other hother => by simp [hbelow other hother]⟩

theorem Attribute.exists_setting {attr : Attribute V} {trail : Trail}
    (h : attr.kindAt trail = some none) : ∃ value, attr.find trail = some (.setting value) := by
  obtain ⟨found, hfound, hkind⟩ := Option.map_eq_some_iff.mp h
  cases found with
  | setting value => exact ⟨value, hfound⟩
  | dataclass cls fields => cases hkind

theorem Attribute.mem_names {attr : Attribute V} {trail : Trail} (h : attr.kindAt trail ≠ none)
    {name : String} (hname : name ∈ trail) : name ∈ attr.names := by
  induction trail generalizing attr with
  | nil => cases hname
  | cons first rest ih =>
    cases attr with
    | setting value => exact absurd rfl h
    | dataclass cls fields =>
      cases hfirst : lookupItems first fields with
      | none => exact absurd (Attribute.kindAt_missing hfirst rest) h
      | some current =>
        rw [Attribute.kindAt_below hfirst] at h
        rw [Attribute.names]
        rcases List.mem_cons.mp hname with rfl | hname
        · exact (mem_namesOf hfirst).1
        · exact (mem_namesOf hfirst).2 name (ih h hname)

theorem Attribute.instanceAt_prefix {attr : Attribute V} {trail parent : Trail}
    (h : attr.InstanceAt trail) (hparent : parent <+: trail) : attr.InstanceAt parent := by
  induction parent generalizing attr trail with
  | nil =>
    cases attr with
    | setting value => exact absurd h (Attribute.not_instanceAt_setting value trail)
    | dataclass cls fields => exact Attribute.instanceAt_nil cls fields
  | cons first rest ih =>
    obtain ⟨tail, rfl⟩ := hparent
    rw [List.cons_append] at h
    cases attr with
    | setting value => exact absurd h (Attribute.not_instanceAt_setting value _)
    | dataclass cls fields =>
      cases hfirst : lookupItems first fields with
      | none =>
        obtain ⟨cls', hcls⟩ := h
        rw [Attribute.kindAt_missing hfirst] at hcls
        cases hcls
      | some current =>
        rw [Attribute.instanceAt_below hfirst] at h ⊢
        exact ih h (List.prefix_append rest tail)

theorem Attribute.instanceAt_congr {attr attr' : Attribute V}
    (h : ∀ trail, attr'.kindAt trail = attr.kindAt trail) (trail : Trail) :
    attr'.InstanceAt trail ↔ attr.InstanceAt trail := by
  unfold Attribute.InstanceAt
  rw [h]

theorem Regular.congr {attr attr' : Attribute V} {doc : Yaml (Key O) σ}
    (h : ∀ trail, attr'.kindAt trail = attr.kindAt trail) (hregular : Regular obj attr doc) :
    Regular obj attr' doc := fun trail value hat =>
  hregular trail value ((Attribute.instanceAt_congr h trail).mp hat)

theorem unknown_congr {attr attr' : Attribute V}
    (h : ∀ trail, attr'.kindAt trail = attr.kindAt trail) (doc : Yaml (Key O) σ) (trail : Trail) :
    Unknown attr' doc trail ↔ Unknown attr doc trail := by
  unfold Unknown
  rw [h, Attribute.instanceAt_congr h]

theorem Regular.mapping {cls : String} {fields : Fields V} {doc : Yaml (Key O) σ}
    (h : Regular obj (.dataclass cls fields) doc) : PlainMapping obj doc :=
  h [] doc (Attribute.instanceAt_nil cls fields) (docAt_nil doc)

theorem Regular.below {cls name : String} {fields : Fields V} {entries : Entries (Key O) σ}
    (h : Regular obj (.dataclass cls fields) (.dict entries)) {current : Attribute V}
    {value : Yaml (Key O) σ} (hcurrent : lookupItems name fields = some current)
    (hvalue : lookupItems (.str name) entries = some value) : Regular obj current value :=
  fun trail nested hat hnested => h (name :: trail) nested
    ((Attribute.instanceAt_below hcurrent trail).mpr hat)
    (by rw [docAt_cons_dict, hvalue, Option.bind_some, hnested])

theorem regular_induction {motive : Attribute V → Yaml (Key O) σ → Prop}
    (setting : ∀ value doc, motive (.setting value) doc)
    (dataclass : ∀ cls fields entries, (entries.map Prod.fst).Nodup →
      (∀ key ∈ entries.map Prod.fst, Plain obj key) →
      (∀ name value current, lookupItems (.str name) entries = some value →
        lookupItems name fields = some current → motive current value) →
      motive (.dataclass cls fields) (.dict entries))
    {attr : Attribute V} {doc : Yaml (Key O) σ} (hdistinct : Distinct doc)
    (hregular : Regular obj attr doc) : motive attr doc := by
  induction hsize : sizeOf doc using Nat.strongRecOn generalizing attr doc with
  | ind size ih =>
    subst hsize
    cases attr with
    | setting value => exact setting value doc
    | dataclass cls fields =>
      obtain ⟨entries, rfl, hplain⟩ := hregular.mapping
      refine dataclass cls fields entries hdistinct.nodup hplain ?_
      intro name value current hvalue hcurrent
      have hmem := List.sizeOf_lt_of_mem ((lookupItems_eq_some_iff hdistinct.nodup).mp hvalue)
      have hsmaller : sizeOf value < sizeOf (Yaml.dict entries) := by
        simp only [Prod.mk.sizeOf_spec, Yaml.dict.sizeOf_spec] at hmem ⊢
        omega
      exact ih _ hsmaller (hdistinct.below hvalue) (hregular.below hcurrent hvalue) rfl

theorem mergeAttribute_isSome {attr : Attribute V} {doc : Yaml (Key O) σ}
    (hdistinct : Distinct doc) (hregular : Regular obj attr doc) :
    (mergeAttribute obj raw attr doc).isSome := by
  refine regular_induction (motive := fun attr doc => (mergeAttribute obj raw attr doc).isSome)
    ?_ ?_ hdistinct hregular
  · intro value doc
    rw [mergeAttribute.eq_def]
    rfl
  · intro cls fields entries hnodup hplain hbelow
    rw [mergeAttribute, Option.isSome_map]
    exact mergeItems_isSome hnodup hplain hbelow

theorem collectAttribute_isSome {attr : Attribute V} {doc : Yaml (Key O) σ}
    (hdistinct : Distinct doc) (hregular : Regular obj attr doc) :
    (collectAttribute obj attr doc).isSome := by
  refine regular_induction (motive := fun attr doc => (collectAttribute obj attr doc).isSome)
    ?_ ?_ hdistinct hregular
  · intro value doc
    rw [collectAttribute.eq_def]
    rfl
  · intro cls fields entries hnodup hplain hbelow
    rw [collectAttribute]
    exact collectUnknownKeys_isSome hplain fun name value current hmem =>
      hbelow name value current ((lookupItems_eq_some_iff hnodup).mpr hmem)

/-- **What a merge leaves.** A regular document leaves a setting or an instance of the same class
    where there was one, and the settings that it gives have its values. -/
theorem find_mergeAttribute {attr attr' : Attribute V} {doc : Yaml (Key O) σ}
    (hdistinct : Distinct doc) (hregular : Regular obj attr doc)
    (h : mergeAttribute obj raw attr doc = some attr') (trail : Trail) :
    attr'.kindAt trail = attr.kindAt trail ∧ ∀ current,
      attr.find trail = some (.setting current) →
        attr'.find trail = some (.setting ((docAt trail doc).elim current raw)) := by
  induction trail generalizing attr attr' doc with
  | nil =>
    cases attr with
    | setting value =>
      rw [mergeAttribute.eq_def] at h
      cases h
      simp [Attribute.kindAt, Attribute.kind]
    | dataclass cls fields =>
      obtain ⟨entries, rfl, -⟩ := hregular.mapping
      rw [mergeAttribute] at h
      obtain ⟨fields', -, rfl⟩ := Option.map_eq_some_iff.mp h
      simp [Attribute.kindAt, Attribute.kind]
  | cons name rest ih =>
    cases attr with
    | setting value =>
      rw [mergeAttribute.eq_def] at h
      cases h
      simp [Attribute.kindAt]
    | dataclass cls fields =>
      obtain ⟨entries, rfl, hplain⟩ := hregular.mapping
      rw [mergeAttribute] at h
      obtain ⟨fields', hfields, rfl⟩ := Option.map_eq_some_iff.mp h
      have hmerged := mergedAt_of_mergeItems hdistinct.nodup hplain hfields name
      unfold MergedAt at hmerged
      cases hvalue : lookupItems (.str name) entries with
      | none =>
        simp only [hvalue] at hmerged
        rw [Attribute.kindAt, Attribute.kindAt, Attribute.find_cons, Attribute.find_cons, hmerged,
          docAt_cons_dict, hvalue]
        exact ⟨rfl, fun current hcurrent => hcurrent⟩
      | some value =>
        cases hcurrent : lookupItems name fields with
        | none =>
          simp only [hvalue, hcurrent] at hmerged
          rw [Attribute.kindAt_missing hmerged, Attribute.kindAt_missing hcurrent,
            Attribute.find_cons, hcurrent]
          exact ⟨rfl, fun current hcurrent => by cases hcurrent⟩
        | some current =>
          simp only [hvalue, hcurrent] at hmerged
          obtain ⟨merged, hmerge, hlookup⟩ := hmerged
          rw [Attribute.kindAt_below hlookup, Attribute.kindAt_below hcurrent, Attribute.find_cons,
            Attribute.find_cons, hlookup, hcurrent, docAt_cons_dict, hvalue]
          exact ih (hdistinct.below hvalue) (hregular.below hcurrent hvalue) hmerge

theorem unknown_below {cls name : String} {fields : Fields V} {entries : Entries (Key O) σ}
    {current : Attribute V} {value : Yaml (Key O) σ}
    (hcurrent : lookupItems name fields = some current)
    (hvalue : lookupItems (.str name) entries = some value) (rest : Trail) :
    Unknown (.dataclass cls fields) (.dict entries) (name :: rest) ↔
      Unknown current value rest := by
  unfold Unknown
  rw [docAt_cons_dict, hvalue, Option.bind_some, Attribute.kindAt_below hcurrent]
  cases rest with
  | nil => simp [Attribute.kindAt]
  | cons first rest =>
    rw [List.dropLast_cons_cons, Attribute.instanceAt_below hcurrent]

theorem unknown_missing {cls name : String} {fields : Fields V} {entries : Entries (Key O) σ}
    {value : Yaml (Key O) σ} (hmissing : lookupItems name fields = none)
    (hvalue : lookupItems (.str name) entries = some value) (rest : Trail) :
    Unknown (.dataclass cls fields) (.dict entries) (name :: rest) ↔ rest = [] := by
  constructor
  · rintro ⟨-, -, cls', hat⟩
    cases rest with
    | nil => rfl
    | cons first rest =>
      rw [List.dropLast_cons_cons, Attribute.kindAt_missing hmissing] at hat
      cases hat
  · rintro rfl
    refine ⟨?_, Attribute.kindAt_missing hmissing [], Attribute.instanceAt_nil cls fields⟩
    rw [docAt_cons_dict, hvalue, Option.bind_some, docAt_nil]
    exact Option.some_ne_none value

/-- **What is collected.** Of a regular document, the keys that name no field of their instance. -/
theorem mem_collectAttribute_iff {attr : Attribute V} {doc : Yaml (Key O) σ}
    {unknown : List Trail} (hdistinct : Distinct doc) (hregular : Regular obj attr doc)
    (h : collectAttribute obj attr doc = some unknown) (trail : Trail) :
    trail ∈ unknown ↔ Unknown attr doc trail := by
  induction trail generalizing attr doc unknown with
  | nil =>
    refine iff_of_false (nil_not_mem_collectAttribute h) fun hunknown => ?_
    simp [Unknown, Attribute.kindAt] at hunknown
  | cons name rest ih =>
    cases attr with
    | setting value =>
      rw [collectAttribute.eq_def] at h
      cases h
      exact iff_of_false (by simp) fun hunknown =>
        Attribute.not_instanceAt_setting value _ hunknown.2.2
    | dataclass cls fields =>
      obtain ⟨entries, rfl, hplain⟩ := hregular.mapping
      rw [collectAttribute] at h
      rw [mem_collectUnknownKeys h]
      have hhere : (∃ other value tail, name :: rest = other :: tail ∧
          (Key.str other, value) ∈ entries ∧ UnknownAt obj fields other value tail) ↔
          ∃ value, lookupItems (.str name) entries = some value ∧
            UnknownAt obj fields name value rest := by
        constructor
        · rintro ⟨other, value, tail, heq, hmem, hat⟩
          cases heq
          exact ⟨value, (lookupItems_eq_some_iff hdistinct.nodup).mpr hmem, hat⟩
        · rintro ⟨value, hvalue, hat⟩
          exact ⟨name, value, rest, rfl, (lookupItems_eq_some_iff hdistinct.nodup).mp hvalue, hat⟩
      rw [hhere]
      cases hvalue : lookupItems (.str name) entries with
      | none =>
        refine iff_of_false (by simp) fun hunknown => hunknown.1 ?_
        rw [docAt_cons_dict, hvalue, Option.bind_none]
      | some value =>
        cases hcurrent : lookupItems name fields with
        | none =>
          have hmem := (lookupItems_eq_some_iff hdistinct.nodup).mp hvalue
          obtain ⟨other, hother, hspecial⟩ := hplain (.str name) (List.mem_map_of_mem hmem)
          cases hother
          rw [unknown_missing hcurrent hvalue]
          simp only [Option.some.injEq, exists_eq_left', UnknownAt, hcurrent, hspecial,
            Bool.false_eq_true, if_false]
        | some current =>
          have hbelow := hregular.below hcurrent hvalue
          obtain ⟨nested, hnested⟩ := Option.isSome_iff_exists.mp
            (collectAttribute_isSome (hdistinct.below hvalue) hbelow)
          rw [unknown_below hcurrent hvalue, ← ih (hdistinct.below hvalue) hbelow hnested]
          simp only [Option.some.injEq, exists_eq_left', UnknownAt, hcurrent, hnested]

omit [DecidableEq O] in
theorem special_not_mem_collectAttribute {attr : Attribute V} {doc : Yaml (Key O) σ}
    {unknown : List Trail} (h : collectAttribute obj attr doc = some unknown) {trail : Trail}
    (htrail : ∀ name ∈ trail, obj.special name = false) {name : String}
    (hspecial : obj.special name = true) : trail ++ [name] ∉ unknown := by
  induction trail generalizing attr doc unknown with
  | nil =>
    intro hmem
    obtain ⟨fields, entries, hfields⟩ := exists_of_mem_collectAttribute h hmem
    obtain ⟨given, value, rest, heq, -, hat⟩ := (mem_collectUnknownKeys hfields _).mp hmem
    cases heq
    unfold UnknownAt at hat
    cases hfield : lookupItems name fields with
    | none =>
      rw [hfield] at hat
      simp only [hspecial, if_true] at hat
      obtain ⟨nested, -, unknownKey, -, hnil⟩ := hat
      cases hnil
    | some current =>
      rw [hfield] at hat
      obtain ⟨nested, hnested, hnil⟩ := hat
      exact nil_not_mem_collectAttribute hnested hnil
  | cons first rest ih =>
    intro hmem
    obtain ⟨hfirst, hrest⟩ := List.forall_mem_cons.mp htrail
    obtain ⟨fields, entries, hfields⟩ := exists_of_mem_collectAttribute h hmem
    obtain ⟨given, value, tail, heq, -, hat⟩ := (mem_collectUnknownKeys hfields _).mp hmem
    cases heq
    unfold UnknownAt at hat
    cases hfield : lookupItems first fields with
    | none =>
      simp only [hfield, hfirst, Bool.false_eq_true, if_false] at hat
      exact List.append_ne_nil_of_right_ne_nil rest (List.cons_ne_nil name []) hat
    | some current =>
      simp only [hfield] at hat
      obtain ⟨nested, hnested, htail⟩ := hat
      exact ih hnested hrest htail

theorem plain_of_mergeItems {fields fields' : Fields V} {entries : Entries (Key O) σ}
    (h : mergeItems obj raw fields entries = some fields')
    (hspecial : ∀ name, docAt [name] (.dict entries) ≠ none → obj.special name = false) :
    ∀ key ∈ entries.map Prod.fst, Plain obj key := by
  intro key hkey
  obtain ⟨name, rfl⟩ := keys_str_of_mergeItems h key hkey
  refine ⟨name, rfl, hspecial name ?_⟩
  cases hvalue : lookupItems (.str name) entries with
  | none => exact absurd hkey (lookupItems_eq_none_iff.mp hvalue)
  | some value =>
    rw [docAt_cons_dict, hvalue, Option.bind_some, docAt_nil]
    exact Option.some_ne_none value

omit [DecidableEq O] in
theorem exists_of_instanceAt {attr attr' : Attribute V} {doc : Yaml (Key O) σ}
    (h : mergeAttribute obj raw attr doc = some attr') {trail : Trail}
    (hat : attr'.InstanceAt trail) :
    ∃ cls fields entries fields', attr = .dataclass cls fields ∧ doc = .dict entries ∧
      attr' = .dataclass cls fields' ∧ mergeItems obj raw fields entries = some fields' := by
  rw [mergeAttribute.eq_def] at h
  split at h
  · obtain ⟨fields', hfields, rfl⟩ := Option.map_eq_some_iff.mp h
    exact ⟨_, _, _, fields', rfl, rfl, rfl, hfields⟩
  · cases h
    exact absurd hat (Attribute.not_instanceAt_setting _ trail)

/-- What is an instance after a merge was one before, and was given nothing or a mapping. -/
theorem plainMapping_of_merged {attr attr' : Attribute V} {doc : Yaml (Key O) σ}
    (hdistinct : Distinct doc) (h : mergeAttribute obj raw attr doc = some attr') {trail : Trail}
    (hspecial : ∀ parent name, parent <+: trail → docAt (parent ++ [name]) doc ≠ none →
      obj.special name = false)
    (hat : attr'.InstanceAt trail) :
    attr.InstanceAt trail ∧ ∀ value, docAt trail doc = some value → PlainMapping obj value := by
  induction trail generalizing attr attr' doc with
  | nil =>
    obtain ⟨cls, fields, entries, fields', rfl, rfl, rfl, hfields⟩ := exists_of_instanceAt h hat
    refine ⟨Attribute.instanceAt_nil cls fields, fun value hvalue => ?_⟩
    rw [docAt_nil] at hvalue
    cases hvalue
    exact ⟨entries, rfl, plain_of_mergeItems hfields fun name => hspecial [] name List.nil_prefix⟩
  | cons name rest ih =>
    obtain ⟨cls, fields, entries, fields', rfl, rfl, rfl, hfields⟩ := exists_of_instanceAt h hat
    have hplain := plain_of_mergeItems hfields fun name => hspecial [] name List.nil_prefix
    have hmerged := mergedAt_of_mergeItems hdistinct.nodup hplain hfields name
    unfold MergedAt at hmerged
    rw [docAt_cons_dict]
    cases hvalue : lookupItems (.str name) entries with
    | none =>
      simp only [hvalue] at hmerged
      refine ⟨?_, fun value hnone => by cases hnone⟩
      unfold Attribute.InstanceAt Attribute.kindAt at hat ⊢
      rwa [Attribute.find_cons, ← hmerged, ← Attribute.find_cons]
    | some value =>
      cases hcurrent : lookupItems name fields with
      | none =>
        simp only [hvalue, hcurrent] at hmerged
        obtain ⟨cls', hcls⟩ := hat
        rw [Attribute.kindAt_missing hmerged] at hcls
        cases hcls
      | some current =>
        simp only [hvalue, hcurrent] at hmerged
        obtain ⟨merged, hmerge, hlookup⟩ := hmerged
        rw [Attribute.instanceAt_below hlookup] at hat
        rw [Attribute.instanceAt_below hcurrent, Option.bind_some]
        refine ih (hdistinct.below hvalue) hmerge ?_ hat
        intro parent other hparent hother
        refine hspecial (name :: parent) other ((List.prefix_cons_inj name).mpr hparent) ?_
        rwa [List.cons_append, docAt_cons_dict, hvalue, Option.bind_some]

end

end Meshpoint.ConfigMerge
