import Meshpoint.JsonText

/-!
# Trees that agree outside hidden keys

`Agree hidden view` relates two JSON trees that are the same except for the
entries whose key is hidden, at every level; of the entries of a dictionary, the
hidden ones included, only `view` has to agree.  `scrub hidden extra` removes the
hidden entries and writes `extra` of each dictionary in their place.

`scrub_eq_iff` connects the two: two trees have the same scrubbed form exactly
when they agree, with what is written in place of the hidden entries as the view.
-/

universe u v

namespace JsonText

variable {F : Type u} {β : Type v}

/-! ### Agreement -/

mutual

/-- Agreement of two values outside the hidden keys. -/
inductive Agree (hidden : String → Bool) (view : Entries F → β) : Value F → Value F → Prop
  | null : Agree hidden view .null .null
  | bool (b : Bool) : Agree hidden view (.bool b) (.bool b)
  | int (n : Int) : Agree hidden view (.int n) (.int n)
  | float (x : F) : Agree hidden view (.float x) (.float x)
  | str (s : String) : Agree hidden view (.str s) (.str s)
  | list {vs ws : Values F} :
      AgreeItems hidden view vs ws → Agree hidden view (.list vs) (.list ws)
  | dict {es fs : Entries F} : AgreeEntries hidden view es fs → view es = view fs →
      Agree hidden view (.dict es) (.dict fs)

inductive AgreeItems (hidden : String → Bool) (view : Entries F → β) :
    Values F → Values F → Prop
  | nil : AgreeItems hidden view .nil .nil
  | cons {v w : Value F} {vs ws : Values F} : Agree hidden view v w →
      AgreeItems hidden view vs ws → AgreeItems hidden view (.cons v vs) (.cons w ws)

/-- Hidden entries may be present on one side only. -/
inductive AgreeEntries (hidden : String → Bool) (view : Entries F → β) :
    Entries F → Entries F → Prop
  | nil : AgreeEntries hidden view .nil .nil
  | left {k : String} {v : Value F} {es fs : Entries F} : hidden k = true →
      AgreeEntries hidden view es fs → AgreeEntries hidden view (.cons k v es) fs
  | right {k : String} {w : Value F} {es fs : Entries F} : hidden k = true →
      AgreeEntries hidden view es fs → AgreeEntries hidden view es (.cons k w fs)
  | both {k : String} {v w : Value F} {es fs : Entries F} : hidden k = false →
      Agree hidden view v w → AgreeEntries hidden view es fs →
      AgreeEntries hidden view (.cons k v es) (.cons k w fs)

end

/-! ### Scrubbing -/

mutual

/-- Remove the hidden entries of every dictionary and append `extra` of it. -/
def scrub (hidden : String → Bool) (extra : Entries F → Entries F) : Value F → Value F
  | .null => .null
  | .bool b => .bool b
  | .int n => .int n
  | .float x => .float x
  | .str s => .str s
  | .list vs => .list (scrubItems hidden extra vs)
  | .dict es => .dict ((scrubEntries hidden extra es).append (extra es))

def scrubItems (hidden : String → Bool) (extra : Entries F → Entries F) : Values F → Values F
  | .nil => .nil
  | .cons v vs => .cons (scrub hidden extra v) (scrubItems hidden extra vs)

def scrubEntries (hidden : String → Bool) (extra : Entries F → Entries F) :
    Entries F → Entries F
  | .nil => .nil
  | .cons k v es =>
    if hidden k then scrubEntries hidden extra es
    else .cons k (scrub hidden extra v) (scrubEntries hidden extra es)

end

/-- Every key of a dictionary meets `p`. -/
def Entries.AllKeys (p : String → Prop) : Entries F → Prop
  | .nil => True
  | .cons k _ es => p k ∧ Entries.AllKeys p es

/-! ### Dictionaries by their keys -/

theorem set_of_allKeys_ne {key : String} {value : Value F} {es : Entries F}
    (h : es.AllKeys fun k => k ≠ key) : es.set key value = es.append (.cons key value .nil) := by
  match es with
  | .nil => rfl
  | .cons k v es =>
    simp only [Entries.set, if_neg h.1, Entries.append]
    rw [set_of_allKeys_ne h.2]

theorem allKeys_filterKeys (p : String → Bool) (es : Entries F) :
    (es.filterKeys p).AllKeys fun k => p k = true := by
  match es with
  | .nil => trivial
  | .cons k v es =>
    have ih := allKeys_filterKeys p es
    by_cases hk : p k = true
    · simp only [Entries.filterKeys, if_pos hk]
      exact ⟨hk, ih⟩
    · simp only [Entries.filterKeys, if_neg hk]
      exact ih

theorem allKeys_mono {p q : String → Prop} (hpq : ∀ k, p k → q k) {es : Entries F}
    (h : es.AllKeys p) : es.AllKeys q := by
  match es with
  | .nil => trivial
  | .cons k v es => exact ⟨hpq k h.1, allKeys_mono hpq h.2⟩

theorem allKeys_append {p : String → Prop} {es fs : Entries F} (h : es.AllKeys p)
    (h' : fs.AllKeys p) : (es.append fs).AllKeys p := by
  match es with
  | .nil => exact h'
  | .cons k v es => exact ⟨h.1, allKeys_append h.2 h'⟩

theorem Entries.append_assoc (a b c : Entries F) : (a.append b).append c = a.append (b.append c) := by
  match a with
  | .nil => rfl
  | .cons k v a => simp only [Entries.append, Entries.append_assoc a b c]

theorem Entries.append_nil (a : Entries F) : a.append .nil = a := by
  match a with
  | .nil => rfl
  | .cons k v a => simp only [Entries.append, Entries.append_nil a]

theorem get?_of_allKeys_ne {key : String} {es : Entries F} (h : es.AllKeys fun k => k ≠ key) :
    es.get? key = none := by
  match es with
  | .nil => rfl
  | .cons k v es =>
    simp only [Entries.get?, if_neg h.1]
    exact get?_of_allKeys_ne h.2

theorem get?_append_of_none {key : String} {es fs : Entries F} (h : es.get? key = none) :
    (es.append fs).get? key = fs.get? key := by
  match es with
  | .nil => rfl
  | .cons k v es =>
    simp only [Entries.get?] at h
    split at h
    · cases h
    · rename_i hk
      simp only [Entries.append, Entries.get?, if_neg hk]
      exact get?_append_of_none h

theorem get?_set_ne {key key' : String} (h : key' ≠ key) (value : Value F) (es : Entries F) :
    (es.set key' value).get? key = es.get? key := by
  match es with
  | .nil => simp only [Entries.set, Entries.get?, if_neg h]
  | .cons k v es =>
    by_cases hk : k = key'
    · subst hk
      simp only [Entries.set, Entries.get?, if_true, if_neg h]
    · simp only [Entries.set, Entries.get?, if_neg hk, get?_set_ne h value es]

theorem get?_set_self (key : String) (value : Value F) (es : Entries F) :
    (es.set key value).get? key = some value := by
  match es with
  | .nil => simp only [Entries.set, Entries.get?, if_true]
  | .cons k v es =>
    by_cases hk : k = key
    · simp only [Entries.set, Entries.get?, if_pos hk]
    · simp only [Entries.set, Entries.get?, if_neg hk, get?_set_self key value es]

theorem get?_filterKeys {p : String → Bool} {key : String} (h : p key = true) (es : Entries F) :
    (es.filterKeys p).get? key = es.get? key := by
  match es with
  | .nil => rfl
  | .cons k v es =>
    have ih := get?_filterKeys h es
    by_cases hk : p k = true
    · simp only [Entries.filterKeys, if_pos hk, Entries.get?, ih]
    · have hne : k ≠ key := fun heq => hk (heq ▸ h)
      simp only [Entries.filterKeys, if_neg hk, Entries.get?, if_neg hne, ih]

theorem get?_filterKeys_of_not {p : String → Bool} {key : String} (h : p key = false)
    (es : Entries F) : (es.filterKeys p).get? key = none := by
  refine get?_of_allKeys_ne (allKeys_mono (fun k hk heq => ?_) (allKeys_filterKeys p es))
  rw [heq, h] at hk
  cases hk

theorem filterKeys_filterKeys (p : String → Bool) (es : Entries F) :
    (es.filterKeys p).filterKeys p = es.filterKeys p := by
  match es with
  | .nil => rfl
  | .cons k v es =>
    have ih := filterKeys_filterKeys p es
    by_cases hk : p k = true
    · simp only [Entries.filterKeys, if_pos hk, ih]
    · simp only [Entries.filterKeys, if_neg hk, ih]

theorem filterKeys_set {p : String → Bool} {key : String} (h : p key = false) (value : Value F)
    (es : Entries F) : (es.set key value).filterKeys p = es.filterKeys p := by
  match es with
  | .nil => simp [Entries.set, Entries.filterKeys, h]
  | .cons k v es =>
    have ih := filterKeys_set h value es
    by_cases hk : k = key
    · subst hk
      simp [Entries.set, Entries.filterKeys, h]
    · simp [Entries.set, Entries.filterKeys, hk, ih]

theorem set_of_get? {key : String} {v : Value F} {es : Entries F} (h : es.get? key = some v) :
    es.set key v = es := by
  match es with
  | .nil => cases h
  | .cons k w es =>
    simp only [Entries.get?] at h
    split at h
    · rename_i hk
      cases h
      simp only [Entries.set, if_pos hk]
    · rename_i hk
      simp only [Entries.set, if_neg hk]
      rw [set_of_get? h]

theorem Entries.ofList_injective {l m : List (String × Value F)}
    (h : Entries.ofList l = Entries.ofList m) : l = m := by
  induction l generalizing m with
  | nil =>
    cases m with
    | nil => rfl
    | cons b m => simp [Entries.ofList] at h
  | cons a l ih =>
    cases m with
    | nil => simp [Entries.ofList] at h
    | cons b m =>
      simp only [Entries.ofList, Entries.cons.injEq] at h
      rw [ih h.2.2, Prod.ext h.1 h.2.1]

/-! ### Scrubbed forms -/

theorem allKeys_scrubEntries (hidden : String → Bool) (extra : Entries F → Entries F)
    (es : Entries F) : (scrubEntries hidden extra es).AllKeys (fun k => hidden k = false) := by
  match es with
  | .nil => trivial
  | .cons k v es =>
    have ih := allKeys_scrubEntries hidden extra es
    by_cases hk : hidden k = true
    · simp only [scrubEntries, if_pos hk]
      exact ih
    · simp only [scrubEntries, if_neg hk]
      exact ⟨by simpa using hk, ih⟩

theorem append_cancel_of_allKeys {hidden : String → Bool} {a b x y : Entries F}
    (ha : a.AllKeys fun k => hidden k = false) (hb : b.AllKeys fun k => hidden k = false)
    (hx : x.AllKeys fun k => hidden k = true) (hy : y.AllKeys fun k => hidden k = true)
    (h : a.append x = b.append y) : a = b ∧ x = y := by
  match a, b with
  | .nil, .nil => exact ⟨rfl, h⟩
  | .nil, .cons k v b =>
    have hxe : x = .cons k v (b.append y) := h
    rw [hxe] at hx
    exact absurd (hx.1.symm.trans hb.1) (by decide)
  | .cons k v a, .nil =>
    have hye : .cons k v (a.append x) = y := h
    rw [← hye] at hy
    exact absurd (hy.1.symm.trans ha.1) (by decide)
  | .cons k v a, .cons k' v' b =>
    simp only [Entries.append, Entries.cons.injEq] at h
    obtain ⟨hk, hv, hrest⟩ := h
    obtain ⟨hab, hxy⟩ := append_cancel_of_allKeys ha.2 hb.2 hx hy hrest
    exact ⟨by rw [hk, hv, hab], hxy⟩

variable {hidden : String → Bool} {extra : Entries F → Entries F}

mutual

theorem scrub_eq_of_agree : ∀ {v w : Value F}, Agree hidden extra v w →
    scrub hidden extra v = scrub hidden extra w
  | _, _, .null => rfl
  | _, _, .bool _ => rfl
  | _, _, .int _ => rfl
  | _, _, .float _ => rfl
  | _, _, .str _ => rfl
  | _, _, .list h => by
    simp only [scrub]
    rw [scrubItems_eq_of_agree h]
  | _, _, .dict h hview => by
    simp only [scrub]
    rw [scrubEntries_eq_of_agree h, hview]

theorem scrubItems_eq_of_agree : ∀ {vs ws : Values F}, AgreeItems hidden extra vs ws →
    scrubItems hidden extra vs = scrubItems hidden extra ws
  | _, _, .nil => rfl
  | _, _, .cons h hs => by
    simp only [scrubItems]
    rw [scrub_eq_of_agree h, scrubItems_eq_of_agree hs]

theorem scrubEntries_eq_of_agree : ∀ {es fs : Entries F}, AgreeEntries hidden extra es fs →
    scrubEntries hidden extra es = scrubEntries hidden extra fs
  | _, _, .nil => rfl
  | _, _, .left hk h => by
    simp only [scrubEntries, if_pos hk]
    exact scrubEntries_eq_of_agree h
  | _, _, .right hk h => by
    simp only [scrubEntries, if_pos hk]
    exact scrubEntries_eq_of_agree h
  | _, _, .both hk h hs => by
    simp only [scrubEntries, hk, Bool.false_eq_true, if_false]
    rw [scrub_eq_of_agree h, scrubEntries_eq_of_agree hs]

end

theorem exists_visible_entry {k : String} {v' : Value F} {es' : Entries F} (fs : Entries F)
    (h : scrubEntries hidden extra fs = .cons k v' es') :
    ∃ w fs', scrub hidden extra w = v' ∧ scrubEntries hidden extra fs' = es' ∧
      ∀ v es, Agree hidden extra v w → AgreeEntries hidden extra es fs' →
        AgreeEntries hidden extra (.cons k v es) fs := by
  match fs with
  | .nil => simp [scrubEntries] at h
  | .cons k₀ w fs =>
    by_cases hk₀ : hidden k₀ = true
    · simp only [scrubEntries, if_pos hk₀] at h
      obtain ⟨w', fs', hw, hfs, hagree⟩ := exists_visible_entry fs h
      exact ⟨w', fs', hw, hfs, fun v es hv hes => .right hk₀ (hagree v es hv hes)⟩
    · simp only [scrubEntries, if_neg hk₀, Entries.cons.injEq] at h
      obtain ⟨rfl, hw, hfs⟩ := h
      exact ⟨w, fs, hw, hfs, fun v es hv hes => .both (by simpa using hk₀) hv hes⟩

/-- What is written in place of the hidden entries has hidden keys itself. -/
def WritesHidden (hidden : String → Bool) (extra : Entries F → Entries F) : Prop :=
  ∀ es : Entries F, (extra es).AllKeys fun k => hidden k = true

mutual

theorem agree_of_scrub_eq (hextra : WritesHidden hidden extra) : ∀ (v w : Value F), scrub hidden extra v = scrub hidden extra w →
    Agree hidden extra v w
  | .null, w, h => by cases w <;> simp_all [scrub, Agree.null]
  | .bool b, w, h => by cases w <;> simp_all [scrub, Agree.bool]
  | .int n, w, h => by cases w <;> simp_all [scrub, Agree.int]
  | .float x, w, h => by cases w <;> simp_all [scrub, Agree.float]
  | .str s, w, h => by cases w <;> simp_all [scrub, Agree.str]
  | .list vs, w, h => by
    cases w with
    | list ws =>
      simp only [scrub, Value.list.injEq] at h
      exact .list (agreeItems_of_scrub_eq hextra vs ws h)
    | _ => simp [scrub] at h
  | .dict es, w, h => by
    cases w with
    | dict fs =>
      simp only [scrub, Value.dict.injEq] at h
      obtain ⟨hentries, hview⟩ := append_cancel_of_allKeys
        (allKeys_scrubEntries hidden extra es) (allKeys_scrubEntries hidden extra fs)
        (hextra es) (hextra fs) h
      exact .dict (agreeEntries_of_scrub_eq hextra es fs hentries) hview
    | _ => simp [scrub] at h

theorem agreeItems_of_scrub_eq (hextra : WritesHidden hidden extra) : ∀ (vs ws : Values F),
    scrubItems hidden extra vs = scrubItems hidden extra ws → AgreeItems hidden extra vs ws
  | .nil, .nil, _ => .nil
  | .nil, .cons w ws, h => by simp [scrubItems] at h
  | .cons v vs, .nil, h => by simp [scrubItems] at h
  | .cons v vs, .cons w ws, h => by
    simp only [scrubItems, Values.cons.injEq] at h
    exact .cons (agree_of_scrub_eq hextra v w h.1) (agreeItems_of_scrub_eq hextra vs ws h.2)

theorem agreeEntries_of_scrub_eq (hextra : WritesHidden hidden extra) : ∀ (es fs : Entries F),
    scrubEntries hidden extra es = scrubEntries hidden extra fs → AgreeEntries hidden extra es fs
  | .nil, .nil, _ => .nil
  | .nil, .cons k w fs, h => by
    by_cases hk : hidden k = true
    · simp only [scrubEntries, if_pos hk] at h
      exact .right hk (agreeEntries_of_scrub_eq hextra .nil fs h)
    · simp [scrubEntries, hk] at h
  | .cons k v es, fs, h => by
    by_cases hk : hidden k = true
    · simp only [scrubEntries, if_pos hk] at h
      exact .left hk (agreeEntries_of_scrub_eq hextra es fs h)
    · -- skip the hidden entries of the other side to find the partner
      simp only [scrubEntries, if_neg hk] at h
      obtain ⟨w, fs', hw, hfs, hagree⟩ := exists_visible_entry fs h.symm
      exact hagree v es (agree_of_scrub_eq hextra v w hw.symm) (agreeEntries_of_scrub_eq hextra es fs' hfs.symm)

end

/-- **Scrubbed forms are equal exactly for trees that agree.** -/
theorem scrub_eq_iff (hextra : WritesHidden hidden extra)
    (v w : Value F) : scrub hidden extra v = scrub hidden extra w ↔ Agree hidden extra v w :=
  ⟨agree_of_scrub_eq hextra v w, scrub_eq_of_agree⟩

end JsonText
