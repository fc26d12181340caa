import Meshpoint.MqttScrubber
import Meshpoint.ObjectHeap

/-!
# The MQTT filter and the packet that others hold

`prepare_packet` on the objects of the payload, which the storage and the dashboard
hold as well: the deep copy, the dictionaries and lists that `filtered` builds from
it, and the update that writes the rounded pair.  Its result stands for the payload
that the filter of trees gives, and no object that was there before is changed.
-/

namespace Meshpoint.SharedPayload

open JsonText ObjectHeap MqttPrivacy MqttScrubber

variable {F : Type}

/-! ### The filter on objects -/

/-- What a reference to a leaf holds; objects are no numbers. -/
def leafOf : Ref F → Value F
  | .bool b => .bool b
  | .int n => .int n
  | .float x => .float x
  | .str s => .str s
  | _ => .null

def refOf : Value F → Ref F
  | .int n => .int n
  | .float x => .float x
  | _ => .null

/-- `d[key] = r`: in place when the key is present. -/
def setEntry (key : String) (r : Ref F) : List (String × Ref F) → List (String × Ref F)
  | [] => [(key, r)]
  | entry :: entries =>
    if entry.1 = key then (key, r) :: entries else entry :: setEntry key r entries

/-- `d.get(key)`, `none` when the key is absent. -/
def getEntry (key : String) : List (String × Ref F) → Option (Ref F)
  | [] => none
  | entry :: entries => if entry.1 = key then some entry.2 else getEntry key entries

def withoutLocationAt (entries : List (String × Ref F)) : List (String × Ref F) :=
  entries.filter fun entry => !isLocationField entry.1

section Filter

variable [PyFloat F]

def coordinatesAt (entries : List (String × Ref F)) : Coordinates F :=
  match getEntry "latitude" entries, getEntry "longitude" entries with
  | some lat, some lon =>
    if isNumber (leafOf lat) && isNumber (leafOf lon) then
      checkNumbers (leafOf lat) (leafOf lon)
    else .invalid
  | _, _ => .invalid

/-- What `filtered` does with the dictionary of filtered values. -/
def filterDictAt (policy : LocationPolicy) (entries : List (String × Ref F)) : Run F (Ref F) := do
  let result ← alloc (.dict entries)
  let removed := withoutLocationAt entries
  match policy, coordinatesAt entries with
  | .none, _ => return .object (← alloc (.dict removed))
  | _, .overflow => Run.raise
  | _, .invalid => return .object (← alloc (.dict removed))
  | .exact, .valid _ _ => return .object result
  | .approximate, .valid lat lon =>
    let result ← alloc (.dict removed)
    write result (.dict (setEntry "longitude" (refOf (roundTwo lon))
      (setEntry "latitude" (refOf (roundTwo lat)) removed)))
    return .object result

/-- `filtered`; raises when the nesting exhausts the recursion limit. -/
def filteredAt (policy : LocationPolicy) : (limit : Nat) → Ref F → Run F (Ref F)
  | 0, _ => Run.raise
  | limit + 1, .object address => do
    match ← read address with
    | .list items =>
      let items ← each (filteredAt policy limit) items
      return .object (← alloc (.list items))
    | .dict entries =>
      let entries ← each (fun entry => do
        let r ← filteredAt policy limit entry.2
        return (entry.1, r)) entries
      filterDictAt policy entries
  | _ + 1, r => return r

/-- The payload of `prepare_packet`. -/
def preparePayload (precision : String) (limit : Nat) (payload : Ref F) : Run F (Ref F) := do
  let (copy, _) ← deepcopy limit [] payload
  filteredAt (locationPolicy precision) limit copy

/-! ### No object is changed -/

theorem grows_filterDictAt (policy : LocationPolicy) (entries : List (String × Ref F)) :
    Grows (filterDictAt policy entries) := by
  have hnew : ∀ o : Object F, Grows (do return .object (← alloc o) : Run F (Ref F)) :=
    fun o => (grows_alloc o).bind fun _ => grows_pure _
  refine (grows_alloc _).bind fun result => ?_
  simp only
  split
  · exact hnew _
  · exact grows_raise
  · exact hnew _
  · exact grows_pure _
  · -- the update writes to a dictionary that nothing refers to yet
    rw [alloc_write]
    exact hnew _

theorem grows_filteredAt (policy : LocationPolicy) : ∀ (limit : Nat) (r : Ref F),
    Grows (filteredAt policy limit r)
  | 0, _ => grows_raise
  | limit + 1, r => by
    have hfilter := grows_filteredAt policy limit
    unfold filteredAt
    cases r with
    | object address =>
      refine (grows_read address).bind fun o => ?_
      cases o with
      | list items =>
        exact (Grows.each hfilter items).bind fun _ => (grows_alloc _).bind fun _ => grows_pure _
      | dict entries =>
        exact (Grows.each (fun entry => (hfilter entry.2).bind fun _ => grows_pure _) entries).bind
          fun _ => grows_filterDictAt policy _
    | _ => exact grows_pure _

theorem grows_preparePayload (precision : String) (limit : Nat) (payload : Ref F) :
    Grows (preparePayload precision limit payload) :=
  (grows_deepcopy limit [] payload).bind fun _ => grows_filteredAt _ limit _

end Filter

/-! ### Dictionaries by entry -/

theorem represents_getEntry {h : Heap F} (key : String) {entries : List (String × Ref F)}
    {es : Entries F} (hes : RepresentsEntries h entries es) :
    (getEntry key entries = none ∧ es.get? key = none) ∨
      ∃ r v, getEntry key entries = some r ∧ es.get? key = some v ∧ Represents h r v := by
  induction entries generalizing es with
  | nil =>
    cases hes
    exact Or.inl ⟨rfl, rfl⟩
  | cons entry rest ih =>
    cases hes with
    | @cons k r _ v _ hr hrest =>
      by_cases hk : k = key
      · simp only [getEntry, Entries.get?, if_pos hk]
        exact Or.inr ⟨r, v, rfl, rfl, hr⟩
      · simp only [getEntry, Entries.get?, if_neg hk]
        exact ih hrest

theorem represents_setEntry {h : Heap F} {key : String} {r : Ref F} {v : Value F}
    (hr : Represents h r v) {entries : List (String × Ref F)} {es : Entries F}
    (hes : RepresentsEntries h entries es) :
    RepresentsEntries h (setEntry key r entries) (es.set key v) := by
  induction entries generalizing es with
  | nil =>
    cases hes
    exact .cons hr .nil
  | cons entry rest ih =>
    cases hes with
    | @cons k _ _ _ _ hhead hrest =>
      by_cases hk : k = key
      · simp only [setEntry, Entries.set, if_pos hk]
        rw [hk]
        exact .cons hr hrest
      · simp only [setEntry, Entries.set, if_neg hk]
        exact .cons hhead (ih hrest)

theorem represents_withoutLocation {h : Heap F} :
    ∀ {entries : List (String × Ref F)} {es : Entries F}, RepresentsEntries h entries es →
      RepresentsEntries h (withoutLocationAt entries) (withoutLocation es)
  | _, _, .nil => .nil
  | (k, _) :: _, .cons _ _ _, .cons hr hrest => by
    have ih := represents_withoutLocation hrest
    unfold withoutLocationAt withoutLocation at ih ⊢
    cases hk : isLocationField k with
    | true => simpa [Entries.filterKeys, hk] using ih
    | false =>
      simp only [Entries.filterKeys, List.filter_cons, hk, Bool.not_false, if_true]
      exact .cons hr ih

theorem isNumber_leafOf {h : Heap F} {r : Ref F} {v : Value F} (hr : Represents h r v) :
    isNumber (leafOf r) = isNumber v ∧ (isNumber v = true → leafOf r = v) := by
  cases hr <;> simp [leafOf, isNumber]

section Numbers

variable [PyFloat F]

theorem represents_refOf (h : Heap F) {v : Value F} (hv : isNumber v = true) :
    Represents h (refOf (roundTwo v)) (roundTwo v) := by
  cases v with
  | int n => exact .int n
  | float x => exact .float _
  | _ => cases hv

theorem coordinatesAt_eq {h : Heap F} {entries : List (String × Ref F)} {es : Entries F}
    (hentries : RepresentsEntries h entries es) : coordinatesAt entries = coordinates es := by
  unfold coordinatesAt coordinates
  rcases represents_getEntry "latitude" hentries with ⟨hat, hget⟩ | ⟨r, lat, hat, hget, hr⟩
  · rw [hat, hget]
  · rcases represents_getEntry "longitude" hentries with ⟨hat', hget'⟩ | ⟨r', lon, hat', hget', hr'⟩
    · rw [hat, hget, hat', hget']
    · obtain ⟨hlat, hlat'⟩ := isNumber_leafOf hr
      obtain ⟨hlon, hlon'⟩ := isNumber_leafOf hr'
      rw [hat, hget, hat', hget']
      simp only [hlat, hlon]
      split
      · rename_i hnumbers
        rw [Bool.and_eq_true] at hnumbers
        rw [hlat' hnumbers.1, hlon' hnumbers.2]
      · rfl

end Numbers

/-! ### What the objects stand for -/

/-- The computation raises where nothing is expected, and otherwise its result stands
    for what is expected; the objects it started with stay. -/
def Finds {β γ : Type} (stands : Heap F → β → γ → Prop) (m : Run F β) (h : Heap F) :
    Option γ → Prop
  | none => (m h).1 = none
  | some c => ∃ b h', m h = (some b, h') ∧ h <+: h' ∧ stands h' b c

theorem Finds.bind {β γ β' γ' : Type} {stands : Heap F → β → γ → Prop}
    {stands' : Heap F → β' → γ' → Prop} {m : Run F β} {next : β → Run F β'} {h : Heap F}
    {c : Option γ} {c' : Option γ'} (hm : Finds stands m h c) (hraise : c = none → c' = none)
    (hnext : ∀ b h' d, c = some d → h <+: h' → stands h' b d → Finds stands' (next b) h' c') :
    Finds stands' (m >>= next) h c' := by
  cases c with
  | none =>
    rw [hraise rfl]
    change (m h).1 = none at hm
    change ((m >>= next) h).1 = none
    rw [bind_apply]
    rcases heq : m h with ⟨_ | b, h'⟩
    · rfl
    · rw [heq] at hm
      cases hm
  | some d =>
    obtain ⟨b, h', heq, hgrow, hb⟩ := hm
    have hnext := hnext b h' d rfl hgrow hb
    cases c' with
    | none =>
      change ((m >>= next) h).1 = none
      rw [bind_apply, heq]
      exact hnext
    | some d' =>
      obtain ⟨b', h'', heq', hgrow', hb'⟩ := hnext
      refine ⟨b', h'', ?_, hgrow.trans hgrow', hb'⟩
      rw [bind_apply, heq]
      exact heq'

theorem finds_pure {β γ : Type} {stands : Heap F → β → γ → Prop} {h : Heap F} {b : β} {c : γ}
    (hb : stands h b c) : Finds stands (pure b : Run F β) h (some c) :=
  ⟨b, h, rfl, List.prefix_refl h, hb⟩

theorem finds_read {h : Heap F} {address : Nat} {o : Object F} (ho : h[address]? = some o) :
    Finds (fun _ o' (_ : Unit) => o' = o) (read address) h (some ()) :=
  ⟨o, h, congrArg (fun o => (o, h)) ho, List.prefix_refl h, rfl⟩

theorem finds_new {h : Heap F} {o : Object F} {v : Value F}
    (hv : ∀ h' : Heap F, h <+: h' → h'[h.length]? = some o →
      Represents h' (.object h.length) v) :
    Finds Represents (do return .object (← alloc o) : Run F (Ref F)) h (some v) :=
  ⟨.object h.length, h ++ [o], rfl, List.prefix_append _ _,
    hv _ (List.prefix_append _ _) (by simp)⟩

theorem finds_list {h : Heap F} {items : List (Ref F)} {vs : Values F}
    (hitems : RepresentsItems h items vs) :
    Finds Represents (do return .object (← alloc (.list items)) : Run F (Ref F)) h
      (some (.list vs)) :=
  finds_new fun _ hgrow ho => .list ho (hitems.mono hgrow)

theorem finds_dict {h : Heap F} {entries : List (String × Ref F)} {es : Entries F}
    (hentries : RepresentsEntries h entries es) :
    Finds Represents (do return .object (← alloc (.dict entries)) : Run F (Ref F)) h
      (some (.dict es)) :=
  finds_new fun _ hgrow ho => .dict ho (hentries.mono hgrow)

section Filtered

variable [ExactFloat F] {policy : LocationPolicy} {limit : Nat}

theorem finds_filterDictAt {h : Heap F} {entries : List (String × Ref F)} {es : Entries F}
    (hentries : RepresentsEntries h entries es) :
    Finds Represents (filterDictAt policy entries) h
      (if overflowsHere policy es then none else some (.dict (filterDict policy es))) := by
  have halloc : Finds (fun h' address (_ : Unit) => h'[address]? = some (Object.dict entries))
      (alloc (.dict entries)) h (some ()) :=
    ⟨h.length, h ++ [.dict entries], rfl, List.prefix_append _ _, by simp⟩
  refine halloc.bind nofun fun result h' _ _ hgrow hresult => ?_
  have hentries := hentries.mono hgrow
  have hremoved := represents_withoutLocation hentries
  unfold overflowsHere filterDict
  rw [coordinatesAt_eq hentries]
  cases hp : policy with
  | none => exact finds_dict hremoved
  | exact =>
    cases hcoordinates : coordinates es with
    | overflow => rfl
    | invalid => exact finds_dict hremoved
    | valid lat lon => exact finds_pure (.dict hresult hentries)
  | approximate =>
    cases hcoordinates : coordinates es with
    | overflow => rfl
    | invalid => exact finds_dict hremoved
    | valid lat lon =>
      obtain ⟨hlat, hlon⟩ := (coordinates_eq_valid_iff.mp hcoordinates).numbers
      simp only
      rw [alloc_write]
      exact finds_dict (represents_setEntry (represents_refOf _ hlon)
        (represents_setEntry (represents_refOf _ hlat) hremoved))

section

variable {f : Ref F → Run F (Ref F)}
  (hf : ∀ r v h, nesting v < limit → Represents h r v →
    Finds Represents (f r) h (if overflows policy v then none else some (filtered policy v)))

include hf

theorem finds_items : ∀ {h : Heap F} {refs : List (Ref F)} {vs : Values F},
    nestingItems vs < limit → RepresentsItems h refs vs →
      Finds RepresentsItems (each f refs) h
        (if overflowsItems policy vs then none else some (filteredItems policy vs))
  | _, _, _, _, .nil => finds_pure .nil
  | _, _, .cons v vs, hlimit, .cons hr hrest => by
    obtain ⟨hhead, htail⟩ := Nat.max_lt.mp hlimit
    refine (hf _ _ _ hhead hr).bind ?_ fun r' h' w hw hgrow hr' => ?_
    · cases hv : overflows policy v <;> simp [overflowsItems, hv]
    cases hv : overflows policy v with
    | true => simp [hv] at hw
    | false =>
      obtain rfl : filtered policy v = w := by simpa [hv] using hw
      refine (finds_items htail (hrest.mono hgrow)).bind ?_ fun refs' h'' ws hws hgrow' hrest' => ?_
      · cases hvs : overflowsItems policy vs <;> simp [overflowsItems, hv, hvs]
      cases hvs : overflowsItems policy vs with
      | true => simp [hvs] at hws
      | false =>
        obtain rfl : filteredItems policy vs = ws := by simpa [hvs] using hws
        simp only [overflowsItems, hv, hvs, filteredItems]
        exact finds_pure (.cons (hr'.mono hgrow') hrest')

theorem finds_entries : ∀ {h : Heap F} {refs : List (String × Ref F)} {es : Entries F},
    nestingEntries es < limit → RepresentsEntries h refs es →
      Finds RepresentsEntries
        (each (fun entry => do
          let r ← f entry.2
          return (entry.1, r)) refs) h
        (if overflowsEntries policy es then none else some (filteredEntries policy es))
  | _, _, _, _, .nil => finds_pure .nil
  | _, (k, r) :: _, .cons _ v es, hlimit, .cons hr hrest => by
    obtain ⟨hhead, htail⟩ := Nat.max_lt.mp hlimit
    have hentry : Finds (fun h (entry : String × Ref F) w => entry.1 = k ∧ Represents h entry.2 w)
        (do
          let r ← f r
          return (k, r)) _
        (if overflows policy v then none else some (filtered policy v)) :=
      (hf _ _ _ hhead hr).bind id fun r' h' w hw hgrow hr' => hw ▸ finds_pure ⟨rfl, hr'⟩
    refine hentry.bind ?_ fun entry h' w hw hgrow hr' => ?_
    · cases hv : overflows policy v <;> simp [overflowsEntries, hv]
    obtain ⟨rfl, hr'⟩ := hr'
    cases hv : overflows policy v with
    | true => simp [hv] at hw
    | false =>
      obtain rfl : filtered policy v = w := by simpa [hv] using hw
      refine (finds_entries htail (hrest.mono hgrow)).bind ?_
        fun refs' h'' ws hws hgrow' hrest' => ?_
      · cases hvs : overflowsEntries policy es <;> simp [overflowsEntries, hv, hvs]
      cases hvs : overflowsEntries policy es with
      | true => simp [hvs] at hws
      | false =>
        obtain rfl : filteredEntries policy es = ws := by simpa [hvs] using hws
        simp only [overflowsEntries, hv, hvs, filteredEntries]
        exact finds_pure (.cons (hr'.mono hgrow') hrest')

end

/-- **The filter on objects finds what the filter of trees gives.** -/
theorem finds_filteredAt (limit : Nat) {h : Heap F} {r : Ref F} {v : Value F}
    (hlimit : nesting v < limit) (hr : Represents h r v) :
    Finds Represents (filteredAt policy limit r) h
      (if overflows policy v then none else some (filtered policy v)) := by
  induction limit generalizing h r v with
  | zero => exact absurd hlimit (Nat.not_lt_zero _)
  | succ limit ih =>
    have hf : ∀ r v h, nesting v < limit → Represents h r v →
        Finds Represents (filteredAt policy limit r) h
          (if overflows policy v then none else some (filtered policy v)) :=
      fun r v h => ih
    unfold filteredAt
    cases hr with
    | @list address items vs ho hitems =>
      refine (finds_read ho).bind nofun fun o h' _ _ hgrow hread => ?_
      subst hread
      refine (finds_items hf (Nat.lt_of_succ_lt_succ hlimit) (hitems.mono hgrow)).bind ?_
        fun items' h'' ws hws hgrow' hitems' => ?_
      · cases hvs : overflowsItems policy vs <;> simp [overflows, hvs]
      cases hvs : overflowsItems policy vs with
      | true => simp [hvs] at hws
      | false =>
        obtain rfl : filteredItems policy vs = ws := by simpa [hvs] using hws
        simp only [overflows, hvs, filtered]
        exact finds_list hitems'
    | @dict address entries es ho hentries =>
      refine (finds_read ho).bind nofun fun o h' _ _ hgrow hread => ?_
      subst hread
      refine (finds_entries hf (Nat.lt_of_succ_lt_succ hlimit) (hentries.mono hgrow)).bind ?_
        fun entries' h'' ws hws hgrow' hentries' => ?_
      · cases hvs : overflowsEntries policy es <;> simp [overflows, hvs]
      cases hvs : overflowsEntries policy es with
      | true => simp [hvs] at hws
      | false =>
        obtain rfl : filteredEntries policy es = ws := by simpa [hvs] using hws
        have hhere : overflowsHere policy (filteredEntries policy es) =
            overflowsHere policy es := by
          unfold overflowsHere
          rw [coordinates_filteredEntries]
        have hdict := @finds_filterDictAt F _ policy _ _ _ hentries'
        rw [hhere] at hdict
        simp only [overflows, hvs, Bool.false_or, filtered]
        exact hdict
    | null => exact finds_pure .null
    | bool b => exact finds_pure (.bool b)
    | int n => exact finds_pure (.int n)
    | float x => exact finds_pure (.float x)
    | str s => exact finds_pure (.str s)

/-! ### The packet -/

/-- The decoded payload of a packet, `None` where it has none. -/
def payloadValue : Option (Entries F) → Value F
  | none => .null
  | some es => .dict es

/-- The payload object of `prepare_packet` stands for the payload of the prepared packet. -/
theorem finds_preparePayload (precision : String) {limit : Nat} {h : Heap F} {payload : Ref F}
    {v : Value F} (hlimit : nesting v < limit) (hpayload : Represents h payload v) :
    Finds Represents (preparePayload precision limit payload) h
      (if overflows (locationPolicy precision) v then none
        else some (filtered (locationPolicy precision) v)) := by
  have hcopied : Copied h [] h := ⟨List.prefix_refl h, nofun⟩
  obtain ⟨copied, memo, h', heq, hgrow, -, hcopy⟩ :=
    makes_deepcopy limit hlimit hpayload [] h hcopied
  have hdeepcopy : Finds (fun h p (v : Value F) => Represents h p.1 v) (deepcopy limit [] payload) h
      (some v) := ⟨(copied, memo), h', heq, hgrow, hcopy⟩
  exact hdeepcopy.bind nofun fun p h'' w hw _ hp => by
    cases hw
    exact finds_filteredAt limit hlimit hp

theorem overflows_eq_false_iff_beyondFloats {precision : String} {v : Value F} :
    overflows (locationPolicy precision) v = false ↔
      (precision = "exact" ∨ precision = "approximate" →
        AllDicts (fun es => ¬ BeyondFloats es) v) := by
  rw [overflows_eq_false_iff]
  by_cases hp : locationPolicy precision = .none
  · obtain ⟨hexact, happroximate⟩ := locationPolicy_eq_none_iff.mp hp
    refine iff_of_true (allDicts_of_forall (fun _ => Or.inl hp) v) ?_
    rintro (h | h)
    · exact absurd h hexact
    · exact absurd h happroximate
  · have hprecision : precision = "exact" ∨ precision = "approximate" := by
      rw [locationPolicy_eq_none_iff, not_and_or, not_not, not_not] at hp
      exact hp
    simp only [hp, false_or, hprecision, forall_const]

theorem preparePacket_eq (p : Packet F) (precision : String) : preparePacket p precision =
    if overflows (locationPolicy precision) (payloadValue p.decodedPayload) then none
    else some
      { p with
        decodedPayload := filteredPayload (locationPolicy precision) p.decodedPayload
        encryptedPayload := none
        rawAppPayload := none
        rawRadioPacket := none } := by
  unfold preparePacket
  cases p.decodedPayload with
  | none => rfl
  | some es => rfl

theorem payloadValue_filteredPayload (policy : LocationPolicy) (payload : Option (Entries F)) :
    payloadValue (filteredPayload policy payload) = filtered policy (payloadValue payload) := by
  cases payload with
  | none => rfl
  | some es => rfl

theorem filteredPayload_filteredPayload (policy : LocationPolicy) (payload : Option (Entries F)) :
    filteredPayload policy (filteredPayload policy payload) = filteredPayload policy payload := by
  cases payload with
  | none => rfl
  | some es =>
    have htwice := @filtered_filtered F _ policy (.dict es)
    simp only [filtered, Value.dict.injEq] at htwice
    exact congrArg some htwice

theorem preparePacket_payload {p q : Packet F} {precision : String}
    (h : preparePacket p precision = some q) :
    overflows (locationPolicy precision) (payloadValue p.decodedPayload) = false ∧
      payloadValue q.decodedPayload =
        filtered (locationPolicy precision) (payloadValue p.decodedPayload) := by
  rw [preparePacket_eq] at h
  split at h
  · cases h
  · rename_i hoverflows
    cases h
    exact ⟨by simpa using hoverflows, payloadValue_filteredPayload _ _⟩

theorem exists_preparePacket {p : Packet F} {precision : String}
    (h : overflows (locationPolicy precision) (payloadValue p.decodedPayload) = false) :
    ∃ q, preparePacket p precision = some q ∧ preparePacket q precision = some q := by
  refine ⟨_, by rw [preparePacket_eq, h]; rfl, ?_⟩
  have hagain := overflows_filtered h
  rw [preparePacket_eq, payloadValue_filteredPayload, hagain, filteredPayload_filteredPayload]
  rfl

/-- **The filter.**  No object of the payload that was given is changed.  The packet returned
    keeps what is no location at every position, has the locations its precision allows, and
    is its own preparation, exactly when the precision is unknown or no dictionary has an
    integer beyond the range of floats for a coordinate. -/
theorem prepared_iff (p : Packet F) (precision : String) {h : Heap F} {payload : Ref F}
    (hpayload : Represents h payload (payloadValue p.decodedPayload)) :
    (∀ limit, h <+: (preparePayload precision limit payload h).2) ∧
      ((∃ q, preparePacket p precision = some q ∧
          (∀ limit, nesting (payloadValue p.decodedPayload) < limit → ∃ r h',
            preparePayload precision limit payload h = (some r, h') ∧
              Represents h' r (payloadValue q.decodedPayload)) ∧
          Scrubbed precision (payloadValue p.decodedPayload) (payloadValue q.decodedPayload) ∧
          preparePacket q precision = some q) ↔
        (precision = "exact" ∨ precision = "approximate" →
          AllDicts (fun es => ¬ BeyondFloats es) (payloadValue p.decodedPayload))) := by
  refine ⟨fun limit => grows_preparePayload precision limit payload h, ?_⟩
  rw [← overflows_eq_false_iff_beyondFloats]
  constructor
  · rintro ⟨q, hq, -⟩
    exact (preparePacket_payload hq).1
  · intro hoverflows
    obtain ⟨q, hq, hagain⟩ := exists_preparePacket hoverflows
    have hvalue := (preparePacket_payload hq).2
    refine ⟨q, hq, fun limit hlimit => ?_, ?_, hagain⟩
    · have hfinds := finds_preparePayload precision hlimit hpayload
      rw [hoverflows] at hfinds
      obtain ⟨r, h', heq, -, hr⟩ := hfinds
      exact ⟨r, h', heq, hvalue ▸ hr⟩
    · rw [hvalue]
      exact scrubbed_filtered precision _

end Filtered

def broadcastOf (payload : Entries WholeFloat) : Packet WholeFloat where
  packetId := "12345678"
  sourceId := "11223344"
  destinationId := "ffffffff"
  protocol := .meshtastic
  packetType := .position
  decodedPayload := some payload
  timestamp := 1700000000000000

def nestedPosition : Entries WholeFloat := Entries.ofList
  [("temperature", .int 21), ("position", .dict (Entries.ofList
    [("latitude", .float ⟨48⟩), ("longitude", .float ⟨11⟩), ("altitude", .int 200)]))]

def nestedHeap : Heap WholeFloat :=
  [.dict [("latitude", .float ⟨48⟩), ("longitude", .float ⟨11⟩), ("altitude", .int 200)],
    .dict [("temperature", .int 21), ("position", .object 0)]]

theorem prepared_iff_position :
    Represents nestedHeap (.object 1) (payloadValue (broadcastOf nestedPosition).decodedPayload) ∧
      (∀ limit, nestedHeap <+: (preparePayload "approximate" limit (.object 1) nestedHeap).2) ∧
      ∃ q, preparePacket (broadcastOf nestedPosition) "approximate" = some q ∧
        Scrubbed "approximate" (.dict nestedPosition) (payloadValue q.decodedPayload) ∧
        preparePacket q "approximate" = some q := by
  have hposition : Represents nestedHeap (.object 0) (.dict (Entries.ofList
      [("latitude", .float ⟨48⟩), ("longitude", .float ⟨11⟩), ("altitude", .int 200)])) :=
    .dict rfl (.cons (.float _) (.cons (.float _) (.cons (.int _) .nil)))
  have hpayload : Represents nestedHeap (.object 1) (.dict nestedPosition) :=
    .dict rfl (.cons (.int _) (.cons hposition .nil))
  obtain ⟨hkept, hiff⟩ := prepared_iff (broadcastOf nestedPosition) "approximate" hpayload
  obtain ⟨q, hq, -, hscrubbed, hagain⟩ :=
    hiff.mpr (overflows_eq_false_iff_beyondFloats.mp (by decide +kernel))
  exact ⟨hpayload, hkept, q, hq, hscrubbed, hagain⟩

def wholePosition (lat lon : Int) : Entries WholeFloat :=
  Entries.ofList [("latitude", .int lat), ("longitude", .int lon)]

/-- A latitude that no float is makes `prepare_packet` raise. -/
theorem huge_latitude_raises :
    preparePacket (broadcastOf (wholePosition (10 ^ 309) 0)) "approximate" = none := by
  have hraises : overflows (locationPolicy "approximate")
      (payloadValue (broadcastOf (wholePosition (10 ^ 309) 0)).decodedPayload) = true := by
    decide +kernel
  rw [preparePacket_eq, hraises]
  rfl

end Meshpoint.SharedPayload
