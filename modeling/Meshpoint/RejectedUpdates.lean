import Meshpoint.ConfigUpdates

/-!
# Updates that are rejected

When a rejected update leaves the configuration, the key table and `local.yaml` as they were
(`changesNothing_iff`): where every field that is assigned before the rejection has its value
already, the sections saved before it leave the text of the file as it is, and a key that is not
base64 comes after the keys that are in the table.
-/

namespace Meshpoint.ConfigUpdates

open ConfigFile GuardedAssignments
open ChannelConfig (expandWith)
open ChannelKeys (expandKey)
open ByteCodec (b64decode)
open ChannelUpdates (ChannelEntry LiveState refreshChannelHashMap requestedConfig requestedKeys)

section

variable {F : Type}

/-- The configuration, the key table and the file are as before. -/
def ChangesNothing (s s' : Server F) : Prop :=
  s'.config = s.config ∧ s'.table = s.table ∧ s'.file = s.file

/-- How many of `n` saves are made before one is not. -/
def wentThrough : List SaveOutcome → Nat → Nat
  | _, 0 => 0
  | outcomes, n + 1 =>
    match outcomes.headD .completed with
    | .completed => wentThrough outcomes.tail n + 1
    | _ => 0

def savedFile (lib : YamlLib String (Scalar F)) (calls : List (Call String (Scalar F)))
    (file : Option Text) : Option Text :=
  calls.foldl (fun file call => fileAfter lib call file .completed) file

/-! ### The condition -/

/-- Every field that is set before the first refusal has its value already, and where no field is
    refused the sections saved before the refused save leave the file as it is. -/
def Update.Untouched (lib : YamlLib String (Scalar F)) (u : Update F)
    (outcomes : List SaveOutcome) (s : Server F) : Prop :=
  Already u.rules s.config ∧
    (Accepts u.rules s.config →
      let calls := u.calls s.config (asked u.rules s.config)
      savedFile lib (calls.take (wentThrough outcomes calls.length)) s.file = s.file)

def decodable (keys : OrderedDict String String) : List (String × String) :=
  keys.items.takeWhile fun entry => (b64decode entry.2).isSome

/-- With `n` saves made: the last primary name assigned by then is the current one, and so are the
    keys if they were assigned; the saves leave the file as it is; and if all are made, the table
    has exactly the keys before the first that is not base64. -/
def ChannelsUntouched (lib : YamlLib String (Scalar F)) (channels : List ChannelEntry)
    (outcomes : List SaveOutcome) (s : Server F) : Prop :=
  let names := primaryNames channels
  let calls := (channelStores channels).map Store.call
  let n := wentThrough outcomes calls.length
  (∀ name ∈ (names.take (n + 1)).getLast?, s.config .primaryChannelName = name) ∧
    (names.length ≤ n → s.config .channelKeys = requestedKeys channels) ∧
      savedFile lib (calls.take n) s.file = s.file ∧
        (n = calls.length → ∀ table ∈ s.table,
          expandWith b64decode (decodable (requestedKeys channels)) = some table.keys.items)

/-! ### Saves in turn -/

variable {lib : YamlLib String (Scalar F)} {outcomes : List SaveOutcome} {s s' : Server F}

theorem save_eq_none {call : Call String (Scalar F)} {file file' : Option Text}
    (h : save lib call file .completed = (file', none)) :
    file' = fileAfter lib call file .completed := by
  simp only [save] at h
  split at h
  · cases h
  · rename_i text htext
    obtain ⟨document, hdocument, hdump⟩ := Option.bind_eq_some_iff.mp htext
    cases h
    simp only [fileAfter, hdocument, hdump, Option.getD_some]

/-- Stores that end without an exception: what is assigned up to the refused save stays, and so
    does what was saved before it. -/
theorem storeAll_spec {stores : List (Store F)} {refused : Option Failure}
    (h : storeAll lib stores outcomes s = (s', refused))
    (hrefused : ∀ e ∈ refused, e.rejects = true) :
    s'.config = ((stores.take (wentThrough outcomes stores.length + 1)).map Store.write).foldl
        (fun config write => assign write config) s.config ∧
      s'.table = s.table ∧
        s'.file = savedFile lib
          ((stores.map Store.call).take (wentThrough outcomes stores.length)) s.file ∧
          (refused = none ↔ wentThrough outcomes stores.length = stores.length) := by
  induction stores generalizing outcomes s with
  | nil =>
    cases h
    exact ⟨rfl, rfl, rfl, iff_of_true rfl rfl⟩
  | cons store rest ih =>
    simp only [storeAll] at h
    simp only [List.length_cons, wentThrough, List.take_succ_cons, List.map_cons, List.foldl_cons]
    cases houtcome : outcomes.headD .completed with
    | completed =>
      rw [houtcome] at h
      split at h
      · rename_i file e hsave
        -- a document that cannot be read or written is no rejection
        cases h
        simp only [save] at hsave
        split at hsave
        · cases hsave
          cases hrefused _ rfl
        · cases hsave
      · rename_i file hsave
        obtain ⟨hconfig, htable, hfile, hnone⟩ := ih h
        refine ⟨hconfig, htable, ?_, hnone.trans (Nat.add_right_cancel_iff).symm⟩
        rw [hfile, save_eq_none hsave]
        rfl
    | denied message =>
      rw [houtcome] at h
      cases h
      exact ⟨rfl, rfl, rfl, by simp⟩
    | raised ending =>
      rw [houtcome] at h
      cases h
      cases hrefused _ rfl

theorem foldl_assign_none (calls : List (Call String (Scalar F))) (config : Config F) :
    ((calls.map (Store.mk none)).map Store.write).foldl
      (fun config write => assign write config) config = config := by
  induction calls with
  | nil => rfl
  | cons call rest ih => exact ih

/-! ### Handlers that check and assign, then save -/

/-- **A rejected update** changes nothing exactly where it is untouched. -/
theorem Update.unchanged_iff {u : Update F} {e : Failure}
    (hlasting : u.rules.Pairwise (Lasting s.config))
    (h : u.handle lib outcomes s = (s', .error e)) (he : e.rejects = true) :
    ChangesNothing s s' ↔ u.Untouched lib outcomes s := by
  have hstate := assignAll_state_eq_iff hlasting
  simp only [Update.handle] at h
  split at h
  · rename_i e' hrefused
    cases h
    simp only [ChangesNothing, Update.Untouched, and_true, hstate]
    refine (and_iff_left_of_imp ?_).symm
    intro halready haccepts
    have hnone := (assignAll_of_already halready).2.1.mpr haccepts
    rw [hrefused] at hnone
    cases hnone
  · rename_i hrefused
    split at h
    · rename_i s₁ e' hstore
      cases h
      obtain ⟨hconfig, htable, hfile, -⟩ := storeAll_spec hstore (by simpa using he)
      rw [← List.map_take, foldl_assign_none] at hconfig
      simp only [ChangesNothing, Update.Untouched, hconfig, htable, hfile, hstate, true_and]
      refine and_congr_right fun halready => ?_
      obtain ⟨hsame, haccepts, hwrites⟩ := assignAll_of_already halready
      have hcall : (Store.call ∘ Store.mk none : Call String (Scalar F) → _) = id := rfl
      simp only [haccepts.mp hrefused, true_imp_iff, hsame, hwrites hrefused, List.length_map,
        List.map_map, hcall, List.map_id]
    · cases h

theorem Update.validated_unchanged_iff {u : Update F} {valid : Bool} {e : Failure}
    (hlasting : u.rules.Pairwise (Lasting s.config))
    (h : (if valid then u.handle lib outcomes s else (s, .error .invalidField)) = (s', .error e))
    (he : e.rejects = true) :
    ChangesNothing s s' ↔ (valid = true → u.Untouched lib outcomes s) := by
  split at h
  · rename_i hvalid
    exact (Update.unchanged_iff hlasting h he).trans (imp_iff_right hvalid).symm
  · rename_i hvalid
    cases h
    exact iff_of_true ⟨rfl, rfl, rfl⟩ fun h => absurd h hvalid

/-! ### Which rules last -/

theorem lasting_of_ne {c : Config F} {r later : Rule F} (h : later.field ≠ r.field) :
    Lasting c r later :=
  fun hfield => absurd hfield h

theorem pairwise_lasting {c : Config F} {rules : List (Rule F)}
    (h : (rules.map Rule.field).Nodup) : rules.Pairwise (Lasting c) :=
  (List.pairwise_map.mp h).imp fun hne => lasting_of_ne (Ne.symm hne)

theorem lasting_require {c : Config F} (f : Field) (check : Except Failure Unit) (later : Rule F) :
    Lasting c (require f check) later := by
  rintro - ⟨v, hask, -⟩
  cases check <;> cases hask

def liveFields : List (List Field) :=
  [[.source, .gpsdHost, .gpsdPort, .updateIntervalSeconds, .minFixQuality],
    [.source, .gpsdHost, .gpsdPort, .updateIntervalSeconds, .minFixQuality,
      .latitude, .longitude, .altitude],
    [.source, .uartDevice, .uartBaud],
    [.source, .uartDevice, .uartBaud, .latitude, .longitude, .altitude]]

theorem sourceRules_fields (req : GpsUpdate F) :
    (∃ check rest, sourceRules req = require .latitude check :: rest ∧
        rest.map Rule.field = [.latitude, .longitude, .altitude, .source]) ∨
      (sourceRules req).map Rule.field ∈ liveFields := by
  simp only [sourceRules]
  split
  · exact Or.inl ⟨_, _, rfl, rfl⟩
  · refine Or.inr ?_
    simp only [pairedPin]
    split <;> split <;> simp [liveFields, pin, setField, setChanged]

theorem sourceRules_lasting (c : Config F) (req : GpsUpdate F) :
    (sourceRules req).Pairwise (Lasting c) ∧
      ∀ r ∈ sourceRules req, r.field ∉ [Field.coordinateSource, .locationPrecision] := by
  rcases sourceRules_fields req with ⟨check, rest, hrules, hfields⟩ | hfields
  · have hdistinct : (rest.map Rule.field).Nodup := by
      rw [hfields]
      decide
    have hmesh : ∀ f ∈ rest.map Rule.field, f ∉ [Field.coordinateSource, .locationPrecision] := by
      rw [hfields]
      decide
    rw [hrules]
    refine ⟨List.pairwise_cons.mpr ⟨?_, pairwise_lasting hdistinct⟩, ?_⟩
    · intro later _
      exact lasting_require _ check later
    · rw [List.forall_mem_cons]
      refine ⟨by simp [require], ?_⟩
      intro r hr
      exact hmesh r.field (List.mem_map_of_mem hr)
  · have hlive : ∀ fields ∈ liveFields,
        fields.Nodup ∧ ∀ f ∈ fields, f ∉ [Field.coordinateSource, .locationPrecision] := by
      decide
    obtain ⟨hdistinct, hmesh⟩ := hlive _ hfields
    refine ⟨pairwise_lasting hdistinct, ?_⟩
    intro r hr
    exact hmesh r.field (List.mem_map_of_mem hr)

theorem ensure_bind {α : Type} {ok : Bool} {status : Nat} {detail : String}
    {rest : Unit → Except Failure α} {a : α} :
    (ensure ok status detail >>= rest) = .ok a ↔ ok = true ∧ rest () = .ok a := by
  cases ok with
  | true => exact (and_iff_right rfl).symm
  | false =>
    constructor
    · intro h
      cases h
    · rintro ⟨h, -⟩
      cases h

theorem endLive_asks {c : Config F} {req : GpsUpdate F} {v : String}
    (h : (endLive req).ask c = .ok (some v)) :
    req.source = "static" ∧ c .coordinateSource = "live" := by
  simp only [endLive] at h
  split at h
  · assumption
  · cases h

theorem meshCoordinateSource_asks {c : Config F} {env : Env F} {req : GpsUpdate F} {v : String}
    (h : (meshCoordinateSource env req).ask c = .ok (some v)) :
    ¬ (v = "live" ∧ req.source = "static") := by
  simp only [meshCoordinateSource] at h
  split at h
  · cases h
  · rename_i meshSource _
    obtain ⟨-, h⟩ := ensure_bind.mp h
    obtain ⟨hlive, h⟩ := ensure_bind.mp h
    split at h <;> cases h
    rintro ⟨rfl, hstatic⟩
    simp [hstatic] at hlive

theorem lasting_endLive (c : Config F) (env : Env F) (req : GpsUpdate F) :
    Lasting c (endLive req) (meshCoordinateSource env req) := by
  rintro - ⟨v, hask, -⟩ c' v' - hask' hv'
  obtain ⟨hstatic, hlive⟩ := endLive_asks hask
  exact meshCoordinateSource_asks hask' ⟨hv'.trans hlive, hstatic⟩

theorem updateGps_lasting (c : Config F) (env : Env F) (req : GpsUpdate F) :
    (updateGps env req).rules.Pairwise (Lasting c) := by
  obtain ⟨hsource, hmesh⟩ := sourceRules_lasting c req
  refine List.pairwise_cons.mpr ⟨fun later _ => lasting_require _ _ later, ?_⟩
  refine List.pairwise_append.mpr ⟨hsource, ?_, ?_⟩
  · have hprecision : Lasting c (endLive req) (meshLocationPrecision env req) :=
      lasting_of_ne (by simp [endLive, meshLocationPrecision])
    have hprecision' : Lasting c (meshCoordinateSource env req) (meshLocationPrecision env req) :=
      lasting_of_ne (by simp [meshCoordinateSource, meshLocationPrecision])
    simp [hprecision, hprecision', lasting_endLive]
  · intro r hr later hlater
    refine lasting_of_ne fun hfield => hmesh r hr ?_
    rw [← hfield]
    simp only [List.mem_cons, List.not_mem_nil, or_false] at hlater
    rcases hlater with rfl | rfl | rfl <;>
      simp [endLive, meshCoordinateSource, meshLocationPrecision]

/-! ### `PUT /channels` -/

theorem foldl_primary (names : List String) (config : Config F) :
    ((names.map fun name => (store ⟨.primaryChannelName, name⟩ : Store F)).map Store.write).foldl
      (fun config write => assign write config) config =
        put .primaryChannelName names.getLast? config := by
  induction names generalizing config with
  | nil => rfl
  | cons name rest ih =>
    rw [List.map_cons, List.map_cons, List.foldl_cons, ih, List.getLast?_cons]
    cases rest.getLast? with
    | none => rfl
    | some last => exact Function.update_idem _ _ _

theorem foldl_channelStores (channels : List ChannelEntry) (config : Config F) :
    ((channelStores channels).map Store.write).foldl (fun config write => assign write config)
        config =
      Function.update (put .primaryChannelName (primaryNames channels).getLast? config)
        .channelKeys (requestedKeys channels) := by
  rw [channelStores, List.map_append, List.foldl_append, foldl_primary]
  rfl

theorem put_eq_iff {f : Field} {value : Option (f.Value F)} {config : Config F} :
    put f value config = config ↔ ∀ v ∈ value, config f = v := by
  cases value with
  | none => simp [put]
  | some v => simp [put, eq_comm]

theorem update_put_eq_iff {f g : Field} (hne : f ≠ g) {value : Option (f.Value F)}
    {v : g.Value F} {config : Config F} :
    Function.update (put f value config) g v = config ↔
      (∀ v ∈ value, config f = v) ∧ config g = v := by
  constructor
  · intro h
    have hg := congrFun h g
    rw [Function.update_self] at hg
    refine ⟨put_eq_iff.mp ?_, hg.symm⟩
    funext i
    by_cases hi : i = g
    · subst hi
      exact put_of_ne hne.symm value config
    · rw [← congrFun h i, Function.update_of_ne hi]
  · rintro ⟨hvalue, rfl⟩
    rw [put_eq_iff.mpr hvalue, Function.update_eq_self]

theorem channelStores_eq_iff (channels : List ChannelEntry) (n : Nat) (config : Config F) :
    (((channelStores channels).take (n + 1)).map Store.write).foldl
        (fun config write => assign write config) config = config ↔
      (∀ name ∈ ((primaryNames channels).take (n + 1)).getLast?,
          config .primaryChannelName = name) ∧
        ((primaryNames channels).length ≤ n → config .channelKeys = requestedKeys channels) := by
  by_cases hn : (primaryNames channels).length ≤ n
  · have hlength : (channelStores channels : List (Store F)).length ≤ n + 1 := by
      simpa [channelStores] using hn
    rw [List.take_of_length_le hlength, List.take_of_length_le (Nat.le_succ_of_le hn),
      foldl_channelStores, update_put_eq_iff (by decide)]
    simp only [hn, true_imp_iff]
  · have hlength : n + 1 ≤ ((primaryNames channels).map fun name =>
        (store ⟨.primaryChannelName, name⟩ : Store F)).length := by
      rw [List.length_map]
      omega
    rw [channelStores, List.take_append_of_le_length hlength, ← List.map_take, foldl_primary,
      put_eq_iff]
    simp only [hn, false_imp_iff, and_true]

theorem addKeysUntil_items {table : KeyTable} {entries : List (String × String)}
    (hnodup : (table.keys.keys ++ entries.map Prod.fst).Nodup) :
    ∃ added, expandWith b64decode
        (entries.takeWhile fun entry => (b64decode entry.2).isSome) = some added ∧
      (addKeysUntil table entries).1.defaultKey = table.defaultKey ∧
        (addKeysUntil table entries).1.keys.items = table.keys.items ++ added := by
  induction entries generalizing table with
  | nil => exact ⟨[], rfl, rfl, (List.append_nil _).symm⟩
  | cons entry rest ih =>
    obtain ⟨name, keyB64⟩ := entry
    simp only [addKeysUntil, KeyTable.addChannelKey, List.takeWhile_cons]
    cases hdecode : b64decode keyB64 with
    | none => exact ⟨[], by simp [expandWith], rfl, (List.append_nil _).symm⟩
    | some raw =>
      have hnew : name ∉ table.keys.keys := fun hmem =>
        (List.nodup_cons.mp (List.nodup_middle.mp hnodup)).1 (List.mem_append_left _ hmem)
      have hitems := OrderedDict.items_set_of_not_mem table.keys (expandKey raw) hnew
      have hrest : ((table.keys.set name (expandKey raw)).keys ++ rest.map Prod.fst).Nodup := by
        rw [OrderedDict.keys, hitems, List.map_append, List.append_assoc]
        exact hnodup
      obtain ⟨added, hexpand, hdefault, hadded⟩ :=
        @ih { table with keys := table.keys.set name (expandKey raw) } hrest
      refine ⟨(name, expandKey raw) :: added, ?_, hdefault, ?_⟩
      · simp [expandWith, hdecode, hexpand]
      · simp only [Option.map_some]
        rw [hadded, hitems, List.append_assoc]
        rfl

/-- The table after the keys are cleared and added again, up to the first that is not base64. -/
theorem addKeysUntil_eq_iff (table : KeyTable) (keys : OrderedDict String String) :
    (addKeysUntil table.clearChannelKeys keys.items).1 = table ↔
      expandWith b64decode (decodable keys) = some table.keys.items := by
  have hnodup : (table.clearChannelKeys.keys.keys ++ keys.items.map Prod.fst).Nodup :=
    keys.nodupKeys
  obtain ⟨added, hexpand, hdefault, hitems⟩ := addKeysUntil_items hnodup
  rw [decodable, hexpand, Option.some.injEq]
  constructor
  · intro h
    rw [h] at hitems
    exact hitems.symm
  · intro h
    exact congrArg₂ KeyTable.mk hdefault (OrderedDict.ext_items (hitems.trans h))

/-- **Rejected channels** change nothing exactly where they are untouched. -/
theorem channels_unchanged_iff {channels : List ChannelEntry} {e : Failure}
    (h : updateChannels lib channels outcomes s = (s', .error e)) (he : e.rejects = true) :
    ChangesNothing s s' ↔ ChannelsUntouched lib channels outcomes s := by
  have hlength : ((channelStores channels : List (Store F)).map Store.call).length =
      (channelStores channels : List (Store F)).length := List.length_map _
  simp only [updateChannels] at h
  split at h
  · rename_i s₁ e' hstore
    cases h
    obtain ⟨hconfig, htable, hfile, hall⟩ := storeAll_spec hstore (by simpa using he)
    have hsome : wentThrough outcomes (channelStores channels : List (Store F)).length ≠
        (channelStores channels : List (Store F)).length := fun hn => by cases hall.mpr hn
    simp only [ChangesNothing, ChannelsUntouched, hconfig, htable, hfile, hlength,
      channelStores_eq_iff, hsome, false_imp_iff, and_true, true_and, and_assoc]
  · rename_i s₁ hstore
    obtain ⟨hconfig, htable, hfile, hall⟩ := storeAll_spec hstore (by simp)
    split at h
    · cases h
    · rename_i table htable'
      split at h
      · cases h
      · rename_i table' hadd
        cases h
        have htable₀ : s.table = some table := htable.symm.trans htable'
        have hfirst : (addKeysUntil table.clearChannelKeys (requestedKeys channels).items).1 =
            table' := by rw [hadd]
        simp only [ChangesNothing, ChannelsUntouched, hconfig, hfile, hlength,
          channelStores_eq_iff, hall.mp rfl, true_imp_iff, and_assoc, htable₀, Option.mem_def,
          Option.some.injEq, forall_eq', ← addKeysUntil_eq_iff, hfirst]
        tauto

/-- `update_channels` leaves the keys and the table that `ChannelUpdates.updateChannels` says. -/
theorem updateChannels_agrees {channels : List ChannelEntry} {answer : Answer F}
    {live : LiveState} (htable : s.table = some live.table)
    (hprimary : s.config .primaryChannelName = live.config.primaryChannelName)
    (h : updateChannels lib channels outcomes s = (s', .ok answer)) :
    ∃ live', ChannelUpdates.updateChannels live channels = some live' ∧
      s'.table = some live'.table ∧
        s'.config .primaryChannelName = live'.config.primaryChannelName ∧
          s'.config .channelKeys = live'.config.meshtasticKeys := by
  simp only [updateChannels] at h
  split at h
  · cases h
  · rename_i s₁ hstore
    obtain ⟨hconfig, htable₁, -, hall⟩ := storeAll_spec hstore (by simp)
    rw [hall.mp rfl, List.take_of_length_le (Nat.le_succ _), foldl_channelStores] at hconfig
    simp only [htable₁, htable] at h
    split at h
    · rename_i table hadd
      cases h
      have hlive : ChannelUpdates.updateChannels live channels =
          some (refreshChannelHashMap
            { live with
              config := requestedConfig channels live.config
              file := requestedConfig channels live.file
              table := table }) := by
        rw [ChannelUpdates.updateChannels, requestedConfig, addKeys_eq_some_iff.mpr hadd]
        rfl
      refine ⟨_, hlive, rfl, ?_, ?_⟩
      · rw [hconfig, Function.update_of_ne (by decide), put_self, hprimary]
        exact (requestedPrimary_eq channels _).symm
      · rw [hconfig, Function.update_self]
        rfl
    · cases h

/-! ### All requests -/

variable [SettingFloat F]

/-- The condition on a request, in the state that it meets. -/
def Untouched (env : Env F) (s : Server F) (outcomes : List SaveOutcome) : Request F → Prop
  | .transmit req => (updateTransmit req).Untouched env.lib outcomes s
  | .identity req => (updateIdentity req : Update F).Untouched env.lib outcomes s
  | .dashboard req => (updateDashboard env req).Untouched env.lib outcomes s
  | .channels entries => ChannelsUntouched env.lib entries outcomes s
  | .gps req => req.valid = true → (updateGps env req).Untouched env.lib outcomes s
  | .relay req => req.valid = true → (updateRelay req).Untouched env.lib outcomes s

/-- **Rejected requests.**  A request that is answered with an error leaves the configuration, the
    key table and `local.yaml` as they were exactly where it is untouched. -/
theorem changesNothing_iff {env : Env F} {request : Request F} {e : Failure}
    (h : handle env s outcomes request = (s', .error e)) (he : e.rejects = true) :
    ChangesNothing s s' ↔ Untouched env s outcomes request := by
  cases request with
  | transmit req =>
    refine Update.unchanged_iff (pairwise_lasting ?_) h he
    exact (by decide : [Field.txEnabled, .txPowerDbm, .maxDutyCyclePercent, .hopLimit,
      .relayEnabled, .maxRelayPerMinute].Nodup)
  | identity req =>
    refine Update.unchanged_iff (pairwise_lasting ?_) h he
    exact (by decide : [Field.longName, .shortName, .nodeId].Nodup)
  | dashboard req =>
    refine Update.unchanged_iff (pairwise_lasting ?_) h he
    exact (by decide : [Field.webTerminalEnabled, .mapTileUrl, .landingPage].Nodup)
  | channels entries => exact channels_unchanged_iff h he
  | gps req =>
    exact Update.validated_unchanged_iff (updateGps_lasting s.config env req) h he
  | relay req =>
    refine Update.validated_unchanged_iff (pairwise_lasting ?_) h he
    exact (by decide : [Field.relayEnabled, .serialPort, .serialBaud, .maxRelayPerMinute,
      .burstSize, .minRelayRssi, .maxRelayRssi].Nodup)

end

/-! ### A server with the default configuration -/

def defaultConfig : Config ℚ
  | .txEnabled => false
  | .nodeId => none
  | .txPowerDbm => (14 : Int)
  | .maxDutyCyclePercent => none
  | .longName => "Meshpoint"
  | .shortName => "MPNT"
  | .hopLimit => (3 : Int)
  | .intervalMinutes => (15 : Int)
  | .startupDelaySeconds => (180 : Int)
  | .coordinateSource => "static"
  | .locationPrecision => "approximate"
  | .relayEnabled => false
  | .serialPort => none
  | .serialBaud => (115200 : Int)
  | .maxRelayPerMinute => (20 : Int)
  | .burstSize => (5 : Int)
  | .minRelayRssi => (-110 : ℚ)
  | .maxRelayRssi => (-50 : ℚ)
  | .webTerminalEnabled => false
  | .webTerminalToggle => false
  | .mapTileUrl => "https://tile.openstreetmap.org/\x7bz\x7d/\x7bx\x7d/\x7by\x7d.png"
  | .landingPage => "dashboard"
  | .primaryChannelName => "LongFast"
  | .channelKeys => .empty
  | .source => "static"
  | .gpsdHost => "127.0.0.1"
  | .gpsdPort => (2947 : Int)
  | .uartDevice => "/dev/ttyAMA0"
  | .uartBaud => (9600 : Int)
  | .uartEnableGpios => []
  | .updateIntervalSeconds => (5 : Int)
  | .minFixQuality => (1 : Int)
  | .latitude => none
  | .longitude => none
  | .altitude => none

def defaultServer : Server ℚ := ⟨defaultConfig, none, none, none⟩

def noPlugins : Env ℚ := ⟨⟨fun _ => none, fun _ => none, fun _ => true⟩, id, id, []⟩

/-- Switching off what is off, where the file cannot be written. -/
theorem changesNothing_iff_denied :
    ∃ s', handle noPlugins defaultServer [.denied "Cannot write"]
        (.transmit { enabled := some false }) =
        (s', .error (.http ⟨403, "Cannot write"⟩)) ∧ ChangesNothing defaultServer s' := by
  have hanswer : handle noPlugins defaultServer [.denied "Cannot write"]
      (.transmit { enabled := some false }) =
      (_, .error (.http ⟨403, "Cannot write"⟩)) := rfl
  refine ⟨_, hanswer, (changesNothing_iff hanswer rfl).mpr ⟨⟨rfl, trivial⟩, ?_⟩⟩
  intro _
  rfl

/-- A transmit power that is refused leaves the transmitter switched on. -/
theorem refused_power_enables :
    ∃ s', handle noPlugins defaultServer []
        (.transmit { enabled := some true, txPowerDbm := some 99 }) =
        (s', .error (.http ⟨400, "TX power must be 0-30 dBm"⟩)) ∧
      ¬ ChangesNothing defaultServer s' := by
  refine ⟨_, rfl, ?_⟩
  intro h
  have henabled : true = false := congrFun h.1 .txEnabled
  cases henabled

end Meshpoint.ConfigUpdates
