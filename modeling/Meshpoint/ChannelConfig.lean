import Meshpoint.ChannelKeys

/-!
# The channel configuration

The channel entries of the configuration file and the key table a start builds
from them (`_setup_channel_keys` of `src/coordinator.py`): Meshtastic keys are
base64 texts, MeshCore keys hexadecimal ones, and both end up in the one table of
the crypto service, where a MeshCore channel with a name already present replaces
that entry's key in place.
-/

namespace Meshpoint

open ByteCodec ChannelKeys

/-- `meshtastic.*` and `meshcore.channel_keys` of the configuration. -/
structure ChannelConfig where
  defaultKeyB64 : String
  primaryChannelName : String
  meshtasticKeys : OrderedDict String String
  meshcoreKeys : OrderedDict String String
deriving DecidableEq

namespace ChannelConfig

/-- `add_channel_key` for each entry; `none` when one of them raises. -/
def addKeys (table : KeyTable) : List (String × String) → Option KeyTable
  | [] => some table
  | (name, keyB64) :: rest => (table.addChannelKey name keyB64).bind fun t => addKeys t rest

/-- `base64.b64encode(binascii.unhexlify(key)).decode()` for each entry. -/
def meshcoreEntries : List (String × String) → Option (List (String × String))
  | [] => some []
  | (name, keyHex) :: rest => do
    let raw ← unhexlify keyHex
    let entries ← meshcoreEntries rest
    return (name, b64encode raw) :: entries

/-- The keys of both protocols, added in this order. -/
def addAllKeys (table : KeyTable) (meshtastic meshcore : List (String × String)) :
    Option KeyTable := do
  let table ← addKeys table meshtastic
  let entries ← meshcoreEntries meshcore
  addKeys table entries

/-- `CryptoService(default_key_b64)` followed by `_setup_channel_keys`. -/
def setupChannelKeys (config : ChannelConfig) : Option KeyTable := do
  let table ← KeyTable.create config.defaultKeyB64
  addAllKeys table config.meshtasticKeys.items config.meshcoreKeys.items

/-! ### The table in closed form -/

/-- The expanded keys of encoded entries; `none` when one of them does not decode. -/
def expandWith (decode : String → Option Bytes) :
    List (String × String) → Option (List (String × AesKey))
  | [] => some []
  | (name, key) :: rest => do
    let raw ← decode key
    let expanded ← expandWith decode rest
    return (name, expandKey raw) :: expanded

theorem expandWith_names {decode : String → Option Bytes} {entries : List (String × String)}
    {expanded : List (String × AesKey)} (h : expandWith decode entries = some expanded) :
    expanded.map Prod.fst = entries.map Prod.fst := by
  induction entries generalizing expanded with
  | nil =>
    cases h
    rfl
  | cons entry rest ih =>
    simp only [expandWith, Option.bind_eq_bind, Option.bind_eq_some_iff] at h
    obtain ⟨raw, -, more, hmore, hcons⟩ := h
    cases hcons
    simp [ih hmore]

theorem mem_expandWith {decode : String → Option Bytes} {entries : List (String × String)}
    {expanded : List (String × AesKey)} (h : expandWith decode entries = some expanded)
    {name : String} {key : AesKey} :
    (name, key) ∈ expanded ↔
      ∃ text raw, (name, text) ∈ entries ∧ decode text = some raw ∧ key = expandKey raw := by
  induction entries generalizing expanded with
  | nil =>
    cases h
    simp
  | cons entry rest ih =>
    simp only [expandWith, Option.bind_eq_bind, Option.bind_eq_some_iff] at h
    obtain ⟨raw, hraw, more, hmore, hcons⟩ := h
    cases hcons
    rw [List.mem_cons, ih hmore]
    constructor
    · rintro (heq | ⟨text, raw', hmem, hdecode, hkey⟩)
      · obtain ⟨rfl, rfl⟩ := Prod.mk.inj heq
        exact ⟨entry.2, raw, List.mem_cons_self .., hraw, rfl⟩
      · exact ⟨text, raw', List.mem_cons_of_mem _ hmem, hdecode, hkey⟩
    · rintro ⟨text, raw', hmem, hdecode, hkey⟩
      rcases List.mem_cons.mp hmem with heq | hmem
      · obtain ⟨rfl, rfl⟩ : name = entry.1 ∧ text = entry.2 := by
          rw [← heq]
          exact ⟨rfl, rfl⟩
        rw [hraw, Option.some.injEq] at hdecode
        exact Or.inl (by rw [hkey, hdecode])
      · exact Or.inr ⟨text, raw', hmem, hdecode, hkey⟩

theorem addKeys_eq (table : KeyTable) (entries : List (String × String)) :
    addKeys table entries = (expandWith b64decode entries).map fun expanded =>
      { table with keys := table.keys.update expanded } := by
  induction entries generalizing table with
  | nil => rfl
  | cons entry rest ih =>
    obtain ⟨name, keyB64⟩ := entry
    simp only [addKeys, KeyTable.addChannelKey, expandWith]
    cases b64decode keyB64 with
    | none => rfl
    | some raw =>
      simp only [Option.map_some, Option.bind_some, ih, Option.bind_eq_bind]
      cases expandWith b64decode rest <;> rfl

theorem expandWith_meshcoreEntries (entries : List (String × String)) :
    (meshcoreEntries entries).bind (expandWith b64decode) = expandWith unhexlify entries := by
  induction entries with
  | nil => rfl
  | cons entry rest ih =>
    obtain ⟨name, keyHex⟩ := entry
    simp only [meshcoreEntries, expandWith]
    cases unhexlify keyHex with
    | none => rfl
    | some raw =>
      simp only [Option.bind_eq_bind, Option.bind_some, ← ih]
      cases meshcoreEntries rest with
      | none => rfl
      | some entries =>
        simp only [Option.bind_some, Option.pure_def, expandWith, b64decode_b64encode,
          Option.bind_eq_bind]

theorem addAllKeys_eq (table : KeyTable) (meshtastic meshcore : List (String × String)) :
    addAllKeys table meshtastic meshcore =
      (expandWith b64decode meshtastic).bind fun first => (expandWith unhexlify meshcore).map fun second =>
        { table with keys := (table.keys.update first).update second } := by
  rw [addAllKeys, addKeys_eq, ← expandWith_meshcoreEntries]
  cases expandWith b64decode meshtastic with
  | none => rfl
  | some first =>
    cases meshcoreEntries meshcore with
    | none => rfl
    | some entries =>
      simp only [Option.map_some, Option.bind_eq_bind, Option.bind_some, addKeys_eq]

theorem setupChannelKeys_eq_some {config : ChannelConfig} {table : KeyTable}
    (h : config.setupChannelKeys = some table) :
    ∃ created first second, KeyTable.create config.defaultKeyB64 = some created ∧
      created.keys = .empty ∧
      expandWith b64decode config.meshtasticKeys.items = some first ∧
      expandWith unhexlify config.meshcoreKeys.items = some second ∧
      table = ⟨created.defaultKey, (OrderedDict.empty.update first).update second⟩ := by
  simp only [setupChannelKeys, addAllKeys_eq, Option.bind_eq_bind, Option.bind_eq_some_iff,
    Option.map_eq_some_iff] at h
  obtain ⟨created, hcreate, first, hfirst, second, hsecond, rfl⟩ := h
  have hempty : created.keys = .empty := by
    unfold KeyTable.create at hcreate
    split at hcreate
    · cases hcreate
      rfl
    · obtain ⟨raw, -, rfl⟩ := Option.map_eq_some_iff.mp hcreate
      rfl
  exact ⟨created, first, second, hcreate, hempty, hfirst, hsecond, by rw [hempty]⟩

theorem setupChannelKeys_defaultKey {config : ChannelConfig} {table : KeyTable}
    (h : config.setupChannelKeys = some table) :
    table.defaultKey.isSome = true ↔ config.defaultKeyB64 ≠ "" := by
  obtain ⟨created, first, second, hcreate, -, -, -, rfl⟩ := setupChannelKeys_eq_some h
  unfold KeyTable.create at hcreate
  split at hcreate
  · rename_i hempty
    cases hcreate
    simp [hempty]
  · rename_i hne
    obtain ⟨raw, -, rfl⟩ := Option.map_eq_some_iff.mp hcreate
    simp [hne]

theorem setupChannelKeys_keys {config : ChannelConfig} {table : KeyTable}
    (h : config.setupChannelKeys = some table) :
    config.meshtasticKeys.keys <+: table.keys.keys := by
  obtain ⟨created, first, second, -, -, hfirst, -, rfl⟩ := setupChannelKeys_eq_some h
  have hnames := expandWith_names hfirst
  have hitems : (OrderedDict.empty.update first).keys = config.meshtasticKeys.keys := by
    have hnodup : ((OrderedDict.empty : OrderedDict String AesKey).keys ++
        first.map Prod.fst).Nodup := by
      rw [hnames]
      exact config.meshtasticKeys.nodupKeys
    rw [OrderedDict.keys, OrderedDict.items_update_of_nodup _ hnodup]
    simpa [OrderedDict.keys] using hnames
  rw [← hitems]
  exact OrderedDict.keys_prefix_update _ _

end ChannelConfig

/-- Name of the channel at a position of `get_all_keys`: the primary channel has
    the default key, the others follow in the order of the table. -/
def KeyTable.channelName (table : KeyTable) (primaryChannelName : String) (index : Nat) :
    Option String :=
  (table.defaultKey.toList.map (fun _ => primaryChannelName) ++ table.keys.keys)[index]?

end Meshpoint
