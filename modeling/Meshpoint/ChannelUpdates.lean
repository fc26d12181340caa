import Meshpoint.ChannelHashResolver
import Meshpoint.ChannelResolver
import Meshpoint.GuardedRun

/-!
# Changing channels while the service runs

Model of `PUT /channels` and `PUT /meshcore/channels`
(`src/api/routes/config_routes.py`).  Beside the configuration itself a running
service holds four things that a start derives from the configuration file: the
key table, the hash map, the sender's primary channel name and the name resolver
of the MQTT publisher.  The handlers write the file and change some of them.

`SameAsRestart` compares a running service with a start from the file it has just
written.  The MeshCore handler keeps it; `sameAsRestart_updateChannels_iff` says
exactly which requests to the Meshtastic handler keep it, and the run theorem
follows by induction over the requests.
-/

namespace Meshpoint.ChannelUpdates

open ByteCodec ChannelKeys PyText ChannelHashResolver ChannelConfig GuardedRun

/-- What a running service derived from its configuration.  `file` is the
    configuration that the files on disk give. -/
structure LiveState where
  config : ChannelConfig
  file : ChannelConfig
  table : KeyTable
  hashToIndex : OrderedDict UInt8 Nat
  txPrimaryName : String
  hashToName : OrderedDict Nat String

/-- A start from the file: the coordinator's keys, the hash map, the transmit service
    and the publisher; `none` when a key does not decode. -/
def start (file : ChannelConfig) : Option LiveState := do
  let table ← file.setupChannelKeys
  return { config := file
           file := file
           table := table
           hashToIndex := rebuild table file.primaryChannelName file.meshtasticKeys.keys
           txPrimaryName := file.primaryChannelName
           hashToName := ChannelResolver.create file.meshtasticKeys.items }

/-- `_refresh_channel_hash_map`. -/
def refreshChannelHashMap (s : LiveState) : LiveState :=
  { s with hashToIndex := rebuild s.table s.config.primaryChannelName s.config.meshtasticKeys.keys }

/-! ### `PUT /channels` -/

structure ChannelEntry where
  index : Int := -1
  name : String := ""
  pskB64 : String := ""
  enabled : Bool := true

/-- The primary name after the entries: the last one with index 0 counts. -/
def requestedPrimary (channels : List ChannelEntry) (current : String) : String :=
  channels.foldl (fun name ch => if ch.index = 0 then ch.name else name) current

/-- `channel_keys` of a request. -/
def requestedKeys (channels : List ChannelEntry) : OrderedDict String String :=
  channels.foldl (fun keys ch =>
    if ch.index = 0 then keys
    else if ch.enabled && ch.pskB64 ≠ "" then keys.set ch.name ch.pskB64
    else keys) .empty

/-- What a request makes of a configuration, in memory and on disk alike. -/
def requestedConfig (channels : List ChannelEntry) (config : ChannelConfig) : ChannelConfig :=
  { config with
    primaryChannelName := requestedPrimary channels config.primaryChannelName
    meshtasticKeys := requestedKeys channels }

/-- `update_channels`; `none` when it raises. -/
def updateChannels (s : LiveState) (channels : List ChannelEntry) : Option LiveState := do
  let config := requestedConfig channels s.config
  let table ← addKeys s.table.clearChannelKeys config.meshtasticKeys.items
  return refreshChannelHashMap
    { s with config := config, file := requestedConfig channels s.file, table := table }

/-! ### `PUT /meshcore/channels` -/

def MESHCORE_CHANNEL_KEY_BYTES : Nat := 16

def MESHCORE_ZERO_KEY_HEX : String :=
  String.ofList (List.replicate (2 * MESHCORE_CHANNEL_KEY_BYTES) '0')

def MESHCORE_LEGACY_ZERO_KEY_HEX : String :=
  String.ofList (List.replicate (4 * MESHCORE_CHANNEL_KEY_BYTES) '0')

structure McChannelEntry where
  name : String
  keyHex : String := ""

/-- `_normalize_meshcore_key_hex`; `none` when the request is refused. -/
def normalizeMeshcoreKeyHex (keyHex : String) : Option String :=
  let rawHex := asciiLower (strip keyHex)
  if rawHex = "" ∨ rawHex = MESHCORE_LEGACY_ZERO_KEY_HEX then some MESHCORE_ZERO_KEY_HEX
  else
    (unhexlify rawHex).bind fun raw =>
      if raw = List.replicate (2 * MESHCORE_CHANNEL_KEY_BYTES) 0 then some MESHCORE_ZERO_KEY_HEX
      else if raw.length = MESHCORE_CHANNEL_KEY_BYTES then some (hexlify raw) else none

/-- `channel_keys` of a MeshCore request: rows without a name are skipped, one bad key
    refuses the request. -/
def requestedMeshcoreKeys :
    List McChannelEntry → OrderedDict String String → Option (OrderedDict String String)
  | [], keys => some keys
  | ch :: rest, keys =>
    if strip ch.name = "" then requestedMeshcoreKeys rest keys
    else (normalizeMeshcoreKeyHex ch.keyHex).bind fun keyHex =>
      requestedMeshcoreKeys rest (keys.set (strip ch.name) keyHex)

/-- `update_meshcore_channels`; `none` when it raises. -/
def updateMeshcoreChannels (s : LiveState) (channels : List McChannelEntry) :
    Option LiveState := do
  let keys ← requestedMeshcoreKeys channels .empty
  let config := { s.config with meshcoreKeys := keys }
  let table ← addAllKeys s.table.clearChannelKeys config.meshtasticKeys.items keys.items
  return refreshChannelHashMap
    { s with config := config, file := { s.file with meshcoreKeys := keys }, table := table }

/-! ### Runs -/

inductive Request where
  | channels (entries : List ChannelEntry)
  | meshcore (entries : List McChannelEntry)

def step (s : LiveState) : Request → Option LiveState
  | .channels entries => updateChannels s entries
  | .meshcore entries => updateMeshcoreChannels s entries

/-- The running service holds what a fresh one holds. -/
structure Matches (s fresh : LiveState) : Prop where
  table : s.table = fresh.table
  hashes : ∀ hash, lookup s.hashToIndex hash = lookup fresh.hashToIndex hash
  primary : s.txPrimaryName = fresh.txPrimaryName
  names : ∀ hash, ChannelResolver.resolve s.hashToName hash .meshtastic =
    ChannelResolver.resolve fresh.hashToName hash .meshtastic

/-- The running service equals a start from its file. -/
def SameAsRestart (s : LiveState) : Prop := ∃ fresh, start s.file = some fresh ∧ Matches s fresh

/-- The request leaves nothing out of date: each MeshCore channel is among the requested
    keys with the same key, the primary name stays, and the hash bytes keep their
    channel names. -/
structure LeavesNothingBehind (s : LiveState) (channels : List ChannelEntry) : Prop where
  meshcore : ∀ entry ∈ s.config.meshcoreKeys.items, ∃ psk raw raw',
    (requestedKeys channels).get? entry.1 = some psk ∧ b64decode psk = some raw ∧
      unhexlify entry.2 = some raw' ∧ expandKey raw = expandKey raw'
  primary : requestedPrimary channels s.config.primaryChannelName = s.config.primaryChannelName
  names : ∀ hash, ChannelResolver.nameOfHash (requestedKeys channels).items hash =
    ChannelResolver.nameOfHash s.config.meshtasticKeys.items hash

/-- The condition on a request in the state it meets. -/
def StepCondition (s : LiveState) : Request → Prop
  | .channels entries => LeavesNothingBehind s entries
  | .meshcore _ => True

/-! ### Rebuilding the key table -/

/-- After the named keys are cleared, adding those of a configuration with the same
    default key gives the table of a start. -/
theorem addAllKeys_clearChannelKeys {config : ChannelConfig} {table : KeyTable}
    (h : config.setupChannelKeys = some table) (config' : ChannelConfig)
    (hdefault : config'.defaultKeyB64 = config.defaultKeyB64) :
    addAllKeys table.clearChannelKeys config'.meshtasticKeys.items config'.meshcoreKeys.items =
      config'.setupChannelKeys := by
  obtain ⟨created, first, second, hcreate, hempty, -, -, rfl⟩ := setupChannelKeys_eq_some h
  have hclear : KeyTable.clearChannelKeys
      ⟨created.defaultKey, (OrderedDict.empty.update first).update second⟩ = created := by
    rw [KeyTable.clearChannelKeys, ← hempty]
  rw [hclear, setupChannelKeys, hdefault, hcreate]
  rfl

theorem start_eq_some {file : ChannelConfig} {fresh : LiveState} (h : start file = some fresh) :
    file.setupChannelKeys = some fresh.table ∧
      fresh.hashToIndex =
        rebuild fresh.table file.primaryChannelName file.meshtasticKeys.keys ∧
      fresh.txPrimaryName = file.primaryChannelName ∧
      fresh.hashToName = ChannelResolver.create file.meshtasticKeys.items := by
  unfold start at h
  cases hsetup : file.setupChannelKeys with
  | none =>
    rw [hsetup] at h
    cases h
  | some table =>
    rw [hsetup] at h
    cases h
    exact ⟨rfl, rfl, rfl, rfl⟩

theorem start_of_setup {file : ChannelConfig} {table : KeyTable}
    (h : file.setupChannelKeys = some table) :
    start file = some ⟨file, file, table,
      rebuild table file.primaryChannelName file.meshtasticKeys.keys, file.primaryChannelName,
      ChannelResolver.create file.meshtasticKeys.items⟩ := by
  rw [start, h]
  rfl

theorem step_config_eq_file {s s' : LiveState} {request : Request} (hfile : s.config = s.file)
    (h : step s request = some s') : s'.config = s'.file := by
  cases request with
  | channels entries =>
    simp only [step, updateChannels, Option.bind_eq_bind, Option.bind_eq_some_iff] at h
    obtain ⟨table, -, hs'⟩ := h
    cases hs'
    exact congrArg (requestedConfig entries) hfile
  | meshcore entries =>
    simp only [step, updateMeshcoreChannels, Option.bind_eq_bind, Option.bind_eq_some_iff] at h
    obtain ⟨keys, -, table, -, hs'⟩ := h
    cases hs'
    exact congrArg (fun c => ({ c with meshcoreKeys := keys } : ChannelConfig)) hfile

/-- **The MeshCore handler** leaves the service as a restart would. -/
theorem sameAsRestart_updateMeshcoreChannels {s s' : LiveState} {channels : List McChannelEntry}
    (hfile : s.config = s.file) (hsame : SameAsRestart s)
    (h : updateMeshcoreChannels s channels = some s') : SameAsRestart s' := by
  obtain ⟨fresh, hstart, hmatch⟩ := hsame
  obtain ⟨hsetup, -, hprimary, hnames⟩ := start_eq_some hstart
  simp only [updateMeshcoreChannels, Option.bind_eq_bind, Option.bind_eq_some_iff] at h
  obtain ⟨keys, -, table, htable, hs'⟩ := h
  cases hs'
  have hsetup' : ({ s.file with meshcoreKeys := keys } : ChannelConfig).setupChannelKeys =
      some table := by
    rw [← addAllKeys_clearChannelKeys hsetup { s.file with meshcoreKeys := keys } rfl,
      ← hmatch.table, ← htable, hfile]
  refine ⟨_, start_of_setup hsetup', rfl, ?_, ?_, ?_⟩
  · intro hash
    simp only [refreshChannelHashMap, hfile]
  · exact hmatch.primary.trans hprimary
  · intro hash
    have hname := hmatch.names hash
    rw [hnames] at hname
    exact hname

theorem get?_requested {keys : OrderedDict String String} {first : List (String × AesKey)}
    (hfirst : expandWith b64decode keys.items = some first) {name : String} {key : AesKey} :
    (OrderedDict.empty.update first).get? name = some key ↔
      ∃ psk raw, keys.get? name = some psk ∧ b64decode psk = some raw ∧ key = expandKey raw := by
  have hnodup : ((OrderedDict.empty : OrderedDict String AesKey).keys ++
      first.map Prod.fst).Nodup := by
    rw [expandWith_names hfirst]
    exact keys.nodupKeys
  rw [OrderedDict.get?_eq_some_iff, OrderedDict.items_update_of_nodup _ hnodup]
  simp only [OrderedDict.items_empty, List.nil_append, mem_expandWith hfirst,
    OrderedDict.get?_eq_some_iff]

theorem update_meshcore_eq_self_iff {requested meshcore : OrderedDict String String}
    {first second : List (String × AesKey)}
    (hfirst : expandWith b64decode requested.items = some first)
    (hsecond : expandWith unhexlify meshcore.items = some second) :
    (OrderedDict.empty.update first).update second = OrderedDict.empty.update first ↔
      ∀ entry ∈ meshcore.items, ∃ psk raw raw', requested.get? entry.1 = some psk ∧
        b64decode psk = some raw ∧ unhexlify entry.2 = some raw' ∧
          expandKey raw = expandKey raw' := by
  have hnodup : (second.map Prod.fst).Nodup := by
    rw [expandWith_names hsecond]
    exact meshcore.nodupKeys
  rw [OrderedDict.update_eq_self_iff _ hnodup]
  constructor
  · intro hall entry hentry
    -- every MeshCore key decoded, so the entry has its expansion in the list
    obtain ⟨key, hkey⟩ : ∃ key, (entry.1, key) ∈ second := by
      have hmem : entry.1 ∈ second.map Prod.fst := by
        rw [expandWith_names hsecond]
        exact List.mem_map_of_mem hentry
      obtain ⟨⟨name, key⟩, hp, rfl⟩ := List.mem_map.mp hmem
      exact ⟨key, hp⟩
    obtain ⟨text, raw', htext, hraw', hexpand⟩ := (mem_expandWith hsecond).mp hkey
    obtain ⟨psk, raw, hpsk, hraw, hsame⟩ := (get?_requested hfirst).mp (hall _ hkey)
    have hentry' : meshcore.get? entry.1 = some entry.2 :=
      meshcore.get?_eq_some_iff.mpr hentry
    rw [meshcore.get?_eq_some_iff.mpr htext, Option.some.injEq] at hentry'
    exact ⟨psk, raw, raw', hpsk, hraw, hentry' ▸ hraw', hsame.symm.trans hexpand⟩
  · rintro hall ⟨name, key⟩ hp
    obtain ⟨text, raw', htext, hraw', rfl⟩ := (mem_expandWith hsecond).mp hp
    obtain ⟨psk, raw, raw'', hpsk, hraw, hraw'', hsame⟩ := hall (name, text) htext
    rw [hraw', Option.some.injEq] at hraw''
    exact (get?_requested hfirst).mpr ⟨psk, raw, hpsk, hraw, by rw [hsame, hraw'']⟩

/-- **The Meshtastic handler** leaves the service as a restart would exactly when the
    request leaves nothing behind. -/
theorem sameAsRestart_updateChannels_iff {s s' : LiveState} {channels : List ChannelEntry}
    (hfile : s.config = s.file) (hsame : SameAsRestart s)
    (h : updateChannels s channels = some s') :
    SameAsRestart s' ↔ LeavesNothingBehind s channels := by
  obtain ⟨fresh, hstart, hmatch⟩ := hsame
  obtain ⟨hsetup, -, hprimary, hnames⟩ := start_eq_some hstart
  simp only [updateChannels, Option.bind_eq_bind, Option.bind_eq_some_iff, addKeys_eq,
    Option.map_eq_some_iff] at h
  obtain ⟨table, ⟨first, hfirst, rfl⟩, hs'⟩ := h
  cases hs'
  obtain ⟨created, -, second, -, -, -, hsecond, -⟩ := setupChannelKeys_eq_some hsetup
  have hsetup' : (requestedConfig channels s.file).setupChannelKeys =
      some { s.table.clearChannelKeys with
        keys := (OrderedDict.empty.update first).update second } := by
    rw [← addAllKeys_clearChannelKeys hsetup (requestedConfig channels s.file) rfl, ← hmatch.table,
      addAllKeys_eq]
    rw [hfile] at hfirst
    rw [hfirst, show (requestedConfig channels s.file).meshcoreKeys = s.file.meshcoreKeys from rfl,
      hsecond]
    rfl
  have hstart' := start_of_setup hsetup'
  have hkeys := update_meshcore_eq_self_iff hfirst hsecond
  rw [← hfile] at hkeys
  constructor
  · rintro ⟨fresh', hfresh', hmatch'⟩
    rw [refreshChannelHashMap, hstart', Option.some.injEq] at hfresh'
    subst hfresh'
    refine ⟨hkeys.mp ?_, ?_, ?_⟩
    · have htable := congrArg KeyTable.keys hmatch'.table
      exact htable.symm
    · have htx := hmatch'.primary
      have hold : s.txPrimaryName = s.config.primaryChannelName := by
        rw [hmatch.primary, hprimary, hfile]
      change s.txPrimaryName = requestedPrimary channels s.file.primaryChannelName at htx
      rw [← hfile, hold] at htx
      exact htx.symm
    · intro hash
      have hname := hmatch'.names hash
      have hold := hmatch.names hash
      rw [hnames, ChannelResolver.resolve_eq] at hold
      rw [hfile]
      change ChannelResolver.resolve s.hashToName hash .meshtastic =
        ChannelResolver.resolve (ChannelResolver.create (requestedKeys channels).items) hash
          .meshtastic at hname
      rw [ChannelResolver.resolve_eq, hold] at hname
      exact hname.symm
  · rintro ⟨hmeshcore, hprimary', hnames'⟩
    have hupdate := hkeys.mpr hmeshcore
    refine ⟨_, hstart', ?_, ?_, ?_, ?_⟩
    · simp only [refreshChannelHashMap, hupdate]
      rfl
    · intro hash
      simp only [refreshChannelHashMap, hupdate, hfile]
      rfl
    · change s.txPrimaryName = requestedPrimary channels s.file.primaryChannelName
      rw [hmatch.primary, hprimary, ← hfile, hprimary']
    · intro hash
      have hold := hmatch.names hash
      rw [hnames, ChannelResolver.resolve_eq] at hold
      change ChannelResolver.resolve s.hashToName hash .meshtastic =
        ChannelResolver.resolve (ChannelResolver.create (requestedKeys channels).items) hash
          .meshtastic
      rw [ChannelResolver.resolve_eq, hold, hnames' hash, hfile]

theorem sameAsRestart_step_iff {s s' : LiveState} {request : Request} (hfile : s.config = s.file)
    (hsame : SameAsRestart s) (h : step s request = some s') :
    SameAsRestart s' ↔ StepCondition s request := by
  cases request with
  | channels entries => exact sameAsRestart_updateChannels_iff hfile hsame h
  | meshcore entries =>
    exact iff_of_true (sameAsRestart_updateMeshcoreChannels hfile hsame h) trivial

theorem start_config {file : ChannelConfig} {s : LiveState} (h : start file = some s) :
    s.config = file ∧ s.file = file := by
  obtain ⟨hsetup, -, -, -⟩ := start_eq_some h
  rw [start_of_setup hsetup, Option.some.injEq] at h
  rw [← h]
  exact ⟨rfl, rfl⟩

theorem sameAsRestart_of_start {file : ChannelConfig} {s : LiveState}
    (h : start file = some s) : s.config = s.file ∧ SameAsRestart s := by
  have hfile := start_config h
  refine ⟨hfile.1.trans hfile.2.symm, s, ?_, rfl, fun _ => rfl, rfl, fun _ => rfl⟩
  rw [hfile.2, h]

/-- **Live updates equal a restart** in every state that accepted requests reach from a
    start, as long as each of them meets its condition; and the first request that
    does not meet it leaves a state that differs from a restart. -/
theorem sameAsRestart_run {file : ChannelConfig} {s₀ : LiveState} (hstart : start file = some s₀)
    {s : LiveState} (h : Reaches step StepCondition s₀ s) :
    SameAsRestart s ∧ ∀ request s', step s request = some s' →
      (SameAsRestart s' ↔ StepCondition s request) := by
  have hinv : s.config = s.file ∧ SameAsRestart s := by
    refine Reaches.invariant (I := fun s => s.config = s.file ∧ SameAsRestart s)
      (sameAsRestart_of_start hstart) ?_ h
    rintro t request t' ⟨hfile, hsame⟩ hcondition hstep
    exact ⟨step_config_eq_file hfile hstep,
      (sameAsRestart_step_iff hfile hsame hstep).mpr hcondition⟩
  exact ⟨hinv.2, fun request s' hstep => sameAsRestart_step_iff hinv.1 hinv.2 hstep⟩

/-! ### Two runs -/

def hikingStation : ChannelConfig where
  defaultKeyB64 := "AQ=="
  primaryChannelName := "LongFast"
  meshtasticKeys := OrderedDict.ofList [("Hiking", "EBESExQVFhcYGRobHB0eHw==")]
  meshcoreKeys := .empty

def hikingEntries : List ChannelEntry :=
  [{ index := 0, name := "LongFast" },
    { index := 1, name := "Hiking", pskB64 := "EBESExQVFhcYGRobHB0eHw==" }]

def publicEntries : List McChannelEntry :=
  [{ name := "Public", keyHex := "8b3387e9c5cdea6ac9e5edbaa115cd72" }]

/-- Saving the channels unchanged and then adding a MeshCore channel equals a restart. -/
theorem sameAsRestart_run_hiking :
    ∃ s, ((start hikingStation).bind fun s => (step s (.channels hikingEntries)).bind fun s =>
        step s (.meshcore publicEntries)) = some s ∧ SameAsRestart s := by
  have hrun : ((start hikingStation).bind fun s =>
      (step s (.channels hikingEntries)).bind fun s =>
        step s (.meshcore publicEntries)).isSome = true := by decide +kernel
  obtain ⟨s, hs⟩ := Option.isSome_iff_exists.mp hrun
  refine ⟨s, hs, ?_⟩
  obtain ⟨s₀, h₀, hrest⟩ := Option.bind_eq_some_iff.mp hs
  obtain ⟨s₁, h₁, h₂⟩ := Option.bind_eq_some_iff.mp hrest
  have hcondition : StepCondition s₀ (.channels hikingEntries) := by
    have hconfig := (start_config h₀).1
    have hkeys : requestedKeys hikingEntries = hikingStation.meshtasticKeys := by decide +kernel
    refine ⟨?_, ?_, ?_⟩
    · rw [hconfig]
      simp [hikingStation]
    · rw [hconfig]
      rfl
    · intro hash
      rw [hconfig, hkeys]
  have hmeshcore : StepCondition s₁ (.meshcore publicEntries) := trivial
  exact (sameAsRestart_run h₀ ((Reaches.refl.tail hcondition h₁).tail hmeshcore h₂)).1

/-- The same station with the public MeshCore channel and no Meshtastic one. -/
def publicStation : ChannelConfig where
  defaultKeyB64 := "AQ=="
  primaryChannelName := "LongFast"
  meshtasticKeys := .empty
  meshcoreKeys := OrderedDict.ofList [("Public", "8b3387e9c5cdea6ac9e5edbaa115cd72")]

/-- Adding a Meshtastic channel there drops the MeshCore key until the next restart. -/
theorem meshcore_key_dropped :
    ∃ s₀ s, start publicStation = some s₀ ∧ step s₀ (.channels hikingEntries) = some s ∧
      ¬ SameAsRestart s := by
  have hrun : ((start publicStation).bind fun s =>
      step s (.channels hikingEntries)).isSome = true := by decide +kernel
  obtain ⟨s, hs⟩ := Option.isSome_iff_exists.mp hrun
  obtain ⟨s₀, h₀, h₁⟩ := Option.bind_eq_some_iff.mp hs
  refine ⟨s₀, s, h₀, h₁, ?_⟩
  intro hsame
  obtain ⟨hfile, hsame₀⟩ := sameAsRestart_of_start h₀
  have hcondition := (sameAsRestart_updateChannels_iff hfile hsame₀ h₁).mp hsame
  obtain ⟨psk, -, -, hpsk, -⟩ := hcondition.meshcore
    ("Public", "8b3387e9c5cdea6ac9e5edbaa115cd72") (by rw [(start_config h₀).1]; decide)
  exact absurd hpsk (by simp [show (requestedKeys hikingEntries).get? "Public" = none by decide])

end Meshpoint.ChannelUpdates
