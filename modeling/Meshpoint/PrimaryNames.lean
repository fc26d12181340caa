import Meshpoint.ConfigResponse
import Meshpoint.MessageFiling

/-!
# The name of a blank primary channel

A message for the primary channel of the station goes out through a stick by name: the
service names the channel, the stick looks the name up in its own table. Where a primary
channel has no name each side takes the one of the modem preset, the service from the radio
parameters, the stick from the setting it read.
-/

namespace Meshpoint.PrimaryNames

open ConfigResponse MessageFiling RadioSettings SerialSource TextSending

/-! ### The stick -/

inductive Role where
  | disabled
  | primary
  | secondary
deriving DecidableEq, Repr

structure StickChannel where
  index : Nat
  role : Role
  name : String
deriving DecidableEq, Repr

/-- The channels of a node: each index once, at most one of them primary. -/
structure ChannelList where
  channels : List StickChannel
  nodupIndexes : (channels.map StickChannel.index).Nodup
  onePrimary : channels.Pairwise fun a b => ¬ (a.role = .primary ∧ b.role = .primary)

/-- What is read from a stick. `modemPreset` is the enumeration's name of the preset. -/
structure StickConfig where
  ownNodeNum : Option Nat
  usePreset : Bool
  modemPreset : String
  channelList : ChannelList

/-- `info["modem_preset"]`. -/
def StickConfig.presetName (stick : StickConfig) : String :=
  if stick.usePreset then stick.modemPreset else "CUSTOM"

def tableName (modemPresetName : String) (ch : StickChannel) : Option String :=
  if ch.role = .disabled then none
  else
    let name := if ch.name = "" ∧ ch.role = .primary then modemPresetName else ch.name
    if name = "" then none else some name

def readChannelTable (modemPresetName : String) :
    List StickChannel → OrderedDict Nat String → OrderedDict Nat String
  | [], table => table
  | ch :: rest, table =>
    readChannelTable modemPresetName rest
      (match tableName modemPresetName ch with
        | none => table
        | some name => table.set ch.index name)

/-- The part of `_read_radio_info` that names channels. -/
def StickConfig.readRadioInfo (stick : StickConfig) : RadioInfo :=
  ⟨stick.ownNodeNum, readChannelTable stick.presetName stick.channelList.channels .empty⟩

/-! ### The station -/

/-- `_get_preset_name`; `none` when the bandwidth is not a number. -/
def getPresetName {F : Type} [RadioFloat F] (radio : Option (RadioConfig F)) : Option String :=
  match radio with
  | none => some "LongFast"
  | some radio =>
    (RadioFloat.kilohertz radio.bandwidthKhz).map fun bw =>
      (PRESET_DISPLAY_NAMES.lookup (radio.spreadingFactor, bw)).getD "Custom"

/-! ### Looking a name up -/

theorem readChannelTable_eq_update (modemPresetName : String) (channels : List StickChannel)
    (table : OrderedDict Nat String) :
    readChannelTable modemPresetName channels table =
      table.update (channels.filterMap fun ch =>
        (tableName modemPresetName ch).map fun name => (ch.index, name)) := by
  induction channels generalizing table with
  | nil => rfl
  | cons ch rest ih =>
    rw [readChannelTable, ih, List.filterMap_cons]
    cases tableName modemPresetName ch with
    | none => rfl
    | some name => rfl

theorem items_readRadioInfo (stick : StickConfig) :
    stick.readRadioInfo.channelTable.items =
      stick.channelList.channels.filterMap fun ch =>
        (tableName stick.presetName ch).map fun name => (ch.index, name) := by
  rw [StickConfig.readRadioInfo, readChannelTable_eq_update,
    OrderedDict.items_update_of_nodup, OrderedDict.items_empty, List.nil_append]
  refine List.Nodup.sublist ?_ stick.channelList.nodupIndexes
  rw [OrderedDict.keys, OrderedDict.items_empty, List.map_nil, List.nil_append]
  induction stick.channelList.channels with
  | nil => exact List.Sublist.slnil
  | cons ch rest ih =>
    rw [List.filterMap_cons]
    cases tableName stick.presetName ch with
    | none => exact ih.cons _
    | some name => exact ih.cons_cons _

theorem resolveChannelIndex_readRadioInfo (stick : StickConfig) (name : String) :
    stick.readRadioInfo.resolveChannelIndex name =
      (stick.channelList.channels.find? fun ch =>
        decide (tableName stick.presetName ch = some name)).map StickChannel.index := by
  rw [RadioInfo.resolveChannelIndex, items_readRadioInfo]
  induction stick.channelList.channels with
  | nil => rfl
  | cons ch rest ih =>
    rw [List.filterMap_cons, List.find?_cons]
    cases htable : tableName stick.presetName ch with
    | none => simpa using ih
    | some listed =>
      simp only [Option.map_some, List.find?_cons, Option.some.injEq]
      by_cases hname : listed = name
      · simp [hname]
      · simpa [hname] using ih

/-- A channel is what its name resolves to exactly when it is listed under the name and no
    channel before it is. -/
theorem resolveChannelIndex_eq_some_iff {stick : StickConfig} {before after : List StickChannel}
    {ch : StickChannel} (hchannels : stick.channelList.channels = before ++ ch :: after)
    (name : String) :
    stick.readRadioInfo.resolveChannelIndex name = some ch.index ↔
      tableName stick.presetName ch = some name ∧
        ∀ other ∈ before, tableName stick.presetName other ≠ some name := by
  have hnodup := stick.channelList.nodupIndexes
  rw [resolveChannelIndex_readRadioInfo]
  constructor
  · intro h
    obtain ⟨found, hfound, hindex⟩ := Option.map_eq_some_iff.mp h
    have hmem := List.mem_of_find?_eq_some hfound
    have hsame : found = ch := by
      apply List.inj_on_of_nodup_map hnodup hmem _ hindex
      rw [hchannels]
      exact List.mem_append_right _ List.mem_cons_self
    subst hsame
    refine ⟨by simpa using List.find?_some hfound, ?_⟩
    intro other hother heq
    rw [hchannels] at hfound hnodup
    rw [List.find?_append] at hfound
    cases hfirst : before.find? fun ch => decide (tableName stick.presetName ch = some name) with
    | none => exact absurd heq (by simpa using List.find?_eq_none.mp hfirst other hother)
    | some first =>
      rw [hfirst, Option.some_or, Option.some.injEq] at hfound
      rw [List.map_append, List.nodup_append] at hnodup
      apply hnodup.2.2 first.index (List.mem_map_of_mem (List.mem_of_find?_eq_some hfirst))
        found.index
      · exact List.mem_map_of_mem List.mem_cons_self
      · rw [hfound]
  · rintro ⟨hlisted, hbefore⟩
    have hnone : before.find? (fun ch => decide (tableName stick.presetName ch = some name)) =
        none := by
      rw [List.find?_eq_none]
      intro other hother
      simpa using hbefore other hother
    rw [hchannels, List.find?_append, hnone, Option.none_or, List.find?_cons, hlisted]
    simp

theorem exists_of_tableName {stick : StickConfig} {ch : StickChannel}
    (hmem : ch ∈ stick.channelList.channels) {name : String}
    (hlisted : tableName stick.presetName ch = some name) :
    ∃ other ∈ stick.channelList.channels, tableName stick.presetName other = some name ∧
      stick.readRadioInfo.resolveChannelIndex name = some other.index := by
  rw [resolveChannelIndex_readRadioInfo]
  cases hfind : stick.channelList.channels.find? fun ch =>
      decide (tableName stick.presetName ch = some name) with
  | none =>
    have := List.find?_eq_none.mp hfind ch hmem
    simp [hlisted] at this
  | some other =>
    refine ⟨other, List.mem_of_find?_eq_some hfind, ?_, rfl⟩
    simpa using List.find?_some hfind

theorem tableName_blank_primary {modemPresetName : String} {ch : StickChannel}
    (hrole : ch.role = .primary) (hblank : ch.name = "") (hpreset : modemPresetName ≠ "") :
    tableName modemPresetName ch = some modemPresetName := by
  simp [tableName, hrole, hblank, hpreset]

theorem tableName_of_ne_primary {modemPresetName : String} {ch : StickChannel} {name : String}
    (hrole : ch.role ≠ .primary) (hname : name ≠ "") :
    tableName modemPresetName ch = some name ↔ ch.role ≠ .disabled ∧ ch.name = name := by
  by_cases hdisabled : ch.role = .disabled
  · simp [tableName, hdisabled]
  · by_cases hblank : ch.name = ""
    · simp [tableName, hrole, hdisabled, hblank, hname.symm]
    · simp [tableName, hdisabled, hblank]

theorem tableName_of_name_ne_blank {modemPresetName : String} {ch : StickChannel}
    (hrole : ch.role ≠ .disabled) (hname : ch.name ≠ "") :
    tableName modemPresetName ch = some ch.name := by
  simp [tableName, hrole, hname]

/-! ### The two names of a preset -/

def presetNames : List String :=
  ["LONG_FAST", "LONG_TURBO", "LONG_MODERATE", "LONG_SLOW", "VERY_LONG_SLOW", "MEDIUM_FAST",
    "MEDIUM_SLOW", "SHORT_FAST", "SHORT_SLOW", "SHORT_TURBO"]

section

variable {F : Type} [RadioFloat F]

theorem name_mem_presetNames {preset : ModemPreset F} (h : preset ∈ MODEM_PRESETS) :
    preset.name ∈ presetNames := by
  have hnames : (MODEM_PRESETS (F := F)).map ModemPreset.name = presetNames := rfl
  rw [← hnames]
  exact List.mem_map_of_mem h

/-- Whatever the radio parameters, the service's name of the preset is none of the
    enumeration's. -/
theorem getPresetName_notMem {radio : Option (RadioConfig F)} {name : String}
    (h : getPresetName radio = some name) : name ∉ presetNames := by
  have hvalue : name ∈ "LongFast" :: "Custom" :: PRESET_DISPLAY_NAMES.map Prod.snd := by
    cases radio with
    | none =>
      cases h
      exact List.mem_cons_self
    | some radio =>
      obtain ⟨bw, -, rfl⟩ := Option.map_eq_some_iff.mp h
      cases hlookup : PRESET_DISPLAY_NAMES.lookup (radio.spreadingFactor, bw) with
      | none => exact List.mem_cons_of_mem _ List.mem_cons_self
      | some display =>
        obtain ⟨l₁, l₂, hsplit, -⟩ := List.lookup_eq_some_iff.mp hlookup
        rw [hsplit, Option.getD_some]
        simp
  have hdisjoint : ∀ display ∈ "LongFast" :: "Custom" :: PRESET_DISPLAY_NAMES.map Prod.snd,
      display ∉ presetNames := by decide
  exact hdisjoint name hvalue

/-! ### Agreement -/

/-- What the service calls its primary channel leads to the stick's primary channel, as every
    name configured on the stick leads to a channel listed under it. -/
def Agrees (tx : TxService) (stick : StickConfig) (primary : StickChannel) : Prop :=
  (tx.channelNameForIndex 0).bind stick.readRadioInfo.resolveChannelIndex =
      some primary.index ∧
    ∀ ch ∈ stick.channelList.channels, ch.role ≠ .disabled → ch.name ≠ "" →
      ∃ other ∈ stick.channelList.channels,
        tableName stick.presetName other = some ch.name ∧
          stick.readRadioInfo.resolveChannelIndex ch.name = some other.index

/-- The sides agree on a blank primary channel exactly when the station has a name for its own
    and this is the enumeration's name of the preset, which no channel before the primary one
    has; never when the station's name is blank too. -/
theorem agrees_iff {tx : TxService} {radio : Option (RadioConfig F)} {stick : StickConfig}
    {preset : ModemPreset F} {before after : List StickChannel} {primary : StickChannel}
    (htx : getPresetName radio = some tx.presetName) (hpreset : preset ∈ MODEM_PRESETS)
    (hstick : stick.usePreset = true ∧ stick.modemPreset = preset.name)
    (hchannels : stick.channelList.channels = before ++ primary :: after)
    (hrole : primary.role = .primary) (hblank : primary.name = "") :
    Agrees tx stick primary ↔
      tx.primaryChannelName = preset.name ∧
        ∀ ch ∈ before, ch.role ≠ .disabled → ch.name ≠ preset.name := by
  have hmem := name_mem_presetNames hpreset
  have hstickName : stick.presetName = preset.name := by
    rw [StickConfig.presetName, if_pos hstick.1, hstick.2]
  have hne : preset.name ≠ "" := by
    intro hblankName
    rw [hblankName] at hmem
    revert hmem
    decide
  have hbefore : ∀ ch ∈ before, ch.role ≠ .primary := by
    intro ch hch hprimary
    have hone := stick.channelList.onePrimary
    rw [hchannels, List.pairwise_append] at hone
    exact hone.2.2 ch hch primary List.mem_cons_self ⟨hprimary, hrole⟩
  have hname : tx.channelNameForIndex 0 = some
      (if tx.primaryChannelName = "" then tx.presetName else tx.primaryChannelName) := by
    simp [TxService.channelNameForIndex]
  have hlisted := tableName_blank_primary hrole hblank (hstickName ▸ hne)
  rw [Agrees, hname, Option.bind_some, resolveChannelIndex_eq_some_iff hchannels, hlisted,
    Option.some.injEq, hstickName]
  constructor
  · rintro ⟨⟨hsame, hahead⟩, -⟩
    by_cases hstation : tx.primaryChannelName = ""
    · rw [if_pos hstation] at hsame
      exact absurd (hsame ▸ hmem) (getPresetName_notMem htx)
    · rw [if_neg hstation] at hsame hahead
      refine ⟨hsame.symm, ?_⟩
      intro ch hch henabled hchName
      apply hahead ch hch
      rw [tableName_of_ne_primary (hbefore ch hch) hstation, ← hsame]
      exact ⟨henabled, hchName⟩
  · rintro ⟨hsame, hahead⟩
    rw [if_neg (hsame ▸ hne), hsame]
    refine ⟨⟨rfl, ?_⟩, ?_⟩
    · intro ch hch hch'
      obtain ⟨henabled, hchName⟩ := (tableName_of_ne_primary (hbefore ch hch) hne).mp hch'
      exact hahead ch hch henabled hchName
    · intro ch hch henabled hchName
      rw [← hstickName]
      exact exists_of_tableName hch (tableName_of_name_ne_blank henabled hchName)

end

/-! ### A stock setup -/

/-- The channels of a stick as it comes: a primary one without a name. -/
def stockChannels : ChannelList := ⟨[⟨0, .primary, ""⟩], by decide, by decide⟩

def stockStick : StickConfig := ⟨some 0xaaaa0001, true, "LONG_FAST", stockChannels⟩

def stockRadio : RadioConfig ℚ := ⟨"EU_868", 869525 / 1000, 11, 250, "4/5"⟩

theorem longFast_mem : (⟨"LONG_FAST", 11, RadioFloat.decimal 2500000, "4/5"⟩ : ModemPreset ℚ) ∈
    MODEM_PRESETS := List.mem_cons_self

theorem agrees_iff_longFast :
    Agrees { desk with primaryChannelName := "LONG_FAST" } stockStick ⟨0, .primary, ""⟩ :=
  (@agrees_iff ℚ _ { desk with primaryChannelName := "LONG_FAST" } (some stockRadio) stockStick
    _ [] [] ⟨0, .primary, ""⟩ (by decide) longFast_mem ⟨rfl, rfl⟩ rfl rfl rfl).mpr
      ⟨rfl, by simp⟩

/-- The station calls its blank primary channel LongFast, the stick LONG_FAST. -/
theorem longFast_not_agrees :
    getPresetName (some stockRadio) = some desk.presetName ∧
      ¬ Agrees { desk with primaryChannelName := "" } stockStick ⟨0, .primary, ""⟩ := by
  refine ⟨by decide, ?_⟩
  rintro ⟨h, -⟩
  revert h
  decide

end Meshpoint.PrimaryNames
