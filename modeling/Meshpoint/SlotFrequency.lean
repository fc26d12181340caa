import Meshpoint.AcceptedSettings

/-!
# The frequency of a slot

`radio.slot` of the configuration and `channel_num` of a connected node both name a slot of a
region's band. `_resolve_radio_frequency` (`src/config.py`) computes the frequency of the first,
`resolve_frequency_mhz` (`src/radio/channel_frequency.py`) that of the second by the firmware's
rule, each from a table of its own. Frequencies are exact rational numbers of MHz, rounded to
four decimals where the code rounds.

`slotServed_iff` says for which regions, bandwidths and slots the two agree on a channel of the
band.
-/

namespace Meshpoint.SlotFrequency

open AcceptedSettings (roundHalfEven)
open RadioSettings

/-! ### The firmware's rule -/

/-- `_REGION_BAND_MHZ`: `freqStart` and `freqEnd`. -/
def REGION_BAND_MHZ : List (String × ℚ × ℚ) :=
  [("US", 902, 928), ("EU_433", 433, 434), ("EU_868", 8694 / 10, 86965 / 100),
    ("ANZ", 915, 928), ("IN", 865, 867), ("KR", 920, 923), ("SG_923", 917, 925)]

def PRESET_HASH_NAME : List (String × String) :=
  [("SHORT_TURBO", "ShortTurbo"), ("SHORT_SLOW", "ShortSlow"), ("SHORT_FAST", "ShortFast"),
    ("MEDIUM_SLOW", "MediumSlow"), ("MEDIUM_FAST", "MediumFast"), ("LONG_SLOW", "LongSlow"),
    ("LONG_FAST", "LongFast"), ("LONG_TURBO", "LongTurbo"), ("LONG_MODERATE", "LongMod"),
    ("LITE_FAST", "LiteFast"), ("LITE_SLOW", "LiteSlow"), ("NARROW_FAST", "NarrowFast"),
    ("NARROW_SLOW", "NarrowSlow"), ("TINY_FAST", "TinyFast"), ("TINY_SLOW", "TinySlow")]

/-- `_djb2`, a 32-bit hash. -/
def djb2 (text : String) : Nat :=
  (ByteCodec.utf8 text).foldl (fun h byte => (h * 2 ^ 5 + h + byte.toNat) % 2 ^ 32) 5381

def presetHashName (modemPreset : Option String) (usePreset : Bool) : String :=
  if usePreset then (PRESET_HASH_NAME.lookup (modemPreset.getD "")).getD "Invalid" else "Custom"

/-- `round(x, 4)`. -/
def round4 (x : ℚ) : ℚ := roundHalfEven (x * 10000) / 10000

/-- What a connected node reports of its channel. -/
structure NodeChannel where
  region : Option String
  channelNum : Option Int
  bandwidthKhz : Option ℚ
  channelName : Option String := none
  modemPreset : Option String := none
  usePreset : Bool := true
  frequencyOffset : ℚ := 0
  overrideFrequency : ℚ := 0

/-- `num_slots`; without spacing and padding a slot is as wide as the bandwidth. -/
def numSlots (band : ℚ × ℚ) (bandwidthKhz : ℚ) : Int :=
  roundHalfEven ((band.2 - band.1) / (bandwidthKhz / 1000))

/-- The slot, counted from 0; `none` above the region's slot count. -/
def slotOf (node : NodeChannel) (slots : Int) : Option Int :=
  match node.channelNum.filter (· ≠ 0) with
  | some channelNum => if slots ≤ channelNum - 1 then none else some (channelNum - 1)
  | none =>
    let name := PyText.strip (node.channelName.getD "")
    some (djb2 (if name = "" then presetHashName node.modemPreset node.usePreset else name) % slots)

/-- `resolve_frequency_mhz`; 0 when the frequency is unknown. -/
def resolveFrequencyMhz (node : NodeChannel) : ℚ :=
  if node.overrideFrequency ≠ 0 then round4 (node.overrideFrequency + node.frequencyOffset)
  else
    match node.region.filter (· ≠ ""), node.bandwidthKhz.filter (· ≠ 0) with
    | some region, some bandwidthKhz =>
      match REGION_BAND_MHZ.lookup region with
      | none => 0
      | some band =>
        let freqSlotWidth := bandwidthKhz / 1000
        if freqSlotWidth ≤ 0 then 0
        else if numSlots band bandwidthKhz ≤ 0 then 0
        else
          match slotOf node (numSlots band bandwidthKhz) with
          | none => 0
          | some slot =>
            round4 (band.1 + bandwidthKhz / 2000 + slot * freqSlotWidth + node.frequencyOffset)
    | _, _ => 0

/-! ### Slots -/

/-- The frequency of `radio.slot` when no frequency is given. -/
def configuredMhz (radio : LoadedRadio ℚ) (slot : Int) : ℚ :=
  resolveFrequency { radio with frequencyMhz := none, slot := some slot }

/-- The frequency of a node of the same region and bandwidth whose `channel_num` is the slot. -/
def firmwareMhz (radio : LoadedRadio ℚ) (slot : Int) : ℚ :=
  resolveFrequencyMhz
    { region := some radio.region
      channelNum := some slot
      bandwidthKhz := some radio.bandwidthKhz }

/-- A channel of a bandwidth around a frequency, inside a band. -/
def InsideBand (band : ℚ × ℚ) (bandwidthKhz frequencyMhz : ℚ) : Prop :=
  band.1 ≤ frequencyMhz - bandwidthKhz / 2000 ∧ frequencyMhz + bandwidthKhz / 2000 ≤ band.2

/-- The two frequencies of a slot are one, and its channel lies inside the region's band. -/
def SlotServed (radio : LoadedRadio ℚ) (band : ℚ × ℚ) (slot : Int) : Prop :=
  configuredMhz radio slot = firmwareMhz radio slot ∧
    InsideBand band radio.bandwidthKhz (configuredMhz radio slot)

/-- How far the nearest multiple of 100 Hz is from the centre of a slot, in units of 100 Hz. -/
def drift (bandwidthKhz : ℚ) (slot : Int) : ℚ :=
  roundHalfEven (5 * bandwidthKhz * (2 * slot - 1)) - 5 * bandwidthKhz * (2 * slot - 1)

/-- As many channels fit the band, and the drift of the last one keeps it inside. -/
def SlotFits (band : ℚ × ℚ) (bandwidthKhz : ℚ) (slot : Int) : Prop :=
  0 ≤ 10 * bandwidthKhz * (slot - 1) + drift bandwidthKhz slot ∧
    10 * bandwidthKhz * slot + drift bandwidthKhz slot ≤ (band.2 - band.1) * 10000

/-! ### Rounding -/

theorem roundHalfEven_add_even (x : ℚ) (k : Int) :
    roundHalfEven (2 * k + x) = 2 * k + roundHalfEven x := by
  have hfloor : (2 * k + x : ℚ).floor = 2 * k + x.floor := by
    have h := Int.floor_intCast_add (2 * k) x
    push_cast at h
    exact h
  have hhalf : (2 * k + x + 1 / 2 : ℚ).floor = 2 * k + (x + 1 / 2).floor := by
    have h := Int.floor_intCast_add (2 * k) (x + 1 / 2)
    push_cast at h
    rw [add_assoc]
    exact h
  have hfract : (2 * k + x - ((2 * k + x.floor : Int) : ℚ) = 1 / 2) ↔ x - x.floor = 1 / 2 := by
    push_cast
    constructor <;> intro h <;> linarith
  unfold roundHalfEven
  rw [hfloor, hhalf]
  by_cases htie : x - x.floor = 1 / 2
  · rw [if_pos (hfract.mpr htie), if_pos htie, Int.mul_add_emod_self_left]
    omega
  · rw [if_neg (mt hfract.mp htie), if_neg htie]

theorem round4_centre (k : Int) (bandwidthKhz : ℚ) (slot : Int) :
    round4 (2 * k / 10000 + bandwidthKhz / 2000 + (slot - 1) * (bandwidthKhz / 1000)) =
      (2 * k + 5 * bandwidthKhz * (2 * slot - 1) + drift bandwidthKhz slot) / 10000 := by
  have hunits : (2 * k / 10000 + bandwidthKhz / 2000 + (slot - 1) * (bandwidthKhz / 1000) : ℚ) *
      10000 = 2 * k + 5 * bandwidthKhz * (2 * slot - 1) := by ring
  unfold round4 drift
  rw [hunits, roundHalfEven_add_even]
  push_cast
  ring

/-! ### The tables -/

/-- A region of both tables: EU_868 starts 6.4 MHz apart, the others at the same even number of
    100 Hz. -/
theorem sharedRegion_cases {region : String} {freqStart : ℚ} {band : ℚ × ℚ}
    (hstart : REGION_FREQ_START.lookup region = some freqStart)
    (hband : REGION_BAND_MHZ.lookup region = some band) :
    region ≠ "" ∧ ∃ k : Int, freqStart = 2 * k / 10000 ∧
      (region = "EU_868" ∧ band.1 = 2 * (k + 32000 : Int) / 10000 ∨
        region ≠ "EU_868" ∧ band.1 = 2 * k / 10000) := by
  obtain ⟨before, after, hlist, -⟩ := List.lookup_eq_some_iff.mp hstart
  have hin : (region, freqStart) ∈ (REGION_FREQ_START : List (String × ℚ)) := by
    rw [hlist]
    simp
  simp only [REGION_FREQ_START, List.mem_cons, Prod.mk.injEq, List.not_mem_nil, or_false] at hin
  rcases hin with ⟨rfl, rfl⟩ | ⟨rfl, rfl⟩ | ⟨rfl, rfl⟩ | ⟨rfl, rfl⟩ | ⟨rfl, rfl⟩ | ⟨rfl, rfl⟩
  all_goals
    obtain rfl := Option.some.inj hband
    refine ⟨by decide, ?_⟩
  · exact ⟨4510000, by norm_num [RadioFloat.decimal], Or.inr ⟨by decide, by norm_num⟩⟩
  · exact ⟨4315000, by norm_num [RadioFloat.decimal], Or.inl ⟨rfl, by norm_num⟩⟩
  · exact ⟨4575000, by norm_num [RadioFloat.decimal], Or.inr ⟨by decide, by norm_num⟩⟩
  · exact ⟨4325000, by norm_num [RadioFloat.decimal], Or.inr ⟨by decide, by norm_num⟩⟩
  · exact ⟨4600000, by norm_num [RadioFloat.decimal], Or.inr ⟨by decide, by norm_num⟩⟩
  · exact ⟨4585000, by norm_num [RadioFloat.decimal], Or.inr ⟨by decide, by norm_num⟩⟩

/-! ### Agreement -/

theorem configuredMhz_eq {radio : LoadedRadio ℚ} {freqStart : ℚ}
    (hstart : REGION_FREQ_START.lookup radio.region = some freqStart) (slot : Int) :
    configuredMhz radio slot = round4 (freqStart + radio.bandwidthKhz / 2000 +
      (slot - 1) * (radio.bandwidthKhz / 1000)) := by
  have hhalf : freqStart + radio.bandwidthKhz / 1000 / 2 +
      (slot - 1) * (radio.bandwidthKhz / 1000) = freqStart + radio.bandwidthKhz / 2000 +
      (slot - 1) * (radio.bandwidthKhz / 1000) := by ring
  simp only [configuredMhz, resolveFrequency, hstart]
  rw [← hhalf]
  rfl

theorem firmwareMhz_eq {radio : LoadedRadio ℚ} {band : ℚ × ℚ} (hregion : radio.region ≠ "")
    (hband : REGION_BAND_MHZ.lookup radio.region = some band) (hbw : 0 < radio.bandwidthKhz)
    {slot : Int} (hslot : 1 ≤ slot) (hslots : slot ≤ numSlots band radio.bandwidthKhz) :
    firmwareMhz radio slot = round4 (band.1 + radio.bandwidthKhz / 2000 +
      (slot - 1) * (radio.bandwidthKhz / 1000)) := by
  have hwidth : ¬ radio.bandwidthKhz / 1000 ≤ 0 := not_le.mpr (by positivity)
  have hcount : ¬ numSlots band radio.bandwidthKhz ≤ 0 := by omega
  have hnonzero : slot ≠ 0 := by omega
  have hin : ¬ numSlots band radio.bandwidthKhz ≤ slot - 1 := by omega
  simp [firmwareMhz, resolveFrequencyMhz, slotOf, Option.filter, hregion, hband, hbw.ne', hwidth,
    hcount, hnonzero, hin]

/-- **Slots served.**  For a region of both tables, a bandwidth and a slot of the region, the
    configuration and the firmware agree on a channel of the band exactly when the region is not
    EU_868 and the channel fits. -/
theorem slotServed_iff (radio : LoadedRadio ℚ) {freqStart : ℚ} {band : ℚ × ℚ}
    (hstart : REGION_FREQ_START.lookup radio.region = some freqStart)
    (hband : REGION_BAND_MHZ.lookup radio.region = some band) (hbw : 0 < radio.bandwidthKhz)
    {slot : Int} (hslot : 1 ≤ slot) (hslots : slot ≤ numSlots band radio.bandwidthKhz) :
    SlotServed radio band slot ↔
      radio.region ≠ "EU_868" ∧ SlotFits band radio.bandwidthKhz slot := by
  obtain ⟨hregion, k, rfl, hcase⟩ := sharedRegion_cases hstart hband
  have hconfigured := configuredMhz_eq hstart slot
  have hfirmware := firmwareMhz_eq hregion hband hbw hslot hslots
  rw [round4_centre] at hconfigured
  unfold SlotServed
  rcases hcase with ⟨heu, hbandStart⟩ | ⟨hother, hbandStart⟩
  · rw [hbandStart, round4_centre] at hfirmware
    constructor
    · rintro ⟨hagree, -⟩
      rw [hconfigured, hfirmware] at hagree
      push_cast at hagree
      linarith
    · rintro ⟨hne, -⟩
      exact absurd heu hne
  · rw [hbandStart, round4_centre] at hfirmware
    have hinside : InsideBand band radio.bandwidthKhz (configuredMhz radio slot) ↔
        SlotFits band radio.bandwidthKhz slot := by
      unfold InsideBand SlotFits
      rw [hconfigured, hbandStart]
      constructor
      · rintro ⟨hlow, hhigh⟩
        constructor <;> linarith
      · rintro ⟨hlow, hhigh⟩
        constructor <;> linarith
    rw [hinside]
    exact ⟨fun h => ⟨hother, h.2⟩, fun h => ⟨hconfigured.trans hfirmware.symm, h.2⟩⟩

/-- The last of the twelve 250 kHz slots of Korea. -/
theorem slotServed_kr : SlotServed ⟨"KR", none, none, 11, 250, "4/5"⟩ (920, 923) 12 ↔
    "KR" ≠ "EU_868" ∧ SlotFits (920, 923) 250 12 := by
  have hstart : REGION_FREQ_START.lookup "KR" = some (920 : ℚ) := by decide +kernel
  exact slotServed_iff ⟨"KR", none, none, 11, 250, "4/5"⟩ hstart (by decide +kernel)
    (by norm_num) (by decide) (by decide +kernel)

/-- The one 250 kHz slot of EU_868: 863.125 MHz is configured, 869.525 MHz is meant. -/
theorem not_slotServed_eu868 :
    ¬ ∀ (radio : LoadedRadio ℚ) (freqStart : ℚ) (band : ℚ × ℚ) (slot : Int),
      REGION_FREQ_START.lookup radio.region = some freqStart →
      REGION_BAND_MHZ.lookup radio.region = some band → 0 < radio.bandwidthKhz → 1 ≤ slot →
      slot ≤ numSlots band radio.bandwidthKhz → SlotServed radio band slot := by
  intro h
  have hserved := h ⟨"EU_868", none, none, 11, 250, "4/5"⟩ 863 (8694 / 10, 86965 / 100) 1
    (by decide +kernel) (by decide +kernel) (by norm_num) (by decide) (by decide +kernel)
  exact absurd hserved.1 (by decide +kernel)

end Meshpoint.SlotFrequency
