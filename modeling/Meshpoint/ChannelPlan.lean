import Meshpoint.CapturePipeline

/-!
# The channel plan of the concentrator

Model of `src/hal/concentrator_config.py`, of `packets` of
`src/capture/concentrator_source.py` and of the bandwidth table of
`src/hal/sx1302_wrapper.py`: which service channel the concentrator listens on for
a radio configuration, and which protocol hint a frame heard there is given.

The plan follows region and frequency; the hint follows one fixed frequency.
`triedByMeshtastic_iff` says for which plans both agree.
-/

namespace Meshpoint

/-- The operations on the numbers of the radio configuration; `none` where Python raises. -/
class RadioFloat (F : Type) where
  /-- The literal `n / 10000`, in MHz. -/
  decimal : Int → F
  /-- `int(x * 1_000_000)`. -/
  hertz : F → Option Int
  /-- `int(x)`. -/
  kilohertz : F → Option Int
  /-- `round(start + spacing / 2 + (slot - 1) * spacing, 4)` with `spacing = bandwidth / 1000`. -/
  slotFrequency : (freqStart bandwidthKhz : F) → (slot : Int) → F
  /-- `x != y`. -/
  ne : F → F → Bool

namespace ChannelPlan

open CapturePipeline

/-! ### Plans -/

/-- `_REGION_DEFAULTS_HZ`. -/
def REGION_DEFAULTS_HZ : List (String × Int) :=
  [("US", 906875000), ("EU_868", 869525000), ("ANZ", 919875000), ("IN", 865875000),
    ("KR", 922875000), ("SG_923", 917875000)]

/-- `_REGION_BAND_LIMITS_HZ`. -/
def REGION_BAND_LIMITS_HZ : List (String × Int × Int) :=
  [("US", 902000000, 928000000), ("EU_868", 863000000, 870000000),
    ("ANZ", 915000000, 928000000), ("IN", 865000000, 867000000), ("KR", 920000000, 923000000),
    ("SG_923", 917000000, 925000000)]

/-- `_NARROW_BAND_REGIONS`. -/
def NARROW_BAND_REGIONS : List String := ["EU_868"]

/-- `default_frequency_hz`. -/
def defaultFrequencyHz (region : String) : Option Int := REGION_DEFAULTS_HZ.lookup region

/-- `band_limits_hz`. -/
def bandLimitsHz (region : String) : Option (Int × Int) := REGION_BAND_LIMITS_HZ.lookup region

/-- The frequency lies in the band of the region; a blank region has none. -/
def InBand (region : String) (freqHz : Int) : Prop :=
  ∃ band, bandLimitsHz region = some band ∧ band.1 ≤ freqHz ∧ freqHz ≤ band.2

structure ChannelConfig where
  frequencyHz : Int
  bandwidthKhz : Int := 125
  spreadingFactor : Int := 0
  enabled : Bool := true
deriving DecidableEq, Repr

structure ConcentratorChannelPlan where
  multiSfChannels : List ChannelConfig := []
  singleSfChannel : Option ChannelConfig := none
  radio0FreqHz : Int := 906800000
  radio1FreqHz : Int := 907400000
deriving DecidableEq, Repr

def channelsFrom (base step : Int) (count : Nat) : List ChannelConfig :=
  (List.range count).map fun (i : Nat) => { frequencyHz := base + (i : Int) * step }

/-- `_build_centered_plan`, with the bandwidth as an integer. -/
def buildCenteredPlan (centerFreqHz spreadingFactor bandwidthKhz : Int) :
    ConcentratorChannelPlan where
  radio0FreqHz := centerFreqHz
  radio1FreqHz := centerFreqHz + 800000
  singleSfChannel := some ⟨centerFreqHz, bandwidthKhz, spreadingFactor, true⟩
  multiSfChannels := channelsFrom (centerFreqHz - 700000) 200000 8

/-- `_build_narrow_plan`, with the bandwidth as an integer. -/
def buildNarrowPlan (centerFreqHz spreadingFactor bandwidthKhz : Int) :
    ConcentratorChannelPlan where
  radio0FreqHz := centerFreqHz
  radio1FreqHz := centerFreqHz
  singleSfChannel := some ⟨centerFreqHz, bandwidthKhz, spreadingFactor, true⟩
  multiSfChannels :=
    [{ frequencyHz := centerFreqHz - 62500 }, { frequencyHz := centerFreqHz + 62500 }] ++
      List.replicate 6 { frequencyHz := centerFreqHz, enabled := false }

/-- `_build_wide_band_plan`. -/
def buildWideBandPlan (primaryFreqHz radio0FreqHz radio1FreqHz multiSfBaseHz : Int) :
    ConcentratorChannelPlan where
  radio0FreqHz := radio0FreqHz
  radio1FreqHz := radio1FreqHz
  singleSfChannel := some ⟨primaryFreqHz, 250, 11, true⟩
  multiSfChannels := channelsFrom multiSfBaseHz 200000 8

def meshtasticUs915Default : ConcentratorChannelPlan :=
  buildWideBandPlan 906875000 906800000 907400000 906200000

def meshtasticAnzDefault : ConcentratorChannelPlan :=
  buildWideBandPlan 919875000 919800000 920400000 919200000

def meshtasticIn865Default : ConcentratorChannelPlan :=
  buildWideBandPlan 865875000 865800000 866400000 865200000

def meshtasticSg923Default : ConcentratorChannelPlan :=
  buildWideBandPlan 917875000 917800000 918400000 917200000

def meshtasticKr920Default : ConcentratorChannelPlan where
  radio0FreqHz := 922400000
  radio1FreqHz := 921400000
  singleSfChannel := some ⟨922875000, 250, 11, true⟩
  multiSfChannels :=
    channelsFrom 921800000 200000 6 ++
      List.replicate 2 { frequencyHz := 922400000, enabled := false }

def eu868Lorawan : ConcentratorChannelPlan where
  radio0FreqHz := 868300000
  radio1FreqHz := 869525000
  singleSfChannel := some ⟨869525000, 250, 11, true⟩
  multiSfChannels :=
    [{ frequencyHz := 867900000 }, { frequencyHz := 868100000 }, { frequencyHz := 868300000 },
      { frequencyHz := 868500000 }, { frequencyHz := 868700000 }, { frequencyHz := 869525000 },
      { frequencyHz := 869525000, enabled := false },
      { frequencyHz := 869525000, enabled := false }]

/-- `for_region`. -/
def forRegion (region : String) : Option ConcentratorChannelPlan :=
  [("US", meshtasticUs915Default), ("EU_868", eu868Lorawan), ("ANZ", meshtasticAnzDefault),
    ("IN", meshtasticIn865Default), ("KR", meshtasticKr920Default),
    ("SG_923", meshtasticSg923Default)].lookup region

/-- Why `from_radio_config` raises. -/
inductive PlanError where
  | notFinite
  | unsupportedRegion (region : String)
  | outsideBand (region : String)
deriving DecidableEq, Repr

section

variable {F : Type} [RadioFloat F]

def converted (n : Option Int) : Except PlanError Int := n.elim (.error .notFinite) .ok

/-- The frequency a regional plan is built on; the default of another region outside the
    band is replaced by the default of this one. -/
def targetFrequency (region : String) (defaultHz bandMin bandMax freqHz : Int) :
    Except PlanError Int :=
  if freqHz = defaultHz ∨ (bandMin ≤ freqHz ∧ freqHz ≤ bandMax) then .ok freqHz
  else if (REGION_DEFAULTS_HZ.map Prod.snd).contains freqHz then .ok defaultHz
  else .error (.outsideBand region)

/-- Spreading factor 11 at 250 kHz; the bandwidth is only read at that factor. -/
def isLongfast (spreadingFactor : Int) (bandwidthKhz : F) : Except PlanError Bool :=
  if spreadingFactor = 11 then
    (converted (RadioFloat.kilohertz bandwidthKhz)).map fun bandwidth => decide (bandwidth = 250)
  else .ok false

/-- `from_radio_config`. -/
def fromRadioConfig (region : String) (frequencyMhz : F) (spreadingFactor : Int)
    (bandwidthKhz : F) : Except PlanError ConcentratorChannelPlan := do
  let freqHz ← converted (RadioFloat.hertz frequencyMhz)
  if region = "" then
    let bandwidth ← converted (RadioFloat.kilohertz bandwidthKhz)
    return buildCenteredPlan freqHz spreadingFactor bandwidth
  else
    match defaultFrequencyHz region, bandLimitsHz region with
    | some defaultHz, some (bandMin, bandMax) =>
      let longfast ← isLongfast spreadingFactor bandwidthKhz
      if freqHz = defaultHz ∧ longfast then
        (forRegion region).elim (.error (.unsupportedRegion region)) .ok
      else
        let targetFreq ← targetFrequency region defaultHz bandMin bandMax freqHz
        let bandwidth ← converted (RadioFloat.kilohertz bandwidthKhz)
        return if NARROW_BAND_REGIONS.contains region then
            buildNarrowPlan targetFreq spreadingFactor bandwidth
          else buildCenteredPlan targetFreq spreadingFactor bandwidth
    | _, _ => .error (.unsupportedRegion region)

end

/-! ### The service channel of a plan -/

/-- The frequency a plan serves: the configured one, or the default of the region when
    the configured one is outside its band. -/
def servedFrequency (region : String) (freqHz : Int) : Int :=
  match defaultFrequencyHz region, bandLimitsHz region with
  | some defaultHz, some (bandMin, bandMax) =>
    if freqHz = defaultHz ∨ (bandMin ≤ freqHz ∧ freqHz ≤ bandMax) then freqHz else defaultHz
  | _, _ => freqHz

theorem inBand_default {region : String} {defaultHz : Int}
    (h : defaultFrequencyHz region = some defaultHz) : InBand region defaultHz := by
  have hall : ∀ entry ∈ REGION_DEFAULTS_HZ, ∃ band ∈ bandLimitsHz entry.1,
      band.1 ≤ entry.2 ∧ entry.2 ≤ band.2 := by decide
  have hmem : (region, defaultHz) ∈ REGION_DEFAULTS_HZ := by
    obtain ⟨before, after, hsplit, -⟩ := List.lookup_eq_some_iff.mp h
    rw [hsplit]
    exact List.mem_append_right _ List.mem_cons_self
  exact hall _ hmem

theorem singleSf_forRegion {region : String} {defaultHz : Int} {plan : ConcentratorChannelPlan}
    (hdefault : defaultFrequencyHz region = some defaultHz) (h : forRegion region = some plan) :
    plan.singleSfChannel = some ⟨defaultHz, 250, 11, true⟩ := by
  have hall : ∀ entry ∈ REGION_DEFAULTS_HZ, ∃ plan ∈ forRegion entry.1,
      plan.singleSfChannel = some ⟨entry.2, 250, 11, true⟩ := by decide
  have hmem : (region, defaultHz) ∈ REGION_DEFAULTS_HZ := by
    obtain ⟨before, after, hsplit, -⟩ := List.lookup_eq_some_iff.mp hdefault
    rw [hsplit]
    exact List.mem_append_right _ List.mem_cons_self
  obtain ⟨plan', hplan', hsingle⟩ := hall _ hmem
  rw [Option.mem_def, h] at hplan'
  cases hplan'
  exact hsingle

section

variable {F : Type} [RadioFloat F]

theorem converted_eq_ok {n : Option Int} {k : Int} (h : converted n = .ok k) : n = some k := by
  cases n with
  | none => cases h
  | some n => exact congrArg some (Except.ok.inj h)

/-- What a plan is built for: any frequency when the region is blank, else one in its band
    or the default of some region. -/
def Accepted (region : String) (freqHz : Int) : Prop :=
  region = "" ∨ InBand region freqHz ∨ freqHz ∈ REGION_DEFAULTS_HZ.map Prod.snd

theorem accepted_of_targetFrequency {region : String}
    {defaultHz bandMin bandMax freqHz target : Int}
    (hdefault : defaultFrequencyHz region = some defaultHz)
    (hband : bandLimitsHz region = some (bandMin, bandMax))
    (h : targetFrequency region defaultHz bandMin bandMax freqHz = .ok target) :
    Accepted region freqHz := by
  unfold targetFrequency at h
  split at h
  · rename_i hin
    right
    left
    rcases hin with rfl | hin
    · exact inBand_default hdefault
    · exact ⟨_, hband, hin⟩
  · split at h
    · rename_i hother
      exact Or.inr (Or.inr (List.contains_iff_mem.mp hother))
    · cases h

theorem targetFrequency_eq_ok {region : String} {defaultHz bandMin bandMax freqHz target : Int}
    (hdefault : defaultFrequencyHz region = some defaultHz)
    (hband : bandLimitsHz region = some (bandMin, bandMax))
    (h : targetFrequency region defaultHz bandMin bandMax freqHz = .ok target) :
    target = servedFrequency region freqHz := by
  unfold targetFrequency at h
  unfold servedFrequency
  rw [hdefault, hband]
  simp only
  split at h
  · rename_i hin
    rw [if_pos hin]
    exact (Except.ok.inj h).symm
  · rename_i hout
    rw [if_neg hout]
    split at h
    · exact (Except.ok.inj h).symm
    · cases h

theorem bind_eq_ok {ε α β : Type} {x : Except ε α} {f : α → Except ε β} {b : β}
    (h : (x >>= f) = .ok b) : ∃ a, x = .ok a ∧ f a = .ok b := by
  cases x with
  | error e => cases h
  | ok a => exact ⟨a, rfl, h⟩

theorem singleSf_fromRadioConfig {region : String} {frequencyMhz : F} {spreadingFactor : Int}
    {bandwidthKhz : F} {plan : ConcentratorChannelPlan}
    (h : fromRadioConfig region frequencyMhz spreadingFactor bandwidthKhz = .ok plan) :
    ∃ freqHz bandwidth, RadioFloat.hertz frequencyMhz = some freqHz ∧
      RadioFloat.kilohertz bandwidthKhz = some bandwidth ∧
      plan.singleSfChannel =
        some ⟨servedFrequency region freqHz, bandwidth, spreadingFactor, true⟩ ∧
      Accepted region freqHz := by
  obtain ⟨freqHz, hfreq, hregion⟩ := bind_eq_ok h
  refine ⟨freqHz, ?_⟩
  split at hregion
  · -- a blank region: the plan is centred on the given frequency
    rename_i hblank
    obtain ⟨bandwidth, hbandwidth, hplan⟩ := bind_eq_ok hregion
    refine ⟨bandwidth, converted_eq_ok hfreq, converted_eq_ok hbandwidth, ?_, Or.inl hblank⟩
    obtain rfl := Except.ok.inj hplan
    rw [hblank]
    rfl
  · split at hregion
    · rename_i defaultHz bandMin bandMax hdefault hband
      obtain ⟨longfast, hlongfast, hplan⟩ := bind_eq_ok hregion
      split at hplan
      · -- the default plan, which is built for exactly these settings
        rename_i hdefaults
        obtain ⟨rfl, rfl⟩ := hdefaults
        unfold isLongfast at hlongfast
        split at hlongfast
        · rename_i hsf
          cases hbandwidth : converted (RadioFloat.kilohertz bandwidthKhz) with
          | error e =>
            rw [hbandwidth] at hlongfast
            cases hlongfast
          | ok bandwidth =>
            rw [hbandwidth] at hlongfast
            obtain rfl : bandwidth = 250 := of_decide_eq_true (Except.ok.inj hlongfast)
            refine ⟨250, converted_eq_ok hfreq, converted_eq_ok hbandwidth, ?_,
              Or.inr (Or.inl (inBand_default hdefault))⟩
            cases hfor : forRegion region with
            | none =>
              rw [hfor] at hplan
              cases hplan
            | some built =>
              rw [hfor] at hplan
              obtain rfl := Except.ok.inj hplan
              rw [singleSf_forRegion hdefault hfor, hsf, servedFrequency, hdefault, hband]
              simp
        · cases hlongfast
      · obtain ⟨target, htarget, hbuilt⟩ := bind_eq_ok hplan
        obtain ⟨bandwidth, hbandwidth, hbuilt⟩ := bind_eq_ok hbuilt
        refine ⟨bandwidth, converted_eq_ok hfreq, converted_eq_ok hbandwidth, ?_,
          accepted_of_targetFrequency hdefault hband htarget⟩
        obtain rfl := Except.ok.inj hbuilt
        rw [← targetFrequency_eq_ok hdefault hband htarget]
        split <;> rfl
    · cases hregion

/-- A plan serves the configured frequency of a region exactly when it is in the band. -/
theorem servedFrequency_inBand_iff {region : String} {freqHz : Int}
    (hdefault : (defaultFrequencyHz region).isSome = true) :
    servedFrequency region freqHz = freqHz ↔ InBand region freqHz := by
  obtain ⟨defaultHz, hdefault⟩ := Option.isSome_iff_exists.mp hdefault
  obtain ⟨⟨bandMin, bandMax⟩, hband, hlow, hhigh⟩ := inBand_default hdefault
  unfold servedFrequency
  rw [hdefault, hband]
  simp only
  constructor
  · intro hserved
    refine ⟨(bandMin, bandMax), hband, ?_⟩
    by_cases hin : freqHz = defaultHz ∨ (bandMin ≤ freqHz ∧ freqHz ≤ bandMax)
    · rcases hin with rfl | hin
      · exact ⟨hlow, hhigh⟩
      · exact hin
    · rw [if_neg hin] at hserved
      exact absurd (Or.inl hserved.symm) hin
  · rintro ⟨band, hband', hin⟩
    rw [hband] at hband'
    cases hband'
    exact if_pos (Or.inr hin)

end

/-! ### Packets heard on the service channel -/

def BW_125KHZ : Nat := 4
def BW_250KHZ : Nat := 5
def BW_500KHZ : Nat := 6

/-- `BW_KHZ_TO_HAL.get(khz, BW_250KHZ)`. -/
def halBandwidth (khz : Int) : Nat :=
  if khz = 125 then BW_125KHZ
  else if khz = 250 then BW_250KHZ
  else if khz = 500 then BW_500KHZ
  else BW_250KHZ

/-- `_MESHTASTIC_EU868_FREQS_HZ`. -/
def MESHTASTIC_EU868_FREQS_HZ : List Int := [869525000]

/-- A packet as the HAL hands it over. -/
structure ConcentratorPacket (F : Type) where
  payload : Bytes
  frequencyHz : Int
  bandwidth : Nat
  fsk : Bool
  rssi : F
  snr : F

section

variable {F : Type}

def protocolHint (frequencyHz : Int) (bandwidth : Nat) : Protocol :=
  if MESHTASTIC_EU868_FREQS_HZ.contains frequencyHz && bandwidth = BW_250KHZ then .meshtastic
  else .lorawan

/-- The capture `packets` yields for a packet. -/
def capture (pkt : ConcentratorPacket F) : RawCapture F where
  payload := pkt.payload
  signal := ⟨pkt.rssi, pkt.snr⟩
  captureSource := "concentrator"
  protocolHint := some (if pkt.fsk then .pager else protocolHint pkt.frequencyHz pkt.bandwidth)

/-- A LoRa packet heard on a service channel: its frequency, and the bandwidth the HAL is
    configured with for it. -/
structure HeardOn (ch : ChannelConfig) (pkt : ConcentratorPacket F) : Prop where
  lora : pkt.fsk = false
  frequency : pkt.frequencyHz = ch.frequencyHz
  bandwidth : pkt.bandwidth = halBandwidth ch.bandwidthKhz

/-- A packet heard on the service channel of a plan. -/
def HeardOnPrimary (plan : ConcentratorChannelPlan) (pkt : ConcentratorPacket F) : Prop :=
  ∃ ch, plan.singleSfChannel = some ch ∧ HeardOn ch pkt

/-- The service channel of the plan is Meshtastic's EU868 channel as the HAL sees it. -/
def ServesEu868 (plan : ConcentratorChannelPlan) : Prop :=
  ∃ ch, plan.singleSfChannel = some ch ∧
    ch.frequencyHz = 869525000 ∧ ch.bandwidthKhz ≠ 125 ∧ ch.bandwidthKhz ≠ 500

/-- The capture has the Meshtastic hint, and whatever the decoders are, the Meshtastic
    decoder is the one that reads it. -/
structure TriedByMeshtastic [PyFloat F] (raw : RawCapture F) : Prop where
  hint : raw.protocolHint = some .meshtastic
  tried : ∀ (d : Decoders F) (now : Int), d.route raw now = d.meshtastic raw now

theorem halBandwidth_eq_250_iff (khz : Int) :
    halBandwidth khz = BW_250KHZ ↔ khz ≠ 125 ∧ khz ≠ 500 := by
  unfold halBandwidth
  by_cases h125 : khz = 125
  · simp [h125, BW_125KHZ, BW_250KHZ]
  · by_cases h250 : khz = 250
    · simp [h250]
    · by_cases h500 : khz = 500
      · simp [h500, BW_500KHZ, BW_250KHZ]
      · simp [h125, h500]

theorem protocolHint_eq_meshtastic_iff (frequencyHz : Int) (bandwidth : Nat) :
    protocolHint frequencyHz bandwidth = .meshtastic ↔
      frequencyHz = 869525000 ∧ bandwidth = BW_250KHZ := by
  unfold protocolHint MESHTASTIC_EU868_FREQS_HZ
  constructor
  · intro h
    split at h
    · rename_i hboth
      simpa using hboth
    · cases h
  · rintro ⟨rfl, rfl⟩
    rfl

/-- **Primary-channel routing.**  A packet heard on the service channel of a plan is tried
    by the Meshtastic decoder exactly when the channel is the one of the EU868 band. -/
theorem triedByMeshtastic_iff [PyFloat F] (plan : ConcentratorChannelPlan)
    (pkt : ConcentratorPacket F) (hheard : HeardOnPrimary plan pkt) :
    TriedByMeshtastic (capture pkt) ↔ ServesEu868 plan := by
  obtain ⟨ch, hsingle, hheard⟩ := hheard
  have hhint : (capture pkt).protocolHint =
      some (protocolHint ch.frequencyHz (halBandwidth ch.bandwidthKhz)) := by
    simp only [capture, hheard.lora, hheard.frequency, hheard.bandwidth, Bool.false_eq_true,
      if_false]
  constructor
  · intro h
    have hmeshtastic := Option.some.inj (hhint.symm.trans h.hint)
    obtain ⟨hfreq, hbandwidth⟩ := (protocolHint_eq_meshtastic_iff _ _).mp hmeshtastic
    exact ⟨ch, hsingle, hfreq, (halBandwidth_eq_250_iff _).mp hbandwidth⟩
  · rintro ⟨ch', hsingle', hfreq, hbandwidth⟩
    rw [hsingle] at hsingle'
    cases hsingle'
    rw [(protocolHint_eq_meshtastic_iff _ _).mpr
      ⟨hfreq, (halBandwidth_eq_250_iff _).mpr hbandwidth⟩] at hhint
    refine ⟨hhint, ?_⟩
    intro d now
    unfold Decoders.route
    rw [hhint]

/-- The EU868 default plan and a packet on its service channel. -/
theorem triedByMeshtastic_iff_eu868 :
    HeardOnPrimary (F := WholeFloat) eu868Lorawan
        ⟨[], 869525000, BW_250KHZ, false, ⟨-90⟩, ⟨5⟩⟩ ∧
      TriedByMeshtastic (F := WholeFloat)
        (capture ⟨[], 869525000, BW_250KHZ, false, ⟨-90⟩, ⟨5⟩⟩) := by
  have hheard : HeardOnPrimary (F := WholeFloat) eu868Lorawan
      ⟨[], 869525000, BW_250KHZ, false, ⟨-90⟩, ⟨5⟩⟩ := ⟨_, rfl, ⟨rfl, rfl, rfl⟩⟩
  exact ⟨hheard, (triedByMeshtastic_iff eu868Lorawan _ hheard).mpr ⟨_, rfl, by decide⟩⟩

/-- The plan built from a radio configuration serves EU868 exactly when the served
    frequency is 869.525 MHz and the bandwidth is not 125 or 500 kHz. -/
theorem servesEu868_fromRadioConfig_iff [RadioFloat F] {region : String}
    {frequencyMhz bandwidthKhz : F} {spreadingFactor : Int} {plan : ConcentratorChannelPlan}
    (h : fromRadioConfig region frequencyMhz spreadingFactor bandwidthKhz = .ok plan) :
    ServesEu868 plan ↔ ∃ freqHz bandwidth, RadioFloat.hertz frequencyMhz = some freqHz ∧
      RadioFloat.kilohertz bandwidthKhz = some bandwidth ∧
      servedFrequency region freqHz = 869525000 ∧ bandwidth ≠ 125 ∧ bandwidth ≠ 500 := by
  obtain ⟨freqHz, bandwidth, hfreq, hbandwidth, hsingle, -⟩ := singleSf_fromRadioConfig h
  constructor
  · rintro ⟨ch, hsingle', hserves⟩
    rw [hsingle] at hsingle'
    cases hsingle'
    exact ⟨freqHz, bandwidth, hfreq, hbandwidth, hserves⟩
  · rintro ⟨freqHz', bandwidth', hfreq', hbandwidth', hserves⟩
    rw [hfreq] at hfreq'
    rw [hbandwidth] at hbandwidth'
    cases hfreq'
    cases hbandwidth'
    exact ⟨_, hsingle, hserves⟩

/-- The LongFast plan of the US: a packet on its primary channel at 906.875 MHz gets the
    LoRaWAN hint, and only the LoRaWAN decoder reads it. -/
theorem us915_primary_to_lorawan :
    ∃ pkt : ConcentratorPacket WholeFloat, forRegion "US" = some meshtasticUs915Default ∧
      HeardOnPrimary meshtasticUs915Default pkt ∧
      ¬ TriedByMeshtastic (capture pkt) ∧
      ∀ (d : Decoders WholeFloat) (now : Int),
        d.route (capture pkt) now = d.lorawan.decode pkt.payload (capture pkt).signal := by
  refine ⟨⟨[0xff, 0xff, 0xff, 0xff], 906875000, BW_250KHZ, false, ⟨-90⟩, ⟨5⟩⟩, rfl,
    ⟨_, rfl, ⟨rfl, rfl, rfl⟩⟩, ?_, ?_⟩
  · intro h
    cases h.hint
  · intro d now
    rfl

end

end ChannelPlan

end Meshpoint
