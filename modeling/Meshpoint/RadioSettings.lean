import Mathlib.Data.Rat.Floor
import Meshpoint.ChannelPlan
import Meshpoint.GuardedRun

/-!
# Radio settings, received and transmitted

Model of `_resolve_radio_frequency` (`src/config.py`), of `update_radio`
(`src/api/routes/config_routes.py`) and of `_build_hal_packet`
(`src/transmit/tx_service.py`).

The concentrator's plan is built once, at startup.  The HAL packet of a
transmission is built from the configuration object itself, which `update_radio`
changes in place while the restart it asks for is still to come.  `onPlan_start_iff`
compares the two at startup, `step_spec` says what a request does to the comparison, and
`onPlan_run` follows it through a run.
-/

namespace Meshpoint.RadioSettings

open ChannelPlan GuardedRun

/-! ### Configuration -/

/-- The `radio` section as it was loaded. -/
structure LoadedRadio (F : Type) where
  region : String
  frequencyMhz : Option F
  slot : Option Int
  spreadingFactor : Int
  bandwidthKhz : F
  codingRate : String

/-- `RadioConfig` once the frequency is resolved. -/
structure RadioConfig (F : Type) where
  region : String
  frequencyMhz : F
  spreadingFactor : Int
  bandwidthKhz : F
  codingRate : String
deriving DecidableEq

section

variable {F : Type} [RadioFloat F]

/-- `_REGION_FREQ_START`. -/
def REGION_FREQ_START : List (String × F) :=
  [("US", RadioFloat.decimal 9020000), ("EU_868", RadioFloat.decimal 8630000),
    ("ANZ", RadioFloat.decimal 9150000), ("IN", RadioFloat.decimal 8650000),
    ("KR", RadioFloat.decimal 9200000), ("SG_923", RadioFloat.decimal 9170000)]

/-- `REGION_DEFAULTS` and `_REGION_DEFAULT_FREQ`, which have the same frequencies. -/
def REGION_DEFAULTS : List (String × F) :=
  [("US", RadioFloat.decimal 9068750), ("EU_868", RadioFloat.decimal 8695250),
    ("ANZ", RadioFloat.decimal 9160000), ("IN", RadioFloat.decimal 8654625),
    ("KR", RadioFloat.decimal 9219000), ("SG_923", RadioFloat.decimal 9230000)]

def SUPPORTED_REGIONS : List String := ["US", "EU_868", "ANZ", "IN", "KR", "SG_923"]

/-- `_resolve_radio_frequency`: the given frequency, else the slot's, else the region's. -/
def resolveFrequency (radio : LoadedRadio F) : F :=
  match radio.frequencyMhz with
  | some frequency => frequency
  | none =>
    match radio.slot, REGION_FREQ_START.lookup radio.region with
    | some slot, some freqStart => RadioFloat.slotFrequency freqStart radio.bandwidthKhz slot
    | _, _ => (REGION_DEFAULTS.lookup radio.region).getD (RadioFloat.decimal 9068750)

def resolveRadioFrequency (radio : LoadedRadio F) : RadioConfig F where
  region := radio.region
  frequencyMhz := resolveFrequency radio
  spreadingFactor := radio.spreadingFactor
  bandwidthKhz := radio.bandwidthKhz
  codingRate := radio.codingRate

/-! ### Changing it -/

/-- The LoRa parameters of a preset. -/
structure ModemPreset (F : Type) where
  name : String
  spreadingFactor : Int
  bandwidthKhz : F
  codingRate : String

def MODEM_PRESETS : List (ModemPreset F) :=
  [⟨"LONG_FAST", 11, RadioFloat.decimal 2500000, "4/5"⟩,
    ⟨"LONG_TURBO", 11, RadioFloat.decimal 5000000, "4/8"⟩,
    ⟨"LONG_MODERATE", 11, RadioFloat.decimal 1250000, "4/8"⟩,
    ⟨"LONG_SLOW", 12, RadioFloat.decimal 1250000, "4/8"⟩,
    ⟨"VERY_LONG_SLOW", 12, RadioFloat.decimal 625000, "4/8"⟩,
    ⟨"MEDIUM_FAST", 9, RadioFloat.decimal 2500000, "4/5"⟩,
    ⟨"MEDIUM_SLOW", 10, RadioFloat.decimal 2500000, "4/5"⟩,
    ⟨"SHORT_FAST", 7, RadioFloat.decimal 2500000, "4/5"⟩,
    ⟨"SHORT_SLOW", 8, RadioFloat.decimal 2500000, "4/5"⟩,
    ⟨"SHORT_TURBO", 7, RadioFloat.decimal 5000000, "4/5"⟩]

/-- `get_preset`; `upper` is `str.upper`. -/
def getPreset (upper : String → String) (name : String) : Option (ModemPreset F) :=
  MODEM_PRESETS.find? fun preset => decide (preset.name = upper name)

/-- The body of `PUT /config/radio`. -/
structure RadioUpdate (F : Type) where
  region : Option String := none
  preset : Option String := none
  frequencyMhz : Option F := none
  spreadingFactor : Option Int := none
  bandwidthKhz : Option F := none
  codingRate : Option String := none

structure HttpError where
  status : Nat
  detail : String
deriving DecidableEq, Repr

/-- The `updates` dictionary: the fields that are set. -/
structure RadioChanges (F : Type) where
  region : Option String := none
  frequencyMhz : Option F := none
  spreadingFactor : Option Int := none
  bandwidthKhz : Option F := none
  codingRate : Option String := none

def RadioChanges.isEmpty (changes : RadioChanges F) : Bool :=
  changes.region.isNone && changes.frequencyMhz.isNone && changes.spreadingFactor.isNone &&
    changes.bandwidthKhz.isNone && changes.codingRate.isNone

/-- `setattr` for each update. -/
def RadioConfig.apply (radio : RadioConfig F) (changes : RadioChanges F) : RadioConfig F where
  region := changes.region.getD radio.region
  frequencyMhz := changes.frequencyMhz.getD radio.frequencyMhz
  spreadingFactor := changes.spreadingFactor.getD radio.spreadingFactor
  bandwidthKhz := changes.bandwidthKhz.getD radio.bandwidthKhz
  codingRate := changes.codingRate.getD radio.codingRate

/-- The modulation part of the updates: those of the preset, else the single fields. -/
def modulationChanges (upper : String → String) (req : RadioUpdate F) :
    Except HttpError (RadioChanges F) :=
  match req.preset with
  | some name =>
    match getPreset upper name with
    | none => .error ⟨400, "Unknown preset: " ++ name⟩
    | some preset =>
      .ok { spreadingFactor := some preset.spreadingFactor
            bandwidthKhz := some preset.bandwidthKhz
            codingRate := some preset.codingRate }
  | none =>
    match req.codingRate with
    | some rate =>
      if ["4/5", "4/6", "4/7", "4/8"].contains rate then
        .ok { spreadingFactor := req.spreadingFactor
              bandwidthKhz := req.bandwidthKhz
              codingRate := some rate }
      else .error ⟨400, "Invalid coding rate: " ++ rate⟩
    | none =>
      .ok { spreadingFactor := req.spreadingFactor, bandwidthKhz := req.bandwidthKhz }

/-- The frequency of a request: the given one, else the default of the given region. -/
def requestedFrequency (req : RadioUpdate F) : Option F :=
  match req.frequencyMhz with
  | some frequency => some frequency
  | none => req.region.bind fun region => REGION_DEFAULTS.lookup region

/-- The `updates` of a request, or why it is refused before anything is changed. -/
def requestedChanges (upper : String → String) (req : RadioUpdate F) :
    Except HttpError (RadioChanges F) :=
  if req.region.any fun region => !SUPPORTED_REGIONS.contains region then
    .error ⟨400, "Unknown region: " ++ req.region.getD ""⟩
  else (modulationChanges upper req).map fun changes =>
    { changes with region := req.region, frequencyMhz := requestedFrequency req }

/-- `restart_required` of the answer: some requested value differs from the configured one. -/
def restartNeeded (radio : RadioConfig F) (req : RadioUpdate F) (changes : RadioChanges F) :
    Bool :=
  req.region.any (fun region => decide (region ≠ radio.region)) ||
    changes.spreadingFactor.any (fun sf => decide (sf ≠ radio.spreadingFactor)) ||
    changes.bandwidthKhz.any (fun bw => RadioFloat.ne bw radio.bandwidthKhz) ||
    changes.codingRate.any (fun rate => decide (rate ≠ radio.codingRate)) ||
    req.frequencyMhz.any (fun frequency => RadioFloat.ne frequency radio.frequencyMhz)

/-- `update_radio`: the configuration afterwards and the answer.  `writable` says whether
    `local.yaml` can be written; the configuration is changed before that is tried, and it
    is only tried when there are updates. -/
def updateRadio (upper : String → String) (radio : RadioConfig F) (req : RadioUpdate F)
    (writable : Bool) : RadioConfig F × Except HttpError Bool :=
  match requestedChanges upper req with
  | .error e => (radio, .error e)
  | .ok changes =>
    (radio.apply changes,
      if changes.isEmpty || writable then .ok (restartNeeded radio req changes)
      else .error ⟨403, "Permission denied"⟩)

/-! ### Transmitting -/

/-- The fields of `LgwPktTxS` that depend on settings or packet, as the C struct holds them. -/
structure HalPacket where
  freqHz : Nat
  rfPower : Int
  bandwidth : Nat
  datarate : Nat
  coderate : Nat
  size : Nat
  payload : Bytes
deriving DecidableEq, Repr

/-- `_resolve_coderate`. -/
def resolveCoderate (rate : String) : Nat :=
  ([("4/5", 1), ("4/6", 2), ("4/7", 3), ("4/8", 4)].lookup rate).getD 1

/-- `_build_hal_packet`; `none` when a setting is no finite number. -/
def buildHalPacket (radio : RadioConfig F) (txPowerDbm : Int) (packetBytes : Bytes) :
    Option HalPacket := do
  let freqHz ← RadioFloat.hertz radio.frequencyMhz
  let bandwidth ← RadioFloat.kilohertz radio.bandwidthKhz
  return { freqHz := (freqHz % 2 ^ 32).toNat
           rfPower := (txPowerDbm + 128) % 256 - 128
           bandwidth := halBandwidth bandwidth
           datarate := (radio.spreadingFactor % 2 ^ 32).toNat
           coderate := resolveCoderate radio.codingRate
           size := packetBytes.length % 2 ^ 16
           payload := packetBytes.take 256 }

/-- `BW_MAP`. -/
def halBandwidthKhz (bandwidth : Nat) : Int :=
  if bandwidth = BW_125KHZ then 125 else if bandwidth = BW_250KHZ then 250 else 500

/-- The packet goes out on the service channel of the plan, inside the region's band. -/
structure OnServiceChannel (plan : ConcentratorChannelPlan) (region : String) (pkt : HalPacket) :
    Prop where
  channel : ∃ ch, plan.singleSfChannel = some ch ∧ (pkt.freqHz : Int) = ch.frequencyHz ∧
    (pkt.datarate : Int) = ch.spreadingFactor ∧ halBandwidthKhz pkt.bandwidth = ch.bandwidthKhz
  band : InBand region pkt.freqHz

/-! ### Runs -/

/-- The running service: its plan, the configuration it was started with, and the
    configuration object as it is now. -/
structure Service (F : Type) where
  plan : ConcentratorChannelPlan
  started : RadioConfig F
  radio : RadioConfig F
deriving DecidableEq

def start (loaded : LoadedRadio F) : Except PlanError (Service F) :=
  let radio := resolveRadioFrequency loaded
  (fromRadioConfig radio.region radio.frequencyMhz radio.spreadingFactor radio.bandwidthKhz).map
    fun plan => ⟨plan, radio, radio⟩

/-- A `PUT /config/radio` request. -/
structure Put (F : Type) where
  req : RadioUpdate F
  writable : Bool

def step (upper : String → String) (s : Service F) (e : Put F) : Option (Service F) :=
  some { s with radio := (updateRadio upper s.radio e.req e.writable).1 }

/-- Every HAL packet that `TxService` builds now is on the plan's service channel. -/
def OnPlan (s : Service F) : Prop :=
  ∀ txPowerDbm packetBytes pkt, buildHalPacket s.radio txPowerDbm packetBytes = some pkt →
    OnServiceChannel s.plan s.radio.region pkt

/-- `freq_hz` of a HAL packet for a configured frequency. -/
def onAirHz (frequencyMhz : F) : Option Int :=
  (RadioFloat.hertz frequencyMhz).map fun freqHz => freqHz % 2 ^ 32

/-- `bandwidth` of a HAL packet for a configured bandwidth. -/
def onAirBandwidth (bandwidthKhz : F) : Option Nat :=
  (RadioFloat.kilohertz bandwidthKhz).map halBandwidth

/-- Startup settings that both sides read the same way: the frequency lies in the band of
    the region, the HAL has the bandwidth, and the spreading factor fits its field. -/
def StartsOnPlan (radio : RadioConfig F) : Prop :=
  ∃ freqHz bandwidth, RadioFloat.hertz radio.frequencyMhz = some freqHz ∧
    RadioFloat.kilohertz radio.bandwidthKhz = some bandwidth ∧ InBand radio.region freqHz ∧
    (bandwidth = 125 ∨ bandwidth = 250 ∨ bandwidth = 500) ∧
    0 ≤ radio.spreadingFactor ∧ radio.spreadingFactor < 2 ^ 32

/-- Changes that say nothing else about the air than the startup settings: each value that
    is set has the effect of the startup's, and a region that is set has the startup
    frequency in its band. -/
structure KeepsOnAir (started : RadioConfig F) (changes : RadioChanges F) : Prop where
  frequency : ∀ x, changes.frequencyMhz = some x → onAirHz x = onAirHz started.frequencyMhz
  bandwidth : ∀ x, changes.bandwidthKhz = some x →
    onAirBandwidth x = onAirBandwidth started.bandwidthKhz
  spreadingFactor : ∀ sf, changes.spreadingFactor = some sf →
    sf % 2 ^ 32 = started.spreadingFactor % 2 ^ 32
  region : ∀ region, changes.region = some region →
    ∃ freqHz, RadioFloat.hertz started.frequencyMhz = some freqHz ∧ InBand region freqHz

def keepsOnAir (upper : String → String) (s : Service F) (e : Put F) : Prop :=
  ∀ changes, requestedChanges upper e.req = .ok changes → KeepsOnAir s.started changes

/-- The numbers a request sets are finite; others are never transmitted with. -/
def FiniteRequest (upper : String → String) (e : Put F) : Prop :=
  ∀ changes, requestedChanges upper e.req = .ok changes →
    (∀ x, changes.frequencyMhz = some x → (RadioFloat.hertz x).isSome = true) ∧
      ∀ x, changes.bandwidthKhz = some x → (RadioFloat.kilohertz x).isSome = true

end

/-! ### Bands and bandwidths -/

theorem mod_of_inBand {region : String} {freqHz : Int} (h : InBand region freqHz) :
    freqHz % 2 ^ 32 = freqHz := by
  have hall : ∀ entry ∈ REGION_BAND_LIMITS_HZ, 0 ≤ entry.2.1 ∧ entry.2.2 < 2 ^ 32 := by decide
  obtain ⟨band, hband, hlow, hhigh⟩ := h
  have hmem : (region, band) ∈ REGION_BAND_LIMITS_HZ := by
    obtain ⟨before, after, hsplit, -⟩ := List.lookup_eq_some_iff.mp hband
    rw [hsplit]
    exact List.mem_append_right _ List.mem_cons_self
  have hfits := hall _ hmem
  exact Int.emod_eq_of_lt (le_trans hfits.1 hlow) (lt_of_le_of_lt hhigh hfits.2)

theorem default_of_inBand {region : String} {freqHz : Int} (h : InBand region freqHz) :
    (defaultFrequencyHz region).isSome = true := by
  have hall : ∀ entry ∈ REGION_BAND_LIMITS_HZ, (defaultFrequencyHz entry.1).isSome = true := by
    decide
  obtain ⟨band, hband, -⟩ := h
  obtain ⟨before, after, hsplit, -⟩ := List.lookup_eq_some_iff.mp hband
  have hmem : (region, band) ∈ REGION_BAND_LIMITS_HZ := by
    rw [hsplit]
    exact List.mem_append_right _ List.mem_cons_self
  exact hall _ hmem

/-- A frequency whose field of the HAL packet is the one the plan serves, in the band, is
    in the band itself. -/
theorem inBand_of_served {region : String} {freqHz : Int} (haccepted : Accepted region freqHz)
    (hserved : freqHz % 2 ^ 32 = servedFrequency region freqHz)
    (hband : InBand region (freqHz % 2 ^ 32)) : InBand region freqHz := by
  rcases haccepted with rfl | haccepted | hdefault
  · obtain ⟨band, hband, -⟩ := hband
    cases hband
  · exact haccepted
  · have hall : ∀ hz ∈ REGION_DEFAULTS_HZ.map Prod.snd, hz % 2 ^ 32 = hz := by decide
    have hmod := hall _ hdefault
    rw [hmod] at hband
    exact hband

theorem halBandwidthKhz_halBandwidth_iff (khz : Int) :
    halBandwidthKhz (halBandwidth khz) = khz ↔ khz = 125 ∨ khz = 250 ∨ khz = 500 := by
  unfold halBandwidth
  by_cases h125 : khz = 125
  · simp [h125, halBandwidthKhz]
  · by_cases h250 : khz = 250
    · simp [h250, halBandwidthKhz, BW_125KHZ, BW_250KHZ]
    · by_cases h500 : khz = 500
      · simp [h500, halBandwidthKhz, BW_125KHZ, BW_250KHZ, BW_500KHZ]
      · have hne : ¬ (250 : Int) = khz := fun h => h250 h.symm
        simp [h125, h250, h500, hne, halBandwidthKhz, BW_125KHZ, BW_250KHZ]

theorem halBandwidth_code (khz : Int) :
    halBandwidth khz = BW_125KHZ ∨ halBandwidth khz = BW_250KHZ ∨
      halBandwidth khz = BW_500KHZ := by
  unfold halBandwidth
  split
  · exact Or.inl rfl
  · split
    · exact Or.inr (Or.inl rfl)
    · split
      · exact Or.inr (Or.inr rfl)
      · exact Or.inr (Or.inl rfl)

theorem halBandwidth_eq_of_khz_eq {khz khz' : Int}
    (h : halBandwidthKhz (halBandwidth khz) = halBandwidthKhz (halBandwidth khz')) :
    halBandwidth khz = halBandwidth khz' := by
  rcases halBandwidth_code khz with hc | hc | hc <;>
    rcases halBandwidth_code khz' with hc' | hc' | hc' <;> rw [hc, hc'] at h ⊢ <;> cases h

/-! ### What is on the air -/

section

variable {F : Type} [RadioFloat F]

/-- Settings that transmit as the startup settings do. -/
structure SameOnAir (started radio : RadioConfig F) : Prop where
  frequency : onAirHz radio.frequencyMhz = onAirHz started.frequencyMhz
  bandwidth : onAirBandwidth radio.bandwidthKhz = onAirBandwidth started.bandwidthKhz
  spreadingFactor : radio.spreadingFactor % 2 ^ 32 = started.spreadingFactor % 2 ^ 32

theorem SameOnAir.refl (radio : RadioConfig F) : SameOnAir radio radio := ⟨rfl, rfl, rfl⟩

/-- Settings that are finite numbers put every packet on the air with the same three values. -/
theorem onPlan_iff {s : Service F} {ch : ChannelPlan.ChannelConfig} {freqHz bandwidth : Int}
    (hsingle : s.plan.singleSfChannel = some ch)
    (hfreq : RadioFloat.hertz s.radio.frequencyMhz = some freqHz)
    (hbandwidth : RadioFloat.kilohertz s.radio.bandwidthKhz = some bandwidth) :
    OnPlan s ↔ freqHz % 2 ^ 32 = ch.frequencyHz ∧
      s.radio.spreadingFactor % 2 ^ 32 = ch.spreadingFactor ∧
      halBandwidthKhz (halBandwidth bandwidth) = ch.bandwidthKhz ∧
      InBand s.radio.region (freqHz % 2 ^ 32) := by
  have hfield : ∀ n : Int, ((n % 2 ^ 32).toNat : Int) = n % 2 ^ 32 := fun n =>
    Int.toNat_of_nonneg (Int.emod_nonneg n (by decide))
  have hbuild : ∀ txPowerDbm packetBytes, buildHalPacket s.radio txPowerDbm packetBytes = some
      { freqHz := (freqHz % 2 ^ 32).toNat
        rfPower := (txPowerDbm + 128) % 256 - 128
        bandwidth := halBandwidth bandwidth
        datarate := (s.radio.spreadingFactor % 2 ^ 32).toNat
        coderate := resolveCoderate s.radio.codingRate
        size := packetBytes.length % 2 ^ 16
        payload := packetBytes.take 256 } := by
    intro txPowerDbm packetBytes
    unfold buildHalPacket
    rw [hfreq, hbandwidth]
    rfl
  constructor
  · intro h
    obtain ⟨⟨ch', hsingle', hhz, hsf, hbw⟩, hband⟩ := h 0 [] _ (hbuild 0 [])
    rw [hsingle] at hsingle'
    cases hsingle'
    rw [hfield] at hhz hsf hband
    exact ⟨hhz, hsf, hbw, hband⟩
  · rintro ⟨hhz, hsf, hbw, hband⟩ txPowerDbm packetBytes pkt hpkt
    rw [hbuild] at hpkt
    obtain rfl := Option.some.inj hpkt
    refine ⟨⟨ch, hsingle, ?_, ?_, hbw⟩, ?_⟩
    · rw [hfield, hhz]
    · rw [hfield, hsf]
    · rw [hfield]
      exact hband

/-! ### Startup -/

theorem start_eq_ok {loaded : LoadedRadio F} {s₀ : Service F} (h : start loaded = .ok s₀) :
    s₀.started = resolveRadioFrequency loaded ∧ s₀.radio = resolveRadioFrequency loaded ∧
      fromRadioConfig s₀.radio.region s₀.radio.frequencyMhz s₀.radio.spreadingFactor
        s₀.radio.bandwidthKhz = .ok s₀.plan := by
  unfold start at h
  cases hplan : fromRadioConfig (resolveRadioFrequency loaded).region
      (resolveRadioFrequency loaded).frequencyMhz (resolveRadioFrequency loaded).spreadingFactor
      (resolveRadioFrequency loaded).bandwidthKhz with
  | error e =>
    simp only [hplan] at h
    cases h
  | ok plan =>
    simp only [hplan] at h
    obtain rfl := Except.ok.inj h
    exact ⟨rfl, rfl, hplan⟩

/-- Right after startup the packets are on the plan exactly when both sides read the
    settings the same way. -/
theorem onPlan_start_iff {loaded : LoadedRadio F} {s₀ : Service F} (h : start loaded = .ok s₀) :
    OnPlan s₀ ↔ StartsOnPlan s₀.radio := by
  obtain ⟨-, -, hplan⟩ := start_eq_ok h
  obtain ⟨freqHz, bandwidth, hfreq, hbandwidth, hsingle, haccepted⟩ :=
    singleSf_fromRadioConfig hplan
  rw [onPlan_iff hsingle hfreq hbandwidth]
  simp only [halBandwidthKhz_halBandwidth_iff]
  constructor
  · rintro ⟨hserved, hsf, hbw, hband⟩
    refine ⟨freqHz, bandwidth, hfreq, hbandwidth, inBand_of_served haccepted hserved hband, hbw, ?_⟩
    rw [← hsf]
    exact ⟨Int.emod_nonneg _ (by decide), Int.emod_lt_of_pos _ (by decide)⟩
  · rintro ⟨freqHz', bandwidth', hfreq', hbandwidth', hband, hbw, hlow, hhigh⟩
    rw [hfreq] at hfreq'
    rw [hbandwidth] at hbandwidth'
    cases hfreq'
    cases hbandwidth'
    rw [mod_of_inBand hband, (servedFrequency_inBand_iff (default_of_inBand hband)).mpr hband]
    exact ⟨rfl, Int.emod_eq_of_lt hlow hhigh, hbw, hband⟩

/-! ### Later requests -/

/-- A plan that startup put the packets on: what a later configuration must look like. -/
theorem onPlan_iff_sameOnAir {loaded : LoadedRadio F} {s₀ s : Service F}
    (hstart : start loaded = .ok s₀) (honPlan : StartsOnPlan s₀.radio) (hplan : s.plan = s₀.plan)
    {startHz freqHz bandwidth : Int} (hstartHz : RadioFloat.hertz s₀.radio.frequencyMhz = some startHz)
    (hfreq : RadioFloat.hertz s.radio.frequencyMhz = some freqHz)
    (hbandwidth : RadioFloat.kilohertz s.radio.bandwidthKhz = some bandwidth) :
    OnPlan s ↔ SameOnAir s₀.radio s.radio ∧ InBand s.radio.region startHz := by
  obtain ⟨-, -, hbuilt⟩ := start_eq_ok hstart
  obtain ⟨startHz', startBandwidth, hstartHz', hstartBw, hsingle, -⟩ :=
    singleSf_fromRadioConfig hbuilt
  obtain ⟨hz, bw, hhz, hbw, hband, hcode, hlow, hhigh⟩ := honPlan
  rw [hstartHz] at hstartHz' hhz
  rw [hstartBw] at hbw
  cases hstartHz'
  cases hhz
  cases hbw
  rw [(servedFrequency_inBand_iff (default_of_inBand hband)).mpr hband] at hsingle
  have hmod := mod_of_inBand hband
  rw [onPlan_iff (hplan ▸ hsingle) hfreq hbandwidth]
  constructor
  · rintro ⟨hfreq', hsf, hkhz, hregion⟩
    have hcodes := (halBandwidthKhz_halBandwidth_iff startBandwidth).mpr hcode
    rw [hfreq'] at hregion
    refine ⟨⟨?_, ?_, ?_⟩, hregion⟩
    · simp only [onAirHz, hfreq, hstartHz, Option.map_some, hfreq', hmod]
    · simp only [onAirBandwidth, hbandwidth, hstartBw, Option.map_some]
      rw [halBandwidth_eq_of_khz_eq (hkhz.trans hcodes.symm)]
    · rw [hsf]
      exact (Int.emod_eq_of_lt hlow hhigh).symm
  · rintro ⟨⟨hsame, hsameBw, hsf⟩, hregion⟩
    simp only [onAirHz, hfreq, hstartHz, Option.map_some, Option.some.injEq, hmod] at hsame
    simp only [onAirBandwidth, hbandwidth, hstartBw, Option.map_some,
      Option.some.injEq] at hsameBw
    rw [hsame, hsf, hsameBw]
    exact ⟨rfl, Int.emod_eq_of_lt hlow hhigh, (halBandwidthKhz_halBandwidth_iff _).mpr hcode,
      hregion⟩

theorem isSome_of_onAirHz_eq {x y : F} (h : onAirHz x = onAirHz y)
    (hy : (RadioFloat.hertz y).isSome = true) : (RadioFloat.hertz x).isSome = true := by
  have hmap := congrArg Option.isSome h
  simpa only [onAirHz, Option.isSome_map, hy] using hmap

theorem isSome_of_onAirBandwidth_eq {x y : F} (h : onAirBandwidth x = onAirBandwidth y)
    (hy : (RadioFloat.kilohertz y).isSome = true) : (RadioFloat.kilohertz x).isSome = true := by
  have hmap := congrArg Option.isSome h
  simpa only [onAirBandwidth, Option.isSome_map, hy] using hmap

/-- What holds of a setting and of the value that it is set to, if any, holds after the changes. -/
theorem holds_getD {α : Type*} (P : α → Prop) {set : Option α} {old : α} (hold : P old)
    (hset : ∀ x, set = some x → P x) : P (set.getD old) := by
  cases set with
  | none => exact hold
  | some x => exact hset x rfl

/-- Changes made to settings that are on the air as the startup's leave them so exactly
    when each value that is set does. -/
theorem sameOnAir_apply_iff {started radio : RadioConfig F} {changes : RadioChanges F}
    {startHz : Int} (hstartHz : RadioFloat.hertz started.frequencyMhz = some startHz)
    (hsame : SameOnAir started radio) (hregion : InBand radio.region startHz) :
    SameOnAir started (radio.apply changes) ∧ InBand (radio.apply changes).region startHz ↔
      KeepsOnAir started changes := by
  constructor
  · rintro ⟨⟨hfreq, hbw, hsf⟩, hband⟩
    constructor
    · intro x hx
      rw [RadioConfig.apply, hx] at hfreq
      exact hfreq
    · intro x hx
      rw [RadioConfig.apply, hx] at hbw
      exact hbw
    · intro sf hx
      rw [RadioConfig.apply, hx] at hsf
      exact hsf
    · intro region hx
      rw [RadioConfig.apply, hx] at hband
      exact ⟨startHz, hstartHz, hband⟩
  · rintro ⟨hfreq, hbw, hsf, hband⟩
    refine ⟨⟨?_, ?_, ?_⟩, ?_⟩
    · exact holds_getD (fun x => onAirHz x = onAirHz started.frequencyMhz) hsame.frequency hfreq
    · exact holds_getD (fun x => onAirBandwidth x = onAirBandwidth started.bandwidthKhz)
        hsame.bandwidth hbw
    · exact holds_getD (fun x => x % 2 ^ 32 = started.spreadingFactor % 2 ^ 32)
        hsame.spreadingFactor hsf
    · refine holds_getD (fun region => InBand region startHz) hregion ?_
      intro region hx
      obtain ⟨hz, hhz, hin⟩ := hband region hx
      rw [hstartHz] at hhz
      cases hhz
      exact hin

/-- What holds in every state of a guarded run. -/
structure RunInvariant (s₀ s : Service F) (startHz : Int) : Prop where
  plan : s.plan = s₀.plan
  started : s.started = s₀.radio
  same : SameOnAir s₀.radio s.radio
  region : InBand s.radio.region startHz

/-- Step lemma: a request of finite numbers keeps the packets on the plan exactly when it
    meets the guard, and a request that meets the guard keeps the invariant. -/
theorem step_spec {upper : String → String} {loaded : LoadedRadio F} {s₀ s s' : Service F}
    {e : Put F} {startHz : Int} (hstart : start loaded = .ok s₀)
    (honPlan : StartsOnPlan s₀.radio)
    (hstartHz : RadioFloat.hertz s₀.radio.frequencyMhz = some startHz)
    (hinv : RunInvariant s₀ s startHz) (hstep : step upper s e = some s') :
    (keepsOnAir upper s e → RunInvariant s₀ s' startHz) ∧
      (FiniteRequest upper e → (OnPlan s' ↔ keepsOnAir upper s e)) := by
  have hs' := Option.some.inj hstep
  have hstartBw : (RadioFloat.kilohertz s₀.radio.bandwidthKhz).isSome = true := by
    obtain ⟨hz, bw, -, hbw, -⟩ := honPlan
    rw [hbw]
    rfl
  have hfinite : ∀ s, s.plan = s₀.plan → (RadioFloat.hertz s.radio.frequencyMhz).isSome = true →
      (RadioFloat.kilohertz s.radio.bandwidthKhz).isSome = true →
      (OnPlan s ↔ SameOnAir s₀.radio s.radio ∧ InBand s.radio.region startHz) := by
    intro s hplan hfreq hbw
    obtain ⟨freqHz, hfreq⟩ := Option.isSome_iff_exists.mp hfreq
    obtain ⟨bandwidth, hbw⟩ := Option.isSome_iff_exists.mp hbw
    exact onPlan_iff_sameOnAir hstart honPlan hplan hstartHz hfreq hbw
  have hfreq := isSome_of_onAirHz_eq hinv.same.frequency (hstartHz ▸ rfl)
  have hbw := isSome_of_onAirBandwidth_eq hinv.same.bandwidth hstartBw
  cases hreq : requestedChanges upper e.req with
  | error err =>
    -- a refused request changes nothing
    have hsame : s' = s := by
      rw [← hs', updateRadio, hreq]
    rw [hsame]
    have hkeeps : keepsOnAir upper s e := by
      intro changes hchanges
      rw [hreq] at hchanges
      cases hchanges
    refine ⟨fun _ => hinv, fun _ => iff_of_true ?_ hkeeps⟩
    exact (hfinite s hinv.plan hfreq hbw).mpr ⟨hinv.same, hinv.region⟩
  | ok changes =>
    have hradio : s' = { s with radio := s.radio.apply changes } := by
      rw [← hs', updateRadio, hreq]
    have hkeeps : keepsOnAir upper s e ↔ KeepsOnAir s₀.radio changes := by
      unfold keepsOnAir
      rw [hreq, hinv.started]
      constructor
      · intro h
        exact h changes rfl
      · intro h changes' hchanges
        cases hchanges
        exact h
    have happly : _ ↔ KeepsOnAir s₀.radio changes :=
      sameOnAir_apply_iff hstartHz hinv.same hinv.region
    rw [hkeeps, hradio]
    constructor
    · intro h
      obtain ⟨hsame, hregion⟩ := happly.mpr h
      exact ⟨hinv.plan, hinv.started, hsame, hregion⟩
    · intro hnumbers
      obtain ⟨hnewFreq, hnewBw⟩ := hnumbers changes hreq
      rw [← happly]
      apply hfinite { s with radio := s.radio.apply changes } hinv.plan
      · exact holds_getD (fun x => (RadioFloat.hertz x).isSome = true) hfreq hnewFreq
      · exact holds_getD (fun x => (RadioFloat.kilohertz x).isSome = true) hbw hnewBw

/-- **Transmission on the plan.**  After startup the packets are on the plan's service
    channel and in the band exactly when the settings start on the plan; then they stay there
    through every run of requests that keep what is on the air, and the first request of
    finite numbers that does not takes them off it. -/
theorem onPlan_run {upper : String → String} {loaded : LoadedRadio F} {s₀ : Service F}
    (hstart : start loaded = .ok s₀) :
    (OnPlan s₀ ↔ StartsOnPlan (resolveRadioFrequency loaded)) ∧
      (StartsOnPlan (resolveRadioFrequency loaded) →
        ∀ s, Reaches (step upper) (keepsOnAir upper) s₀ s → OnPlan s ∧
          ∀ e s', FiniteRequest upper e → step upper s e = some s' →
            (OnPlan s' ↔ keepsOnAir upper s e)) := by
  obtain ⟨hstarted, hradio, -⟩ := start_eq_ok hstart
  rw [← hradio]
  refine ⟨onPlan_start_iff hstart, ?_⟩
  intro honPlan s hreach
  obtain ⟨startHz, startBw, hstartHz, hstartBw, hband, -⟩ := id honPlan
  have hinv : RunInvariant s₀ s startHz := by
    apply hreach.invariant (I := fun s => RunInvariant s₀ s startHz)
    · exact ⟨rfl, hstarted.trans hradio.symm, SameOnAir.refl _, hband⟩
    · intro s e s' hinv hguard hstep
      exact (step_spec hstart honPlan hstartHz hinv hstep).1 hguard
  refine ⟨?_, fun e s' hnumbers hstep =>
    (step_spec hstart honPlan hstartHz hinv hstep).2 hnumbers⟩
  obtain ⟨freqHz, hfreq⟩ :=
    Option.isSome_iff_exists.mp (isSome_of_onAirHz_eq hinv.same.frequency (hstartHz ▸ rfl))
  obtain ⟨bandwidth, hbw⟩ :=
    Option.isSome_iff_exists.mp (isSome_of_onAirBandwidth_eq hinv.same.bandwidth (hstartBw ▸ rfl))
  exact (onPlan_iff_sameOnAir hstart honPlan hinv.plan hstartHz hfreq hbw).mpr
    ⟨hinv.same, hinv.region⟩

end

/-! ### Runs with exact numbers -/

/-- Exact arithmetic; every number is finite. -/
instance : RadioFloat ℚ where
  decimal n := (n : ℚ) / 10000
  hertz x := some ((x * 1000000).num.tdiv (x * 1000000).den)
  kilohertz x := some (x.num.tdiv x.den)
  slotFrequency freqStart bandwidthKhz slot :=
    let spacing := bandwidthKhz / 1000
    let x := (freqStart + spacing / 2 + (slot - 1) * spacing) * 10000
    -- `round` takes the even one of two nearest
    ((if x - x.floor = 1 / 2 then x.floor + x.floor % 2 else (x + 1 / 2).floor : Int) : ℚ) / 10000
  ne x y := decide (x ≠ y)

def eu868Loaded : LoadedRadio ℚ := ⟨"EU_868", none, none, 11, 250, "4/5"⟩

/-- The same station with the frequency of the US written in its file. -/
def eu868AtUsFrequency : LoadedRadio ℚ := ⟨"EU_868", some (906875 / 1000), none, 11, 250, "4/5"⟩

/-- The service of the EU868 station while its region is `region` and its frequency `mhz`. -/
def eu868Service (region : String) (mhz : ℚ) : Service ℚ :=
  ⟨eu868Lorawan, ⟨"EU_868", 869525 / 1000, 11, 250, "4/5"⟩, ⟨region, mhz, 11, 250, "4/5"⟩⟩

/-- A run of the EU868 station: the packets stay on the plan. -/
theorem onPlan_run_eu868 :
    start eu868Loaded = .ok (eu868Service "EU_868" (869525 / 1000)) ∧
      ∀ s, Reaches (step id) (keepsOnAir id) (eu868Service "EU_868" (869525 / 1000)) s →
        OnPlan s := by
  have hstart : start eu868Loaded = .ok (eu868Service "EU_868" (869525 / 1000)) := by
    decide +kernel
  have hstarts : StartsOnPlan (resolveRadioFrequency eu868Loaded) :=
    ⟨869525000, 250, by decide +kernel, by decide +kernel, ⟨(863000000, 870000000), by decide⟩,
      by decide, by decide⟩
  exact ⟨hstart, fun s hreach => ((onPlan_run hstart).2 hstarts s hreach).1⟩

theorem not_onPlan_usFrequency {s : Service ℚ}
    (hsingle : s.plan.singleSfChannel = some ⟨869525000, 250, 11, true⟩)
    (hfreq : s.radio.frequencyMhz = 906875 / 1000) (hbw : s.radio.bandwidthKhz = 250) :
    ¬ OnPlan s := by
  have hhz : RadioFloat.hertz s.radio.frequencyMhz = some 906875000 := by
    rw [hfreq]
    decide +kernel
  have hkhz : RadioFloat.kilohertz s.radio.bandwidthKhz = some 250 := by
    rw [hbw]
    decide +kernel
  rw [onPlan_iff hsingle hhz hkhz]
  rintro ⟨hne, -⟩
  cases hne

/-- Two ways off the plan.  The EU868 station with the frequency of the US serves
    869.525 MHz and transmits at 906.875 MHz, outside its band; and the one with the default
    settings does so too once a change of region is accepted, before the restart it asks for. -/
theorem off_plan_at_start_and_later :
    (∃ s₀, start eu868AtUsFrequency = .ok s₀ ∧ ¬ OnPlan s₀) ∧
      ∃ (s₀ s : Service ℚ) (e : Put ℚ), start eu868Loaded = .ok s₀ ∧ OnPlan s₀ ∧
        (updateRadio id s₀.radio e.req e.writable).2 = .ok true ∧
        Reaches (step id) Always s₀ s ∧ ¬ OnPlan s := by
  constructor
  · refine ⟨⟨buildNarrowPlan 869525000 11 250, resolveRadioFrequency eu868AtUsFrequency,
      resolveRadioFrequency eu868AtUsFrequency⟩, by decide +kernel, ?_⟩
    exact not_onPlan_usFrequency rfl rfl rfl
  · have hstep : step id (eu868Service "EU_868" (869525 / 1000)) ⟨{ region := some "US" }, true⟩ =
        some (eu868Service "US" (906875 / 1000)) := by
      decide +kernel
    refine ⟨_, _, ⟨{ region := some "US" }, true⟩, by decide +kernel, ?_, by decide +kernel,
      Reaches.refl.tail trivial hstep, not_onPlan_usFrequency rfl rfl rfl⟩
    have hsingle : (eu868Service "EU_868" (869525 / 1000)).plan.singleSfChannel =
        some ⟨869525000, 250, 11, true⟩ := rfl
    have hhz : RadioFloat.hertz (eu868Service "EU_868" (869525 / 1000)).radio.frequencyMhz =
        some 869525000 := by
      decide +kernel
    have hkhz : RadioFloat.kilohertz (eu868Service "EU_868" (869525 / 1000)).radio.bandwidthKhz =
        some 250 := by
      decide +kernel
    apply (onPlan_iff hsingle hhz hkhz).mpr
    exact ⟨by decide, by decide, by decide, (863000000, 870000000), by decide⟩

end Meshpoint.RadioSettings
