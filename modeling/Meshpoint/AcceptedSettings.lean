import Meshpoint.PyText
import Meshpoint.RadioSettings

/-!
# Settings accepted one at a time

Model of `update_relay` and `update_radio_pager` (`src/api/routes/system_config_routes.py`)
beside `update_radio` of `RadioSettings`: three requests that change one configuration, which
the concentrator reads at its next start.

`Startable` is what the next start and the relay rely on.  A pager request checks all of it
that it can change; a radio request and a relay request check only a part.
`throughout_startable_iff` is the exact condition on the requests.
-/

namespace Meshpoint

/-- The comparisons of settings that are floats.  What compares with something is no NaN, and
    any two such numbers compare. -/
class SettingFloat (F : Type) extends RadioFloat F where
  /-- `round(x * 1_000_000)`; `none` where Python raises. -/
  nearestHertz : F → Option Int
  /-- `x <= y`. -/
  le : F → F → Bool
  le_self_left : ∀ {x y : F}, le x y = true → le x x = true
  le_self_right : ∀ {x y : F}, le x y = true → le y y = true
  le_total : ∀ {x y : F}, le x x = true → le y y = true → le x y = true ∨ le y x = true

namespace AcceptedSettings

open ChannelPlan RadioSettings GuardedRun

section

variable {F : Type} [SettingFloat F]

/-- `x < y`. -/
def below (x y : F) : Bool := SettingFloat.le x y && !SettingFloat.le y x

/-! ### Configuration -/

/-- The `pager_*` fields of `RadioConfig`. -/
structure PagerConfig (F : Type) where
  enabled : Bool
  frequencyMhz : F
  syncWord : Int
  syncWordSize : Int
  rfChain : Int
  capcode : Int
deriving DecidableEq

structure RelayConfig (F : Type) where
  enabled : Bool
  serialPort : Option String
  serialBaud : Int
  maxRelayPerMinute : Int
  burstSize : Int
  minRelayRssi : F
  maxRelayRssi : F
deriving DecidableEq

/-- The part of `AppConfig` that the requests read and change. -/
structure AppConfig (F : Type) where
  radio : RadioConfig F
  pager : PagerConfig F
  relay : RelayConfig F
deriving DecidableEq

/-! ### Requests -/

/-- `Field(None, ge=low, le=high)` on an integer. -/
def within (low high : Int) (field : Option Int) : Bool :=
  field.all fun n => decide (low ≤ n ∧ n ≤ high)

/-- `Field(None, ge=low, le=high)` on a float. -/
def withinFloat (low high : F) (field : Option F) : Bool :=
  field.all fun x => SettingFloat.le low x && SettingFloat.le x high

structure RelayUpdate (F : Type) where
  enabled : Option Bool := none
  serialPort : Option String := none
  serialBaud : Option Int := none
  maxRelayPerMinute : Option Int := none
  burstSize : Option Int := none
  minRelayRssi : Option F := none
  maxRelayRssi : Option F := none

/-- The field constraints of `RelayUpdate`. -/
def RelayUpdate.valid (req : RelayUpdate F) : Bool :=
  within 9600 921600 req.serialBaud && within 0 600 req.maxRelayPerMinute &&
    within 1 50 req.burstSize &&
    withinFloat (RadioFloat.decimal (-1500000)) (RadioFloat.decimal 0) req.minRelayRssi &&
    withinFloat (RadioFloat.decimal (-1500000)) (RadioFloat.decimal 0) req.maxRelayRssi

def RelayUpdate.isEmpty (req : RelayUpdate F) : Bool :=
  req.enabled.isNone && req.serialPort.isNone && req.serialBaud.isNone &&
    req.maxRelayPerMinute.isNone && req.burstSize.isNone && req.minRelayRssi.isNone &&
    req.maxRelayRssi.isNone

structure RadioPagerUpdate (F : Type) where
  pagerEnabled : Option Bool := none
  pagerFrequencyMhz : Option F := none
  pagerSyncWord : Option Int := none
  pagerSyncWordSize : Option Int := none
  pagerCapcode : Option Int := none

/-- The field constraints of `RadioPagerUpdate`. -/
def RadioPagerUpdate.valid (req : RadioPagerUpdate F) : Bool :=
  withinFloat (RadioFloat.decimal 8694000) (RadioFloat.decimal 8696500) req.pagerFrequencyMhz &&
    within 0 0xFFFFFFFFFFFFFFFF req.pagerSyncWord && within 1 8 req.pagerSyncWordSize &&
    within 0 0xFFFFFFFF req.pagerCapcode

def RadioPagerUpdate.isEmpty (req : RadioPagerUpdate F) : Bool :=
  req.pagerEnabled.isNone && req.pagerFrequencyMhz.isNone && req.pagerSyncWord.isNone &&
    req.pagerSyncWordSize.isNone && req.pagerCapcode.isNone

/-- Why a request is not answered with success.  The texts print the values that the errors
    carry. -/
inductive Refusal (F : Type) where
  /-- 422: a field is outside its constraints. -/
  | invalidField
  /-- The refusals of `update_radio`, with their texts. -/
  | radio (e : HttpError)
  /-- 400: `max_relay_rssi must be greater than min_relay_rssi`. -/
  | maxBelowMin
  /-- 400: the sync word does not fit in its size. -/
  | syncWordTooWide (syncWord syncWordSize : Int)
  /-- 400: `Cannot validate against the current channel plan`. -/
  | noPlan (e : PlanError)
  /-- 400: outside the tunable range of the chain. -/
  | offAnchor (frequencyMhz : F) (offsetHz rfChain anchorHz : Int) (region : String)
  /-- 500: a conversion raises. -/
  | raised
  /-- 403: `local.yaml` cannot be written. -/
  | permissionDenied

/-- The answer of a request that succeeds. -/
structure Saved where
  saved : Bool
  restartRequired : Bool
deriving DecidableEq, Repr

/-! ### The relay -/

/-- The fields that `update_relay` sets before it looks at `max_relay_rssi`. -/
def RelayConfig.applyOthers (relay : RelayConfig F) (req : RelayUpdate F) : RelayConfig F :=
  { relay with
    enabled := req.enabled.getD relay.enabled
    serialPort := match req.serialPort with
      | some port => if PyText.strip port = "" then none else some (PyText.strip port)
      | none => relay.serialPort
    serialBaud := req.serialBaud.getD relay.serialBaud
    maxRelayPerMinute := req.maxRelayPerMinute.getD relay.maxRelayPerMinute
    burstSize := req.burstSize.getD relay.burstSize
    minRelayRssi := req.minRelayRssi.getD relay.minRelayRssi }

/-- The end of a handler: nothing to save, or `save_section_to_yaml`. -/
def saveUpdates (isEmpty restartRequired writable : Bool) : Except (Refusal F) Saved :=
  if isEmpty then .ok ⟨false, false⟩
  else if writable then .ok ⟨true, restartRequired⟩
  else .error .permissionDenied

/-- `update_relay`: the configuration afterwards, and the answer. -/
def updateRelay (relay : RelayConfig F) (req : RelayUpdate F) (writable : Bool) :
    RelayConfig F × Except (Refusal F) Saved :=
  let others := relay.applyOthers req
  let answer := saveUpdates req.isEmpty (req.enabled.isSome || req.serialPort.isSome) writable
  match req.maxRelayRssi with
  | none => (others, answer)
  | some maxRelayRssi =>
    if SettingFloat.le maxRelayRssi others.minRelayRssi then (others, .error .maxBelowMin)
    else ({ others with maxRelayRssi := maxRelayRssi }, answer)

/-! ### The pager -/

def PAGER_MAX_IF_OFFSET_HZ : Int := 1000000

def anchorOf (plan : ConcentratorChannelPlan) (rfChain : Int) : Int :=
  if rfChain = 1 then plan.radio1FreqHz else plan.radio0FreqHz

/-- `from_radio_config` on the radio section. -/
def planOf (radio : RadioConfig F) : Except PlanError ConcentratorChannelPlan :=
  fromRadioConfig radio.region radio.frequencyMhz radio.spreadingFactor radio.bandwidthKhz

/-- The check of a sync word against its size; a negative shift raises. -/
def checkSyncWord (syncWord syncWordSize : Int) : Except (Refusal F) Unit :=
  if syncWordSize < 0 then .error .raised
  else if 2 ^ (8 * syncWordSize.toNat) ≤ syncWord then
    .error (.syncWordTooWide syncWord syncWordSize)
  else .ok ()

/-- The check of a new pager frequency against the current plan. -/
def checkFrequency (radio : RadioConfig F) (rfChain : Int) :
    Option F → Except (Refusal F) Unit
  | none => .ok ()
  | some frequencyMhz =>
    match planOf radio, SettingFloat.nearestHertz frequencyMhz with
    | .error e, _ => .error (.noPlan e)
    | .ok _, none => .error .raised
    | .ok plan, some hz =>
      let anchorHz := anchorOf plan rfChain
      if PAGER_MAX_IF_OFFSET_HZ < |hz - anchorHz| then
        .error (.offAnchor frequencyMhz (hz - anchorHz) rfChain anchorHz radio.region)
      else .ok ()

def PagerConfig.apply (pager : PagerConfig F) (req : RadioPagerUpdate F) : PagerConfig F :=
  { pager with
    enabled := req.pagerEnabled.getD pager.enabled
    frequencyMhz := req.pagerFrequencyMhz.getD pager.frequencyMhz
    syncWord := req.pagerSyncWord.getD pager.syncWord
    syncWordSize := req.pagerSyncWordSize.getD pager.syncWordSize
    capcode := req.pagerCapcode.getD pager.capcode }

def RadioPagerUpdate.restartRequired (req : RadioPagerUpdate F) : Bool :=
  req.pagerEnabled.isSome || req.pagerFrequencyMhz.isSome || req.pagerSyncWord.isSome ||
    req.pagerSyncWordSize.isSome

/-- `update_radio_pager`. -/
def updateRadioPager (radio : RadioConfig F) (pager : PagerConfig F) (req : RadioPagerUpdate F)
    (writable : Bool) : PagerConfig F × Except (Refusal F) Saved :=
  match checkSyncWord (req.pagerSyncWord.getD pager.syncWord)
      (req.pagerSyncWordSize.getD pager.syncWordSize) with
  | .error e => (pager, .error e)
  | .ok () =>
    match checkFrequency radio pager.rfChain req.pagerFrequencyMhz with
    | .error e => (pager, .error e)
    | .ok () => (pager.apply req, saveUpdates req.isEmpty req.restartRequired writable)

/-! ### Runs -/

/-- One request; `writable` says whether `local.yaml` can be written. -/
inductive Request (F : Type) where
  | radio (req : RadioUpdate F) (writable : Bool)
  | pager (req : RadioPagerUpdate F) (writable : Bool)
  | relay (req : RelayUpdate F) (writable : Bool)

/-- The configuration after a request, and the answer. -/
def answer (upper : String → String) (s : AppConfig F) :
    Request F → AppConfig F × Except (Refusal F) Saved
  | .radio req writable =>
    let (radio, result) := updateRadio upper s.radio req writable
    ({ s with radio := radio }, (result.mapError .radio).map fun restart => ⟨true, restart⟩)
  | .pager req writable =>
    if req.valid then
      let (pager, result) := updateRadioPager s.radio s.pager req writable
      ({ s with pager := pager }, result)
    else (s, .error .invalidField)
  | .relay req writable =>
    if req.valid then
      let (relay, result) := updateRelay s.relay req writable
      ({ s with relay := relay }, result)
    else (s, .error .invalidField)

def step (upper : String → String) (s : AppConfig F) (e : Request F) : Option (AppConfig F) :=
  match answer upper s e with
  | (s', .ok _) => some s'
  | (_, .error _) => none

/-! ### What a start relies on -/

/-- The spreading factors of `IS_LORA_DR`. -/
def LORA_DR : List Int := [5, 6, 7, 8, 9, 10, 11, 12]

/-- `BW_KHZ_TO_HAL`. -/
def BW_KHZ_TO_HAL : List (Int × Nat) :=
  [(125, BW_125KHZ), (250, BW_250KHZ), (500, BW_500KHZ)]

/-- The HAL has the spreading factor and the bandwidth of a channel. -/
def HalSupports (ch : ChannelPlan.ChannelConfig) : Prop :=
  ch.spreadingFactor ∈ LORA_DR ∧ ch.bandwidthKhz ∈ BW_KHZ_TO_HAL.map Prod.fst

def FitsSize (syncWord syncWordSize : Int) : Prop :=
  0 ≤ syncWordSize ∧ 0 ≤ syncWord ∧ syncWord < 2 ^ (8 * syncWordSize.toNat)

/-- The pager frequency is in the range of a chain centred on `anchorHz`. -/
def NearAnchor (pager : PagerConfig F) (anchorHz : Int) : Prop :=
  ∃ hz ∈ SettingFloat.nearestHertz pager.frequencyMhz,
    |hz - anchorHz| ≤ PAGER_MAX_IF_OFFSET_HZ

/-- The plan is built, the HAL supports its service channel, and the pager is in range. -/
def PlanStarts (radio : RadioConfig F) (pager : PagerConfig F) : Prop :=
  ∃ plan ch, planOf radio = .ok plan ∧ plan.singleSfChannel = some ch ∧ HalSupports ch ∧
    NearAnchor pager (anchorOf plan pager.rfChain)

structure Startable (s : AppConfig F) : Prop where
  plan : PlanStarts s.radio s.pager
  syncWord : FitsSize s.pager.syncWord s.pager.syncWordSize
  rssi : below s.relay.minRelayRssi s.relay.maxRelayRssi = true

/-! ### The guard -/

/-- A plan is built for the frequency: any with a blank region, else one in the band of a known
    region or the default of another. -/
def Serviceable (region : String) (freqHz : Int) : Prop :=
  region = "" ∨ InBand region freqHz ∨
    ((defaultFrequencyHz region).isSome = true ∧ freqHz ∈ REGION_DEFAULTS_HZ.map Prod.snd)

/-- Where the RF chains are centred: as in the region's own plan at its default frequency with
    the LongFast settings, else both on the served frequency, chain 1 above it by 800 kHz
    unless the region is narrow. -/
def centreHz (region : String) (freqHz spreadingFactor bandwidthKhz rfChain : Int) : Int :=
  if defaultFrequencyHz region = some freqHz ∧ spreadingFactor = 11 ∧ bandwidthKhz = 250 then
    anchorOf ((forRegion region).getD {}) rfChain
  else if rfChain = 1 ∧ NARROW_BAND_REGIONS.contains region = false then
    servedFrequency region freqHz + 800000
  else servedFrequency region freqHz

/-- The settings give a plan whose centre the pager is in range of. -/
def InReach (radio : RadioConfig F) (pager : PagerConfig F) : Prop :=
  ∃ freqHz ∈ RadioFloat.hertz radio.frequencyMhz,
    ∃ bandwidth ∈ RadioFloat.kilohertz radio.bandwidthKhz,
      Serviceable radio.region freqHz ∧
        NearAnchor pager
          (centreHz radio.region freqHz radio.spreadingFactor bandwidth pager.rfChain)

/-- What a radio request sets is in the tables of the HAL, and with it the frequency is one of
    the region, and the pager still in range. -/
def FitsRadio (s : AppConfig F) (changes : RadioChanges F) : Prop :=
  (∀ sf ∈ changes.spreadingFactor, sf ∈ LORA_DR) ∧
    (∀ bw ∈ changes.bandwidthKhz, ∃ khz ∈ RadioFloat.kilohertz bw,
      khz ∈ BW_KHZ_TO_HAL.map Prod.fst) ∧
    InReach (s.radio.apply changes) s.pager

/-- The guard of a request: a radio request fits, a pager request always does, and a relay
    request that sets `min_relay_rssi` alone stays below the current `max_relay_rssi`. -/
def keepsStartable (upper : String → String) (s : AppConfig F) : Request F → Prop
  | .radio req _ => ∀ changes ∈ (requestedChanges upper req).toOption, FitsRadio s changes
  | .pager _ _ => True
  | .relay req _ =>
    req.maxRelayRssi = none → ∀ x ∈ req.minRelayRssi, below x s.relay.maxRelayRssi = true

instance (region : String) (freqHz : Int) : Decidable (InBand region freqHz) :=
  inferInstanceAs (Decidable (∃ band ∈ bandLimitsHz region, band.1 ≤ freqHz ∧ freqHz ≤ band.2))

instance (region : String) (freqHz : Int) : Decidable (Serviceable region freqHz) :=
  inferInstanceAs (Decidable (_ ∨ _ ∨ _))

instance (pager : PagerConfig F) (anchorHz : Int) : Decidable (NearAnchor pager anchorHz) :=
  inferInstanceAs (Decidable (∃ hz ∈ SettingFloat.nearestHertz pager.frequencyMhz, _))

instance (radio : RadioConfig F) (pager : PagerConfig F) : Decidable (InReach radio pager) :=
  inferInstanceAs (Decidable (∃ freqHz ∈ RadioFloat.hertz radio.frequencyMhz, _))

instance (s : AppConfig F) (changes : RadioChanges F) : Decidable (FitsRadio s changes) :=
  inferInstanceAs (Decidable (_ ∧ _ ∧ _))

instance (upper : String → String) (s : AppConfig F) :
    (e : Request F) → Decidable (keepsStartable upper s e)
  | .radio req _ =>
    inferInstanceAs (Decidable (∀ changes ∈ (requestedChanges upper req).toOption, _))
  | .pager _ _ => inferInstanceAs (Decidable True)
  | .relay req _ =>
    inferInstanceAs (Decidable (req.maxRelayRssi = none → ∀ x ∈ req.minRelayRssi, _))

end

/-! ### Plans and their centres -/

section

variable {F : Type} [SettingFloat F]

theorem exists_band {region : String} {defaultHz : Int}
    (h : defaultFrequencyHz region = some defaultHz) :
    ∃ band, bandLimitsHz region = some band ∧ band.1 ≤ defaultHz ∧ defaultHz ≤ band.2 :=
  inBand_default h

theorem exists_forRegion {region : String} {defaultHz : Int}
    (h : defaultFrequencyHz region = some defaultHz) : ∃ plan, forRegion region = some plan := by
  have hall : ∀ entry ∈ REGION_DEFAULTS_HZ, (forRegion entry.1).isSome = true := by decide
  have hmem : (region, defaultHz) ∈ REGION_DEFAULTS_HZ := by
    obtain ⟨before, after, hsplit, -⟩ := List.lookup_eq_some_iff.mp h
    rw [hsplit]
    exact List.mem_append_right _ List.mem_cons_self
  exact Option.isSome_iff_exists.mp (hall _ hmem)

/-- A target frequency is found for exactly the frequencies that a known region serves. -/
theorem targetFrequency_spec {region : String} {defaultHz bandMin bandMax : Int} (freqHz : Int)
    (hdefault : defaultFrequencyHz region = some defaultHz)
    (hband : bandLimitsHz region = some (bandMin, bandMax)) (hregion : region ≠ "") :
    (∃ target, targetFrequency region defaultHz bandMin bandMax freqHz = .ok target) ↔
      Serviceable region freqHz := by
  constructor
  · rintro ⟨target, htarget⟩
    rcases accepted_of_targetFrequency hdefault hband htarget with h | h | h
    · exact absurd h hregion
    · exact Or.inr (Or.inl h)
    · exact Or.inr (Or.inr ⟨by rw [hdefault]; rfl, h⟩)
  · intro hserviceable
    unfold targetFrequency
    by_cases hin : freqHz = defaultHz ∨ bandMin ≤ freqHz ∧ freqHz ≤ bandMax
    · exact ⟨freqHz, if_pos hin⟩
    · rw [if_neg hin]
      rcases hserviceable with h | ⟨band, hband', hlow, hhigh⟩ | ⟨-, hother⟩
      · exact absurd h hregion
      · rw [hband] at hband'
        cases hband'
        exact absurd (Or.inr ⟨hlow, hhigh⟩) hin
      · exact ⟨defaultHz, if_pos (List.contains_iff_mem.mpr hother)⟩

theorem planOf_known {radio : RadioConfig F} {freqHz bandwidth defaultHz bandMin bandMax : Int}
    {regional : ConcentratorChannelPlan}
    (hfreq : RadioFloat.hertz radio.frequencyMhz = some freqHz)
    (hbandwidth : RadioFloat.kilohertz radio.bandwidthKhz = some bandwidth)
    (hregion : radio.region ≠ "") (hdefault : defaultFrequencyHz radio.region = some defaultHz)
    (hband : bandLimitsHz radio.region = some (bandMin, bandMax))
    (hregional : forRegion radio.region = some regional) :
    planOf radio =
      if freqHz = defaultHz ∧ radio.spreadingFactor = 11 ∧ bandwidth = 250 then .ok regional
      else (targetFrequency radio.region defaultHz bandMin bandMax freqHz).map fun target =>
        if NARROW_BAND_REGIONS.contains radio.region then
          buildNarrowPlan target radio.spreadingFactor bandwidth
        else buildCenteredPlan target radio.spreadingFactor bandwidth := by
  have hlongfast : isLongfast radio.spreadingFactor radio.bandwidthKhz =
      .ok (decide (radio.spreadingFactor = 11 ∧ bandwidth = 250)) := by
    unfold isLongfast
    rw [hbandwidth]
    by_cases hsf : radio.spreadingFactor = 11
    · simp only [hsf, if_true, converted, Option.elim_some, true_and]
      rfl
    · simp only [hsf, if_false, false_and, decide_false]
  unfold planOf fromRadioConfig
  simp only [hfreq, hbandwidth, hdefault, hband, hlongfast, hregional, converted,
    Option.elim_some, if_neg hregion]
  change (if freqHz = defaultHz ∧
    decide (radio.spreadingFactor = 11 ∧ bandwidth = 250) = true then _ else _) = _
  simp only [decide_eq_true_eq]
  by_cases hlong : freqHz = defaultHz ∧ radio.spreadingFactor = 11 ∧ bandwidth = 250
  · rw [if_pos hlong, if_pos hlong]
  · rw [if_neg hlong, if_neg hlong]
    cases targetFrequency radio.region defaultHz bandMin bandMax freqHz <;> rfl

/-- There is a plan exactly for the frequencies that can be served, and each chain of it is
    anchored at their centre. -/
structure PlannedAsServed (radio : RadioConfig F) (freqHz bandwidth : Int) : Prop where
  anchored : ∀ plan, planOf radio = .ok plan → Serviceable radio.region freqHz ∧
    ∀ rfChain, anchorOf plan rfChain =
      centreHz radio.region freqHz radio.spreadingFactor bandwidth rfChain
  planned : Serviceable radio.region freqHz → ∃ plan, planOf radio = .ok plan

theorem planned_blank {radio : RadioConfig F} {freqHz bandwidth : Int}
    (hfreq : RadioFloat.hertz radio.frequencyMhz = some freqHz)
    (hbandwidth : RadioFloat.kilohertz radio.bandwidthKhz = some bandwidth)
    (hregion : radio.region = "") : PlannedAsServed radio freqHz bandwidth := by
  have hplan : planOf radio = .ok (buildCenteredPlan freqHz radio.spreadingFactor bandwidth) := by
    unfold planOf fromRadioConfig
    simp only [hfreq, hbandwidth, converted, Option.elim_some, if_pos hregion]
    rfl
  refine ⟨?_, fun _ => ⟨_, hplan⟩⟩
  intro plan h
  rw [hplan] at h
  obtain rfl := Except.ok.inj h
  refine ⟨Or.inl hregion, fun rfChain => ?_⟩
  rw [hregion]
  by_cases hchain : rfChain = 1
  · rw [hchain]
    rfl
  · simp only [anchorOf, centreHz, hchain, if_false, false_and]
    rfl

theorem planned_unknown {radio : RadioConfig F} {freqHz bandwidth : Int}
    (hfreq : RadioFloat.hertz radio.frequencyMhz = some freqHz) (hregion : radio.region ≠ "")
    (hdefault : defaultFrequencyHz radio.region = none) :
    PlannedAsServed radio freqHz bandwidth := by
  have hplan : ∀ plan, planOf radio ≠ .ok plan := by
    intro plan
    unfold planOf fromRadioConfig
    simp only [hfreq, converted, Option.elim_some, if_neg hregion, hdefault]
    intro h
    cases h
  refine ⟨fun plan h => absurd h (hplan plan), ?_⟩
  rintro (h | h | ⟨h, -⟩)
  · exact absurd h hregion
  · have hsome := default_of_inBand h
    rw [hdefault] at hsome
    cases hsome
  · rw [hdefault] at h
    cases h

theorem planned_known {radio : RadioConfig F} {freqHz bandwidth defaultHz : Int}
    (hfreq : RadioFloat.hertz radio.frequencyMhz = some freqHz)
    (hbandwidth : RadioFloat.kilohertz radio.bandwidthKhz = some bandwidth)
    (hregion : radio.region ≠ "") (hdefault : defaultFrequencyHz radio.region = some defaultHz) :
    PlannedAsServed radio freqHz bandwidth := by
  obtain ⟨⟨bandMin, bandMax⟩, hband, -⟩ := exists_band hdefault
  obtain ⟨regional, hregional⟩ := exists_forRegion hdefault
  have hplan := planOf_known hfreq hbandwidth hregion hdefault hband hregional
  have htarget := targetFrequency_spec freqHz hdefault hband hregion
  by_cases hlong : freqHz = defaultHz ∧ radio.spreadingFactor = 11 ∧ bandwidth = 250
  · rw [if_pos hlong] at hplan
    refine ⟨?_, fun _ => ⟨_, hplan⟩⟩
    intro plan h
    rw [hplan] at h
    obtain rfl := Except.ok.inj h
    refine ⟨Or.inr (Or.inl (hlong.1 ▸ inBand_default hdefault)), fun rfChain => ?_⟩
    unfold centreHz
    rw [if_pos ⟨by rw [hdefault, hlong.1], hlong.2⟩, hregional]
    rfl
  · rw [if_neg hlong] at hplan
    have hcentre : ∀ rfChain, centreHz radio.region freqHz radio.spreadingFactor bandwidth
        rfChain = if rfChain = 1 ∧ NARROW_BAND_REGIONS.contains radio.region = false then
          servedFrequency radio.region freqHz + 800000
        else servedFrequency radio.region freqHz := by
      intro rfChain
      apply if_neg
      rintro ⟨hfreq', hrest⟩
      rw [hdefault] at hfreq'
      exact hlong ⟨(Option.some.inj hfreq').symm, hrest⟩
    cases ht : targetFrequency radio.region defaultHz bandMin bandMax freqHz with
    | error e =>
      rw [ht] at hplan
      refine ⟨fun plan h => ?_, fun hserviceable => ?_⟩
      · rw [hplan] at h
        cases h
      · obtain ⟨target, h⟩ := htarget.mpr hserviceable
        rw [ht] at h
        cases h
    | ok target =>
      rw [ht] at hplan
      have hserved := targetFrequency_eq_ok hdefault hband ht
      refine ⟨?_, fun _ => ⟨_, hplan⟩⟩
      intro plan h
      rw [hplan] at h
      obtain rfl := Except.ok.inj h
      refine ⟨htarget.mp ⟨target, ht⟩, fun rfChain => ?_⟩
      rw [hcentre, ← hserved]
      cases hnarrow : NARROW_BAND_REGIONS.contains radio.region with
      | true =>
        simp only [if_true, Bool.true_eq_false, and_false, if_false]
        exact ite_self target
      | false =>
        simp only [Bool.false_eq_true, if_false, and_true]
        rfl

theorem planned_asServed {radio : RadioConfig F} {freqHz bandwidth : Int}
    (hfreq : RadioFloat.hertz radio.frequencyMhz = some freqHz)
    (hbandwidth : RadioFloat.kilohertz radio.bandwidthKhz = some bandwidth) :
    PlannedAsServed radio freqHz bandwidth := by
  by_cases hregion : radio.region = ""
  · exact planned_blank hfreq hbandwidth hregion
  · cases hdefault : defaultFrequencyHz radio.region with
    | none => exact planned_unknown hfreq hregion hdefault
    | some defaultHz => exact planned_known hfreq hbandwidth hregion hdefault

theorem planStarts_iff (radio : RadioConfig F) (pager : PagerConfig F) :
    PlanStarts radio pager ↔ radio.spreadingFactor ∈ LORA_DR ∧
      (∃ khz ∈ RadioFloat.kilohertz radio.bandwidthKhz, khz ∈ BW_KHZ_TO_HAL.map Prod.fst) ∧
      InReach radio pager := by
  constructor
  · rintro ⟨plan, ch, hplan, hsingle, ⟨hsf, hbw⟩, hnear⟩
    obtain ⟨freqHz, bandwidth, hfreq, hbandwidth, hsingle', -⟩ := singleSf_fromRadioConfig hplan
    rw [hsingle] at hsingle'
    obtain rfl := Option.some.inj hsingle'
    obtain ⟨hserviceable, hcentre⟩ := (planned_asServed hfreq hbandwidth).anchored plan hplan
    rw [hcentre] at hnear
    exact ⟨hsf, ⟨bandwidth, hbandwidth, hbw⟩, freqHz, hfreq, bandwidth, hbandwidth,
      hserviceable, hnear⟩
  · rintro ⟨hsf, ⟨khz, hkhz, hbw⟩, freqHz, hfreq, bandwidth, hbandwidth, hserviceable, hnear⟩
    rw [Option.mem_def] at hkhz hfreq hbandwidth
    rw [hkhz] at hbandwidth
    obtain rfl := Option.some.inj hbandwidth
    obtain ⟨hbuilt, hexists⟩ := @planned_asServed F _ radio _ _ hfreq hkhz
    obtain ⟨plan, hplan⟩ := hexists hserviceable
    obtain ⟨-, hcentre⟩ := hbuilt plan hplan
    obtain ⟨freqHz', bandwidth', hfreq', hbandwidth', hsingle, -⟩ :=
      singleSf_fromRadioConfig hplan
    rw [hkhz] at hbandwidth'
    obtain rfl := Option.some.inj hbandwidth'
    rw [← hcentre] at hnear
    exact ⟨plan, _, hplan, hsingle, ⟨hsf, hbw⟩, hnear⟩

/-! ### One request -/

theorem planStarts_apply_iff {s : AppConfig F} (h : PlanStarts s.radio s.pager)
    (changes : RadioChanges F) :
    PlanStarts (s.radio.apply changes) s.pager ↔ FitsRadio s changes := by
  obtain ⟨hsf, hbw, -⟩ := (planStarts_iff s.radio s.pager).mp h
  rw [planStarts_iff]
  constructor
  · rintro ⟨hsf', hbw', hreach⟩
    refine ⟨?_, ?_, hreach⟩
    · intro sf hset
      rw [Option.mem_def] at hset
      rw [RadioConfig.apply, hset] at hsf'
      exact hsf'
    · intro bw hset
      rw [Option.mem_def] at hset
      rw [RadioConfig.apply, hset] at hbw'
      exact hbw'
  · rintro ⟨hsf', hbw', hreach⟩
    refine ⟨?_, ?_, hreach⟩
    · exact holds_getD (· ∈ LORA_DR) hsf hsf'
    · exact holds_getD (fun bw => ∃ khz ∈ RadioFloat.kilohertz bw, khz ∈ BW_KHZ_TO_HAL.map Prod.fst)
        hbw hbw'

theorem nonneg_of_within {high : Int} {field : Option Int} {current : Int}
    (h : within 0 high field = true) (hcurrent : 0 ≤ current) : 0 ≤ field.getD current := by
  cases field with
  | none => exact hcurrent
  | some n => exact (of_decide_eq_true h).1

theorem pager_checked {s : AppConfig F} {req : RadioPagerUpdate F} {writable : Bool}
    {pager : PagerConfig F} {saved : Saved} (hs : Startable s) (hvalid : req.valid = true)
    (h : updateRadioPager s.radio s.pager req writable = (pager, .ok saved)) :
    PlanStarts s.radio pager ∧ FitsSize pager.syncWord pager.syncWordSize := by
  unfold updateRadioPager at h
  split at h
  · cases h
  · rename_i hword
    split at h
    · cases h
    · rename_i hfrequency
      obtain ⟨hpager, -⟩ := Prod.mk.inj h
      rw [← hpager]
      constructor
      · obtain ⟨plan, ch, hplan, hsingle, hhal, hnear⟩ := hs.plan
        refine ⟨plan, ch, hplan, hsingle, hhal, ?_⟩
        cases hset : req.pagerFrequencyMhz with
        | none =>
          simpa only [NearAnchor, PagerConfig.apply, hset, Option.getD_none] using hnear
        | some frequencyMhz =>
          rw [hset] at hfrequency
          simp only [checkFrequency, hplan] at hfrequency
          cases hhz : SettingFloat.nearestHertz frequencyMhz with
          | none =>
            rw [hhz] at hfrequency
            cases hfrequency
          | some hz =>
            simp only [hhz] at hfrequency
            split at hfrequency
            · cases hfrequency
            · rename_i hle
              refine ⟨hz, ?_, not_lt.mp hle⟩
              rw [Option.mem_def]
              simpa only [PagerConfig.apply, hset, Option.getD_some] using hhz
      · simp only [RadioPagerUpdate.valid, Bool.and_eq_true] at hvalid
        have hnonneg := nonneg_of_within hvalid.1.1.2 hs.syncWord.2.1
        unfold checkSyncWord at hword
        split at hword
        · cases hword
        · rename_i hsize
          split at hword
          · cases hword
          · rename_i hfits
            exact ⟨not_lt.mp hsize, hnonneg, not_le.mp hfits⟩

theorem below_of_not_le {x y : F} (hx : SettingFloat.le x x = true)
    (hy : SettingFloat.le y y = true) (h : ¬ SettingFloat.le y x = true) : below x y = true := by
  have hle : SettingFloat.le x y = true := by
    rcases SettingFloat.le_total hx hy with hle | hle
    · exact hle
    · exact absurd hle h
  unfold below
  rw [hle, Bool.eq_false_iff.mpr h]
  rfl

theorem le_self_of_below {x y : F} (h : below x y = true) : SettingFloat.le x x = true := by
  unfold below at h
  exact SettingFloat.le_self_left (Bool.and_eq_true_iff.mp h).1

theorem le_self_of_withinFloat {low high x : F} {field : Option F}
    (h : withinFloat low high field = true) (hx : field = some x) :
    SettingFloat.le x x = true := by
  rw [hx] at h
  exact SettingFloat.le_self_left (Bool.and_eq_true_iff.mp h).2

/-- A relay request keeps the bounds apart exactly when a `min_relay_rssi` that comes alone
    is below the current `max_relay_rssi`. -/
theorem rssi_updateRelay {relay relay' : RelayConfig F} {req : RelayUpdate F} {writable : Bool}
    {saved : Saved} (hrelay : below relay.minRelayRssi relay.maxRelayRssi = true)
    (hvalid : req.valid = true) (h : updateRelay relay req writable = (relay', .ok saved)) :
    below relay'.minRelayRssi relay'.maxRelayRssi = true ↔
      (req.maxRelayRssi = none → ∀ x ∈ req.minRelayRssi, below x relay.maxRelayRssi = true) := by
  simp only [RelayUpdate.valid, Bool.and_eq_true] at hvalid
  unfold updateRelay at h
  cases hmax : req.maxRelayRssi with
  | none =>
    simp only [hmax] at h
    obtain ⟨hrelay', -⟩ := Prod.mk.inj h
    rw [← hrelay']
    simp only [RelayConfig.applyOthers, forall_const]
    cases hmin : req.minRelayRssi with
    | none =>
      simp only [Option.getD_none, hrelay, true_iff]
      intro x hx
      cases hx
    | some x => simp only [Option.getD_some, Option.mem_def, Option.some.injEq, forall_eq']
  | some maxRelayRssi =>
    simp only [hmax] at h
    split at h
    · cases h
    · rename_i hle
      obtain ⟨hrelay', -⟩ := Prod.mk.inj h
      rw [← hrelay']
      refine iff_of_true ?_ (fun hnone => nomatch hnone)
      apply below_of_not_le _ (le_self_of_withinFloat hvalid.2 hmax) hle
      simp only [RelayConfig.applyOthers]
      cases hmin : req.minRelayRssi with
      | none => exact le_self_of_below hrelay
      | some x => exact le_self_of_withinFloat hvalid.1.2 hmin

/-- Step lemma: an accepted request leaves a startable configuration startable exactly when
    it meets the guard. -/
theorem step_spec {upper : String → String} {s s' : AppConfig F} {e : Request F}
    (hs : Startable s) (h : step upper s e = some s') :
    Startable s' ↔ keepsStartable upper s e := by
  unfold step at h
  split at h
  · rename_i s₁ saved hanswer
    obtain rfl := Option.some.inj h
    cases e with
    | radio req writable =>
      simp only [answer, updateRadio] at hanswer
      cases hreq : requestedChanges upper req with
      | error e =>
        rw [hreq] at hanswer
        cases (Prod.mk.inj hanswer).2
      | ok changes =>
        rw [hreq] at hanswer
        rw [← (Prod.mk.inj hanswer).1]
        have hguard : keepsStartable upper s (.radio req writable) ↔ FitsRadio s changes := by
          simp only [keepsStartable, hreq, Except.toOption, Option.mem_def, Option.some.injEq,
            forall_eq']
        rw [hguard, ← planStarts_apply_iff hs.plan]
        constructor
        · intro hs'
          exact hs'.plan
        · intro hplan
          exact ⟨hplan, hs.syncWord, hs.rssi⟩
    | pager req writable =>
      simp only [answer] at hanswer
      split at hanswer
      · rename_i hvalid
        cases hupdate : updateRadioPager s.radio s.pager req writable with
        | mk pager result =>
          rw [hupdate] at hanswer
          obtain ⟨hs', hresult⟩ := Prod.mk.inj hanswer
          obtain rfl : result = .ok saved := hresult
          obtain ⟨hplan, hword⟩ := pager_checked hs hvalid hupdate
          rw [← hs']
          exact iff_of_true ⟨hplan, hword, hs.rssi⟩ trivial
      · cases (Prod.mk.inj hanswer).2
    | relay req writable =>
      simp only [answer] at hanswer
      split at hanswer
      · rename_i hvalid
        cases hupdate : updateRelay s.relay req writable with
        | mk relay result =>
          rw [hupdate] at hanswer
          obtain ⟨hs', hresult⟩ := Prod.mk.inj hanswer
          obtain rfl : result = .ok saved := hresult
          rw [← hs']
          have hrssi := rssi_updateRelay hs.rssi hvalid hupdate
          change _ ↔ (req.maxRelayRssi = none → ∀ x ∈ req.minRelayRssi, _)
          rw [← hrssi]
          constructor
          · intro hs'
            exact hs'.rssi
          · intro hrssi
            exact ⟨hs.plan, hs.syncWord, hrssi⟩
      · cases (Prod.mk.inj hanswer).2
  · cases h

/-! ### Every run -/

theorem head_of_throughout {upper : String → String} {s : AppConfig F} {es : List (Request F)}
    (h : Throughout (step upper) Startable s es) : Startable s := by
  cases es with
  | nil => exact h
  | cons e es => exact h.1

/-- **Startable settings.**  Over any sequence of accepted requests the configuration stays
    startable exactly when it is at the beginning and every request meets the guard in the
    configuration it finds. -/
theorem throughout_startable_iff (upper : String → String) (s s' : AppConfig F)
    (es : List (Request F)) (h : replay (step upper) Always s es = some s') :
    Throughout (step upper) Startable s es ↔
      Startable s ∧ replay (step upper) (keepsStartable upper) s es = some s' := by
  have hguard : Startable s → (Throughout (step upper) Startable s es ↔
      replay (step upper) (keepsStartable upper) s es = some s') := by
    intro hs
    exact throughout_iff_replay (I := fun _ => True)
      (fun _ hs hstep => ⟨trivial, step_spec hs hstep⟩) trivial hs h
  constructor
  · intro hthroughout
    have hs := head_of_throughout hthroughout
    exact ⟨hs, (hguard hs).mp hthroughout⟩
  · rintro ⟨hs, hreplay⟩
    exact (hguard hs).mpr hreplay

end

/-! ### Runs with exact numbers -/

def roundHalfEven (x : ℚ) : Int :=
  if x - x.floor = 1 / 2 then x.floor + x.floor % 2 else (x + 1 / 2).floor

instance : SettingFloat ℚ where
  nearestHertz x := some (roundHalfEven (x * 1000000))
  le x y := decide (x ≤ y)
  le_self_left _ := decide_eq_true le_rfl
  le_self_right _ := decide_eq_true le_rfl
  le_total := by
    intro x y _ _
    rcases le_total x y with h | h
    · exact Or.inl (decide_eq_true h)
    · exact Or.inr (decide_eq_true h)

def eu868Config : AppConfig ℚ where
  radio := ⟨"EU_868", 869525 / 1000, 11, 250, "4/5"⟩
  pager := ⟨false, 8694625 / 10000, 0x946437, 3, 1, 0⟩
  relay := ⟨false, none, 115200, 20, 5, -110, -50⟩

theorem startable_eu868 : Startable eu868Config where
  plan := (planStarts_iff _ _).mpr (by decide +kernel)
  syncWord := by
    unfold FitsSize
    decide
  rssi := by decide +kernel

/-- A new pager channel, a faster preset and a narrower relay range. -/
def eu868Requests : List (Request ℚ) :=
  [.pager { pagerEnabled := some true, pagerFrequencyMhz := some (8695 / 10)
            pagerSyncWord := some 0xC194, pagerSyncWordSize := some 2 } true,
    .radio { preset := some "SHORT_TURBO" } true,
    .relay { minRelayRssi := some (-100), maxRelayRssi := some (-40) } true]

/-- The EU868 station stays startable through the three requests. -/
theorem throughout_startable_eu868 :
    ∃ s', replay (step id) Always eu868Config eu868Requests = some s' ∧
      Throughout (step id) Startable eu868Config eu868Requests := by
  have hrun : ∃ s' ∈ replay (step id) (keepsStartable id) eu868Config eu868Requests,
      replay (step id) Always eu868Config eu868Requests = some s' := by decide +kernel
  obtain ⟨s', hguarded, halways⟩ := hrun
  exact ⟨s', halways,
    (throughout_startable_iff id eu868Config s' eu868Requests halways).mpr
      ⟨startable_eu868, hguarded⟩⟩

/-- Accepted by a startable EU868 station, each by itself: a `min_relay_rssi` above the current
    `max_relay_rssi`; the preset VERY_LONG_SLOW, whose 62.5 kHz the HAL does not have; the
    spreading factor 20; a frequency outside the band; and another region, whose band is far
    from the pager's.  After each the configuration is not startable. -/
theorem accepted_not_startable :
    Startable eu868Config ∧
      ∀ e ∈ ([.relay { minRelayRssi := some (-20) } true,
        .radio { preset := some "VERY_LONG_SLOW" } true,
        .radio { spreadingFactor := some 20 } true,
        .radio { frequencyMhz := some 100 } true,
        .radio { region := some "US" } true] : List (Request ℚ)),
        ∃ s', step id eu868Config e = some s' ∧ ¬ Startable s' := by
  refine ⟨startable_eu868, ?_⟩
  intro e he
  have hbroken : (step id eu868Config e).isSome = true ∧ ¬ keepsStartable id eu868Config e := by
    revert e
    decide +kernel
  obtain ⟨hsome, hguard⟩ := hbroken
  obtain ⟨s', hstep⟩ := Option.isSome_iff_exists.mp hsome
  exact ⟨s', hstep, fun hs' => hguard ((step_spec startable_eu868 hstep).mp hs')⟩

end AcceptedSettings

end Meshpoint
