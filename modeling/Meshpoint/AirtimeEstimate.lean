import Mathlib.Tactic.IntervalCases
import Mathlib.Tactic.Linarith
import Meshpoint.RadioSettings

/-!
# The airtime of a frame, estimated

`_estimate_airtime` of `TxService` stands in for the HAL's `lgw_time_on_air` when that call
fails, and `timeOnAir` is the time on air of the HAL packet by the Semtech formula. Both are in
milliseconds, in exact arithmetic. A symbol lasts `2 ^ sf / bandwidth`; the estimate takes the
bandwidth as 250 kHz and the coding rate as 4/5, and counts started blocks by a floor.

`estimate_covers_iff` gives the frames for which the estimate is long enough.
-/

namespace Meshpoint.AirtimeEstimate

open ChannelPlan RadioSettings

section

variable {F : Type} [RadioFloat F]

/-- `_build_hal_packet`: without a radio configuration it takes that of LongFast at 4/8. -/
def buildPacket (radio : Option (RadioConfig F)) (txPowerDbm : Int) (packetBytes : Bytes) :
    Option HalPacket :=
  match radio with
  | some radio => buildHalPacket radio txPowerDbm packetBytes
  | none =>
    some { freqHz := 906875000
           rfPower := (txPowerDbm + 128) % 256 - 128
           bandwidth := halBandwidth 250
           datarate := 11
           coderate := resolveCoderate "4/8"
           size := packetBytes.length % 2 ^ 16
           payload := packetBytes.take 256 }

end

/-- `_estimate_airtime`; `//` is the division of integers that rounds down, and so does `int`
    of a number that is not negative. -/
def estimateAirtime (payloadSize sf : Nat) : Int :=
  let symbolTimeMs : ℚ := 2 ^ sf / 250
  let nSymbols : Int :=
    8 + max ((8 * payloadSize - 4 * sf + 28 + 16 : Int) / (4 * sf) * 5 + 8) 0
  ⌊((16 + nSymbols : Int) : ℚ) * symbolTimeMs⌋

/-! ### Time on air -/

def symbolMs (pkt : HalPacket) : ℚ := 2 ^ pkt.datarate / halBandwidthKhz pkt.bandwidth

/-- The bits of payload, header and CRC beyond those the first block takes. -/
def codedBits (size sf : Nat) : Int := 8 * size - 4 * sf + 28 + 16

/-- Bits of a block: low-data-rate optimisation drops two rows of it. -/
def blockBits (pkt : HalPacket) : Int :=
  if 16 < symbolMs pkt then 4 * (pkt.datarate - 2) else 4 * pkt.datarate

def blocks (pkt : HalPacket) : Int :=
  ⌈(codedBits pkt.size pkt.datarate : ℚ) / blockBits pkt⌉

def payloadSymbols (pkt : HalPacket) : Int := 8 + max (blocks pkt * (pkt.coderate + 4)) 0

/-- The preamble of 16 symbols and its 4.25 symbols of sync, and the payload. -/
def timeOnAir (pkt : HalPacket) : ℚ := (16 + 17 / 4 + payloadSymbols pkt) * symbolMs pkt

/-- The frames the estimate is enough for: all of them at 500 kHz; and at 250 kHz those that fill
    their last block, with as few blocks as the coding rate allows. -/
def Covered (pkt : HalPacket) : Prop :=
  pkt.bandwidth = BW_500KHZ ∨
    pkt.bandwidth = BW_250KHZ ∧ pkt.datarate ∣ 2 * pkt.size + 11 ∧
      (pkt.coderate - 1) * ((2 * pkt.size + 11) / pkt.datarate - 1) ≤ 3

/-! ### What `TxService` puts in the packet -/

theorem halBandwidth_cases (khz : Int) : halBandwidth khz = BW_125KHZ ∨
    halBandwidth khz = BW_250KHZ ∨ halBandwidth khz = BW_500KHZ := by
  unfold halBandwidth
  split
  · exact Or.inl rfl
  split
  · exact Or.inr (Or.inl rfl)
  split
  · exact Or.inr (Or.inr rfl)
  · exact Or.inr (Or.inl rfl)

theorem resolveCoderate_bounds (rate : String) :
    1 ≤ resolveCoderate rate ∧ resolveCoderate rate ≤ 4 := by
  simp only [resolveCoderate, List.lookup_cons, List.lookup_nil]
  repeat' split
  all_goals decide

/-- The modulation of a packet: a bandwidth of the HAL table and a coding rate of the map. -/
structure Modulated (pkt : HalPacket) : Prop where
  bandwidth : pkt.bandwidth = BW_125KHZ ∨ pkt.bandwidth = BW_250KHZ ∨ pkt.bandwidth = BW_500KHZ
  coderate_pos : 1 ≤ pkt.coderate
  coderate_le : pkt.coderate ≤ 4

theorem modulated_of_buildPacket {F : Type} [RadioFloat F] {radio : Option (RadioConfig F)}
    {txPowerDbm : Int} {packetBytes : Bytes} {pkt : HalPacket}
    (h : buildPacket radio txPowerDbm packetBytes = some pkt) : Modulated pkt := by
  cases radio with
  | none =>
    obtain rfl := Option.some.inj h
    exact ⟨halBandwidth_cases 250, (resolveCoderate_bounds "4/8").1,
      (resolveCoderate_bounds "4/8").2⟩
  | some radio =>
    simp only [buildPacket, buildHalPacket, Option.bind_eq_bind, Option.bind_eq_some_iff] at h
    obtain ⟨freqHz, -, bandwidth, -, h⟩ := h
    obtain rfl := Option.some.inj h
    exact ⟨halBandwidth_cases _, (resolveCoderate_bounds _).1, (resolveCoderate_bounds _).2⟩

/-! ### Counting blocks -/

theorem ceil_div_bounds (a : Int) {d : Int} (hd : 0 < d) :
    a ≤ ⌈(a : ℚ) / d⌉ * d ∧ (⌈(a : ℚ) / d⌉ - 1) * d < a := by
  have hd' : (0 : ℚ) < d := by exact_mod_cast hd
  constructor
  · have h := Int.le_ceil ((a : ℚ) / d)
    rw [div_le_iff₀ hd'] at h
    exact_mod_cast h
  · have h := Int.ceil_lt_add_one ((a : ℚ) / d)
    have h' : ((⌈(a : ℚ) / d⌉ : ℚ) - 1) < (a : ℚ) / d := by linarith
    rw [lt_div_iff₀ hd'] at h'
    exact_mod_cast h'

/-- The blocks the estimate counts after the first. -/
def fullBlocks (size sf : Nat) : Int := codedBits size sf / (4 * sf)

theorem fullBlocks_bounds (size : Nat) {sf : Nat} (hsf : 7 ≤ sf) (hsf' : sf ≤ 12) :
    -1 ≤ fullBlocks size sf ∧ fullBlocks size sf * (4 * sf) ≤ codedBits size sf ∧
      codedBits size sf < (fullBlocks size sf + 1) * (4 * sf) := by
  have hpos : (0 : Int) < 4 * sf := by omega
  have hle := Int.ediv_mul_le (codedBits size sf) hpos.ne'
  have hlt := Int.lt_ediv_add_one_mul_self (codedBits size sf) hpos
  refine ⟨?_, hle, hlt⟩
  rw [fullBlocks, Int.le_ediv_iff_mul_le hpos]
  unfold codedBits
  omega

theorem estimateAirtime_eq (size : Nat) {sf : Nat} (hsf : 7 ≤ sf) (hsf' : sf ≤ 12) :
    estimateAirtime size sf = ⌊((32 + 5 * fullBlocks size sf : Int) : ℚ) * (2 ^ sf / 250)⌋ := by
  have hfull := (fullBlocks_bounds size hsf hsf').1
  have hmax : max (fullBlocks size sf * 5 + 8) 0 = fullBlocks size sf * 5 + 8 := by omega
  unfold estimateAirtime
  change ⌊((16 + (8 + max (fullBlocks size sf * 5 + 8) 0) : Int) : ℚ) * (2 ^ sf / 250)⌋ = _
  rw [hmax]
  congr 3
  omega

theorem estimateAirtime_bounds (size : Nat) {sf : Nat} (hsf : 7 ≤ sf) (hsf' : sf ≤ 12) :
    (estimateAirtime size sf : ℚ) ≤ (32 + 5 * fullBlocks size sf) * (2 ^ sf / 250) ∧
      (32 + 5 * fullBlocks size sf) * (2 ^ sf / 250) - 1 < (estimateAirtime size sf : ℚ) := by
  rw [estimateAirtime_eq size hsf hsf']
  have hle := Int.floor_le (((32 + 5 * fullBlocks size sf : Int) : ℚ) * (2 ^ sf / 250))
  have hlt := Int.sub_one_lt_floor (((32 + 5 * fullBlocks size sf : Int) : ℚ) * (2 ^ sf / 250))
  push_cast at hle hlt ⊢
  exact ⟨hle, hlt⟩

theorem blockBits_cases (pkt : HalPacket) :
    blockBits pkt = 4 * (pkt.datarate - 2) ∨ blockBits pkt = 4 * pkt.datarate := by
  unfold blockBits
  split
  · exact Or.inl rfl
  · exact Or.inr rfl

/-- The formula counts at least the full blocks, and never a negative number of them. -/
theorem le_blocks (pkt : HalPacket) (hsf : 7 ≤ pkt.datarate) (hsf' : pkt.datarate ≤ 12) :
    0 ≤ blocks pkt ∧ fullBlocks pkt.size pkt.datarate ≤ blocks pkt := by
  obtain ⟨hge, hle, hlt⟩ := fullBlocks_bounds pkt.size hsf hsf'
  have hbits := blockBits_cases pkt
  have hpos : 0 < blockBits pkt := by omega
  have hceil := (ceil_div_bounds (codedBits pkt.size pkt.datarate) hpos).1
  change codedBits pkt.size pkt.datarate ≤ blocks pkt * blockBits pkt at hceil
  have hcoded : -4 ≤ codedBits pkt.size pkt.datarate := by
    unfold codedBits
    omega
  have hnonneg : 0 ≤ blocks pkt := by
    by_contra hneg
    have hmul : blocks pkt * blockBits pkt ≤ -1 * blockBits pkt :=
      Int.mul_le_mul_of_nonneg_right (by omega) hpos.le
    omega
  refine ⟨hnonneg, ?_⟩
  by_contra hlarge
  have hfull : 0 < fullBlocks pkt.size pkt.datarate := by omega
  have hmul : (blocks pkt + 1) * blockBits pkt ≤
      fullBlocks pkt.size pkt.datarate * (4 * pkt.datarate) :=
    calc (blocks pkt + 1) * blockBits pkt
        ≤ fullBlocks pkt.size pkt.datarate * blockBits pkt :=
          Int.mul_le_mul_of_nonneg_right (by omega) hpos.le
      _ ≤ fullBlocks pkt.size pkt.datarate * (4 * pkt.datarate) :=
          Int.mul_le_mul_of_nonneg_left (by omega) hfull.le
  rw [Int.add_mul, Int.one_mul] at hmul
  omega

/-- Without low-data-rate optimisation the formula starts one block more than are full, unless
    the last one is filled. -/
theorem blocks_of_not_optimised {pkt : HalPacket} (hsf : 7 ≤ pkt.datarate)
    (hsf' : pkt.datarate ≤ 12) (hbits : blockBits pkt = 4 * pkt.datarate) :
    blocks pkt = if (4 * pkt.datarate : Int) ∣ codedBits pkt.size pkt.datarate
      then fullBlocks pkt.size pkt.datarate else fullBlocks pkt.size pkt.datarate + 1 := by
  have hpos : (0 : Int) < 4 * pkt.datarate := by omega
  obtain ⟨-, hle, hlt⟩ := fullBlocks_bounds pkt.size hsf hsf'
  unfold blocks
  rw [hbits]
  split
  · rename_i hdvd
    rw [fullBlocks]
    obtain ⟨q, hq⟩ := hdvd
    rw [hq, Int.mul_ediv_cancel_left _ hpos.ne']
    have hne : ((4 * pkt.datarate : Int) : ℚ) ≠ 0 := by exact_mod_cast hpos.ne'
    rw [Int.cast_mul, mul_div_cancel_left₀ _ hne, Int.ceil_intCast]
  · rename_i hdvd
    rw [Int.ceil_eq_iff]
    have hpos' : (0 : ℚ) < ((4 * pkt.datarate : Int) : ℚ) := by exact_mod_cast hpos
    constructor
    · rw [lt_div_iff₀ hpos']
      have hne : fullBlocks pkt.size pkt.datarate * (4 * pkt.datarate) ≠
          codedBits pkt.size pkt.datarate :=
        fun h => hdvd ⟨_, h.symm.trans (Int.mul_comm _ _)⟩
      have hstrict := lt_of_le_of_ne hle hne
      have hcast : ((fullBlocks pkt.size pkt.datarate * (4 * pkt.datarate) : Int) : ℚ) <
          (codedBits pkt.size pkt.datarate : ℚ) := by exact_mod_cast hstrict
      push_cast at hcast ⊢
      linarith
    · rw [div_le_iff₀ hpos']
      exact_mod_cast hlt.le

theorem dvd_codedBits_iff (size : Nat) {sf : Nat} :
    (4 * sf : Int) ∣ codedBits size sf ↔ sf ∣ 2 * size + 11 := by
  have hbits : codedBits size sf = 4 * (((2 * size + 11 : Nat) : Int) - sf) := by
    unfold codedBits
    push_cast
    ring
  rw [hbits, Int.mul_dvd_mul_iff_left (by decide), dvd_sub_self_right, Int.natCast_dvd_natCast]

/-! ### The estimate and the time on air -/

theorem timeOnAir_eq (pkt : HalPacket) (hsf : 7 ≤ pkt.datarate) (hsf' : pkt.datarate ≤ 12) :
    timeOnAir pkt = (113 / 4 + (blocks pkt * (pkt.coderate + 4) : Int)) * symbolMs pkt := by
  have hblocks := (le_blocks pkt hsf hsf').1
  have hnonneg : 0 ≤ blocks pkt * (pkt.coderate + 4) := Int.mul_nonneg hblocks (by omega)
  unfold timeOnAir payloadSymbols
  rw [max_eq_left hnonneg]
  push_cast
  ring

theorem symbol_bounds {sf : Nat} (hsf : 7 ≤ sf) (hsf' : sf ≤ 12) :
    (128 : ℚ) ≤ 2 ^ sf ∧ (2 : ℚ) ^ sf ≤ 4096 := by
  constructor
  · calc (128 : ℚ) = 2 ^ 7 := by norm_num
      _ ≤ 2 ^ sf := pow_le_pow_right₀ (by norm_num) hsf
  · calc (2 : ℚ) ^ sf ≤ 2 ^ 12 := pow_le_pow_right₀ (by norm_num) hsf'
      _ = 4096 := by norm_num

section

variable {pkt : HalPacket} (hsf : 7 ≤ pkt.datarate) (hsf' : pkt.datarate ≤ 12)

include hsf hsf'

theorem estimate_enough_500 (hmod : Modulated pkt) (hbw : pkt.bandwidth = BW_500KHZ) :
    timeOnAir pkt ≤ estimateAirtime pkt.size pkt.datarate := by
  obtain ⟨hS, hS'⟩ := symbol_bounds hsf hsf'
  have hsymbol : symbolMs pkt = 2 ^ pkt.datarate / 500 := by simp [symbolMs, hbw]; rfl
  have hbits : blockBits pkt = 4 * pkt.datarate := by
    unfold blockBits
    rw [if_neg]
    rw [hsymbol]
    linarith
  have hfull := (fullBlocks_bounds pkt.size hsf hsf').1
  obtain ⟨hnonneg, -⟩ := le_blocks pkt hsf hsf'
  have hblocks : blocks pkt ≤ fullBlocks pkt.size pkt.datarate + 1 := by
    rw [blocks_of_not_optimised hsf hsf' hbits]
    split <;> omega
  have hcoded : blocks pkt * (pkt.coderate + 4) ≤ 8 * (fullBlocks pkt.size pkt.datarate + 1) :=
    calc blocks pkt * (pkt.coderate + 4) ≤ blocks pkt * 8 :=
          Int.mul_le_mul_of_nonneg_left (by have := hmod.coderate_le; omega) hnonneg
      _ ≤ 8 * (fullBlocks pkt.size pkt.datarate + 1) := by omega
  have hcodedQ : ((blocks pkt * (pkt.coderate + 4) : Int) : ℚ) ≤
      8 * (fullBlocks pkt.size pkt.datarate + 1) := by exact_mod_cast hcoded
  have hfullQ : (-1 : ℚ) ≤ fullBlocks pkt.size pkt.datarate := by exact_mod_cast hfull
  have hestimate := (estimateAirtime_bounds pkt.size hsf hsf').2
  rw [timeOnAir_eq pkt hsf hsf', hsymbol]
  have hmargin : (1 : ℚ) ≤ (32 + 5 * fullBlocks pkt.size pkt.datarate -
      (113 / 4 + (blocks pkt * (pkt.coderate + 4) : Int)) / 2) * (2 ^ pkt.datarate / 250) := by
    have hsymbols : (12 : ℚ) ≤ 32 + 5 * fullBlocks pkt.size pkt.datarate -
        (113 / 4 + (blocks pkt * (pkt.coderate + 4) : Int)) / 2 := by linarith
    calc (1 : ℚ) ≤ 12 * (2 ^ pkt.datarate / 250) := by linarith
      _ ≤ _ := mul_le_mul_of_nonneg_right hsymbols (by positivity)
  linarith

/-- The blocks of the formula take at least the symbols the estimate counts for full blocks. -/
theorem coded_ge_full (hmod : Modulated pkt) :
    0 ≤ blocks pkt * (pkt.coderate + 4) ∧
      5 * fullBlocks pkt.size pkt.datarate ≤ blocks pkt * (pkt.coderate + 4) := by
  obtain ⟨hnonneg, hfull⟩ := le_blocks pkt hsf hsf'
  have hcr := hmod.coderate_pos
  have hcoded : blocks pkt * 5 ≤ blocks pkt * (pkt.coderate + 4) :=
    Int.mul_le_mul_of_nonneg_left (by omega) hnonneg
  exact ⟨by omega, by omega⟩

theorem estimate_short_125 (hmod : Modulated pkt) (hbw : pkt.bandwidth = BW_125KHZ) :
    (estimateAirtime pkt.size pkt.datarate : ℚ) < timeOnAir pkt := by
  have hsymbol : symbolMs pkt = 2 ^ pkt.datarate / 125 := by simp [symbolMs, hbw]; rfl
  obtain ⟨hnonneg, hfull⟩ := coded_ge_full hsf hsf' hmod
  have hnonnegQ : (0 : ℚ) ≤ (blocks pkt * (pkt.coderate + 4) : Int) := by exact_mod_cast hnonneg
  have hfullQ : 5 * (fullBlocks pkt.size pkt.datarate : ℚ) ≤
      (blocks pkt * (pkt.coderate + 4) : Int) := by exact_mod_cast hfull
  have hestimate := (estimateAirtime_bounds pkt.size hsf hsf').1
  rw [timeOnAir_eq pkt hsf hsf', hsymbol]
  calc (estimateAirtime pkt.size pkt.datarate : ℚ)
      ≤ (32 + 5 * fullBlocks pkt.size pkt.datarate) * (2 ^ pkt.datarate / 250) := hestimate
    _ < (2 * (113 / 4 + (blocks pkt * (pkt.coderate + 4) : Int))) * (2 ^ pkt.datarate / 250) :=
        mul_lt_mul_of_pos_right (by linarith) (by positivity)
    _ = (113 / 4 + (blocks pkt * (pkt.coderate + 4) : Int)) * (2 ^ pkt.datarate / 125) := by
        ring

/-- At 250 kHz symbols are counted one for one: an unfilled block is five symbols short. -/
theorem estimate_short_of_unfilled (hmod : Modulated pkt) (hbw : pkt.bandwidth = BW_250KHZ)
    (hunfilled : fullBlocks pkt.size pkt.datarate < blocks pkt) :
    (estimateAirtime pkt.size pkt.datarate : ℚ) < timeOnAir pkt := by
  have hsymbol : symbolMs pkt = 2 ^ pkt.datarate / 250 := by simp [symbolMs, hbw]; rfl
  have hcoded : 5 * (fullBlocks pkt.size pkt.datarate + 1) ≤ blocks pkt * (pkt.coderate + 4) := by
    obtain ⟨hnonneg, -⟩ := le_blocks pkt hsf hsf'
    have hcr := hmod.coderate_pos
    have hmul : blocks pkt * 5 ≤ blocks pkt * (pkt.coderate + 4) :=
      Int.mul_le_mul_of_nonneg_left (by omega) hnonneg
    omega
  have hcodedQ : 5 * ((fullBlocks pkt.size pkt.datarate : ℚ) + 1) ≤
      (blocks pkt * (pkt.coderate + 4) : Int) := by exact_mod_cast hcoded
  have hestimate := (estimateAirtime_bounds pkt.size hsf hsf').1
  rw [timeOnAir_eq pkt hsf hsf', hsymbol]
  refine lt_of_le_of_lt hestimate (mul_lt_mul_of_pos_right ?_ (by positivity))
  linarith

theorem unfilled_of_twelve (hbw : pkt.bandwidth = BW_250KHZ) (h12 : pkt.datarate = 12) :
    fullBlocks pkt.size pkt.datarate < blocks pkt := by
  have hbits : blockBits pkt = 40 := by
    unfold blockBits symbolMs
    rw [hbw, h12, if_pos]
    · norm_num
    · norm_num [halBandwidthKhz, BW_250KHZ, BW_125KHZ]
  have hceil := (ceil_div_bounds (codedBits pkt.size pkt.datarate) (d := 40) (by omega)).1
  have hblocks : codedBits pkt.size pkt.datarate ≤ blocks pkt * 40 := by
    unfold blocks
    rw [hbits]
    exact hceil
  obtain ⟨-, hle, -⟩ := fullBlocks_bounds pkt.size hsf hsf'
  have hnonneg := (le_blocks pkt hsf hsf').1
  have hcoded : codedBits pkt.size pkt.datarate = 8 * pkt.size - 4 := by
    unfold codedBits
    omega
  rw [h12] at hle hblocks hcoded ⊢
  omega

end

theorem blockBits_250 {pkt : HalPacket} (hsf : pkt.datarate ≤ 11)
    (hbw : pkt.bandwidth = BW_250KHZ) : blockBits pkt = 4 * pkt.datarate := by
  have hsymbol : symbolMs pkt = 2 ^ pkt.datarate / 250 := by simp [symbolMs, hbw]; rfl
  have hpow : (2 : ℚ) ^ pkt.datarate ≤ 2048 :=
    calc (2 : ℚ) ^ pkt.datarate ≤ 2 ^ 11 := pow_le_pow_right₀ (by norm_num) hsf
      _ = 2048 := by norm_num
  unfold blockBits
  rw [if_neg]
  rw [hsymbol]
  linarith

theorem fullBlocks_of_dvd {size sf : Nat} (hsf : 7 ≤ sf) (hdvd : sf ∣ 2 * size + 11) :
    fullBlocks size sf = (((2 * size + 11) / sf - 1 : Nat) : Int) := by
  obtain ⟨q, hq⟩ := hdvd
  have hpos : 0 < sf := by omega
  have hq1 : 1 ≤ q := by
    by_contra hzero
    have : q = 0 := by omega
    subst this
    omega
  have hbits : codedBits size sf = 4 * sf * ((q - 1 : Nat) : Int) := by
    have hcast : (2 * (size : Int) + 11) = sf * q := by exact_mod_cast hq
    unfold codedBits
    rw [Nat.cast_sub hq1]
    push_cast
    linarith
  rw [fullBlocks, hbits, Int.mul_ediv_cancel_left _ (by omega), hq, Nat.mul_div_cancel_left _ hpos]

/-- Filled blocks at 250 kHz: three symbols and three quarters are left for the coding rate. -/
theorem estimate_enough_filled {pkt : HalPacket} (hsf : 7 ≤ pkt.datarate)
    (hsf' : pkt.datarate ≤ 12) (hmod : Modulated pkt) (hbw : pkt.bandwidth = BW_250KHZ)
    (hdvd : pkt.datarate ∣ 2 * pkt.size + 11)
    (hblocks : blocks pkt = fullBlocks pkt.size pkt.datarate) :
    timeOnAir pkt ≤ estimateAirtime pkt.size pkt.datarate ↔
      (pkt.coderate - 1) * ((2 * pkt.size + 11) / pkt.datarate - 1) ≤ 3 := by
  have hfull := fullBlocks_of_dvd hsf hdvd
  set q : Nat := (2 * pkt.size + 11) / pkt.datarate - 1 with hq
  obtain ⟨r, hr⟩ : ∃ r, pkt.coderate = r + 1 := ⟨pkt.coderate - 1, by
    have := hmod.coderate_pos
    omega⟩
  have hrq : pkt.coderate - 1 = r := by omega
  have hsymbol : symbolMs pkt = 2 ^ pkt.datarate / 250 := by simp [symbolMs, hbw]; rfl
  obtain ⟨hupper, hlower⟩ := estimateAirtime_bounds pkt.size hsf hsf'
  obtain ⟨hS, -⟩ := symbol_bounds hsf hsf'
  -- the symbols of the estimate less those of the formula
  have hleft : (32 + 5 * fullBlocks pkt.size pkt.datarate : ℚ) * (2 ^ pkt.datarate / 250) -
      timeOnAir pkt = (15 / 4 - (r * q : Nat)) * (2 ^ pkt.datarate / 250) := by
    rw [timeOnAir_eq pkt hsf hsf', hsymbol, hblocks, hfull, hr]
    push_cast
    ring
  rw [hrq]
  constructor
  · intro hcovers
    by_contra hmany
    have hmanyQ : (4 : ℚ) ≤ (r * q : Nat) := by exact_mod_cast Nat.lt_of_not_le hmany
    have hneg : (15 / 4 - (r * q : Nat)) * ((2 : ℚ) ^ pkt.datarate / 250) < 0 :=
      mul_neg_of_neg_of_pos (by linarith) (by positivity)
    linarith
  · intro hfew
    by_cases hlong : 1 ≤ (15 / 4 - (r * q : Nat) : ℚ) * (2 ^ pkt.datarate / 250)
    · linarith
    · -- less than a millisecond is left: the frame has three blocks of a factor of 7
      have hodd : ¬ 2 ∣ 2 * pkt.size + 11 := by omega
      have hseven : pkt.datarate = 7 := by
        by_contra hne
        have hfactor : pkt.datarate ≠ 8 := by
          intro h8
          rw [h8] at hdvd
          exact hodd (dvd_trans (by decide) hdvd)
        have hnine : (512 : ℚ) ≤ 2 ^ pkt.datarate :=
          calc (512 : ℚ) = 2 ^ 9 := by norm_num
            _ ≤ 2 ^ pkt.datarate := pow_le_pow_right₀ (by norm_num) (by omega)
        have hfewQ : ((r * q : Nat) : ℚ) ≤ 3 := by exact_mod_cast hfew
        apply hlong
        calc (1 : ℚ) ≤ 3 / 4 * (2 ^ pkt.datarate / 250) := by linarith
          _ ≤ _ := mul_le_mul_of_nonneg_right (by linarith) (by positivity)
      have hsize : 2 * pkt.size + 11 = 7 * (q + 1) := by
        rw [hseven] at hdvd hq
        omega
      have htwo : 2 ≤ r * q := by
        by_contra hone
        have honeQ : ((r * q : Nat) : ℚ) ≤ 1 := by
          exact_mod_cast (by omega : r * q ≤ 1)
        apply hlong
        calc (1 : ℚ) ≤ 11 / 4 * (2 ^ pkt.datarate / 250) := by linarith
          _ ≤ _ := mul_le_mul_of_nonneg_right (by linarith) (by positivity)
      have hcoderate := hmod.coderate_le
      have hq2 : q = 2 ∧ r = 1 := by
        have hr3 : r ≤ 3 := by omega
        interval_cases r <;> omega
      have hsize5 : pkt.size = 5 := by omega
      have hestimate : estimateAirtime 5 7 = 21 := by decide +kernel
      rw [timeOnAir_eq pkt hsf hsf', hsymbol, hblocks, hfull, hr, hq2.1, hq2.2, hseven, hsize5,
        hestimate]
      norm_num

/-- **When the estimate is long enough.**  `TxService` never under-reports a frame at 500 kHz and
    always does at 125 kHz. At 250 kHz it does not exactly for the frames that fill their last
    block, with few enough blocks for their coding rate. -/
theorem estimate_covers_iff {F : Type} [RadioFloat F] (radio : Option (RadioConfig F))
    (txPowerDbm : Int) (frame : Bytes) {pkt : HalPacket}
    (hpkt : buildPacket radio txPowerDbm frame = some pkt) (hsf : 7 ≤ pkt.datarate)
    (hsf' : pkt.datarate ≤ 12) :
    timeOnAir pkt ≤ estimateAirtime pkt.size pkt.datarate ↔ Covered pkt := by
  have hmod := modulated_of_buildPacket hpkt
  rcases hmod.bandwidth with hbw | hbw | hbw
  · have hshort := estimate_short_125 hsf hsf' hmod hbw
    constructor
    · intro hcovers
      exact absurd hcovers (not_le.mpr hshort)
    · rintro (h | ⟨h, -⟩)
      · exact absurd (hbw.symm.trans h) (by decide)
      · exact absurd (hbw.symm.trans h) (by decide)
  · have hcovered : Covered pkt ↔ pkt.datarate ∣ 2 * pkt.size + 11 ∧
        (pkt.coderate - 1) * ((2 * pkt.size + 11) / pkt.datarate - 1) ≤ 3 := by
      unfold Covered
      rw [hbw]
      constructor
      · rintro (h | ⟨-, h⟩)
        · exact absurd h (by decide)
        · exact h
      · exact fun h => Or.inr ⟨rfl, h⟩
    rw [hcovered]
    by_cases hdvd : pkt.datarate ∣ 2 * pkt.size + 11
    · have heleven : pkt.datarate ≤ 11 := by
        by_contra h12
        have h12' : pkt.datarate = 12 := by omega
        rw [h12'] at hdvd
        omega
      have hbits := blockBits_250 heleven hbw
      have hblocks : blocks pkt = fullBlocks pkt.size pkt.datarate := by
        rw [blocks_of_not_optimised hsf hsf' hbits,
          if_pos ((dvd_codedBits_iff pkt.size).mpr hdvd)]
      rw [estimate_enough_filled hsf hsf' hmod hbw hdvd hblocks]
      exact ⟨fun h => ⟨hdvd, h⟩, fun h => h.2⟩
    · have hunfilled : fullBlocks pkt.size pkt.datarate < blocks pkt := by
        by_cases h12 : pkt.datarate = 12
        · exact unfilled_of_twelve hsf hsf' hbw h12
        · rw [blocks_of_not_optimised hsf hsf' (blockBits_250 (by omega) hbw),
            if_neg (mt (dvd_codedBits_iff pkt.size).mp hdvd)]
          omega
      constructor
      · intro hcovers
        exact absurd hcovers (not_le.mpr (estimate_short_of_unfilled hsf hsf' hmod hbw hunfilled))
      · intro h
        exact absurd h.1 hdvd
  · exact ⟨fun _ => Or.inl hbw, fun _ => estimate_enough_500 hsf hsf' hmod hbw⟩

/-- The US station as it is by default: LongFast at 4/5. -/
def longFast : RadioConfig ℚ := ⟨"US", 906875 / 1000, 11, 250, "4/5"⟩

/-- 11 bytes fill three blocks of a factor of 11. -/
theorem estimate_covers_elevenBytes :
    ∃ pkt, buildPacket (some longFast) 22 (List.replicate 11 0) = some pkt ∧
      (timeOnAir pkt ≤ estimateAirtime pkt.size pkt.datarate ↔ Covered pkt) :=
  ⟨⟨906875000, 22, 5, 11, 1, 11, List.replicate 11 0⟩, by decide +kernel,
    estimate_covers_iff (some longFast) 22 (List.replicate 11 0) (by decide +kernel) (by decide)
      (by decide)⟩

/-- A frame of 50 bytes at the default settings takes longer than the estimate says. -/
theorem not_estimate_covers_fiftyBytes :
    ¬ ∀ (radio : Option (RadioConfig ℚ)) (txPowerDbm : Int) (frame : Bytes) (pkt : HalPacket),
      frame.length ≤ 255 → buildPacket radio txPowerDbm frame = some pkt → 7 ≤ pkt.datarate →
      pkt.datarate ≤ 12 → timeOnAir pkt ≤ estimateAirtime pkt.size pkt.datarate := by
  intro h
  have hcovers := h (some longFast) 22 (List.replicate 50 0)
    ⟨906875000, 22, 5, 11, 1, 50, List.replicate 50 0⟩ (by decide) (by decide +kernel)
    (by decide) (by decide)
  exact absurd hcovers (by decide +kernel)

end Meshpoint.AirtimeEstimate
