import SocBench.Proofs.SocEdges
import SocBench.Serial.BitPeriod

/-!
# Two ways to turn a line rate into clock edges

The bench and the system both divide the clock by the line rate, and not in the same way.  The
bench holds every bit for the rounded ratio (`bitHold`); the firmware takes the whole part
(`bitFloor`) and has only 16 bits for it.  So the two lengths of a bit differ by one edge when the
ratio is rounded up, and by any number of edges when it is too large.

Main result: for a ratio of at least two, the receiver tolerates the sender exactly for the rates in
`LosslessRates` (`tolerates_iff`).
-/

namespace SocBench

/-! ## Rounding a ratio -/

lemma roundHalfUp_eq_or (num : ℕ) {den : ℕ} (hden : 0 < den) :
    roundHalfUp num den = num / den ∨ roundHalfUp num den = num / den + 1 := by
  have hdiv := Nat.div_add_mod num den
  have hmod := Nat.mod_lt num hden
  have hsplit : 2 * num + den = 2 * (num % den) + den + 2 * den * (num / den) := by
    rw [Nat.mul_assoc]
    omega
  have hlt : (2 * (num % den) + den) / (2 * den) < 2 := Nat.div_lt_of_lt_mul (by omega)
  rw [roundHalfUp, hsplit, Nat.add_mul_div_left _ _ (by omega)]
  generalize (2 * (num % den) + den) / (2 * den) = carry at hlt ⊢
  omega

lemma roundHalfUp_le (num : ℕ) {den : ℕ} (hden : 0 < den) : roundHalfUp num den ≤ num := by
  have hmul : num ≤ den * num := Nat.le_mul_of_pos_left num hden
  have hsplit : 2 * den * (num + 1) = 2 * (den * num) + 2 * den := by ring
  refine Nat.lt_succ_iff.1 (Nat.div_lt_of_lt_mul ?_)
  rw [hsplit]
  omega

/-- A quotient that does not round to zero is at least one half. -/
lemma roundHalfUp_pos_iff (num : ℕ) {den : ℕ} (hden : 0 < den) :
    0 < roundHalfUp num den ↔ den ≤ 2 * num := by
  rw [roundHalfUp, Nat.div_pos_iff]
  omega

/-- The rounded quotient is the only number that is at most one half above the quotient and less
than one half below it. -/
lemma roundHalfUp_unique (num : ℕ) {den : ℕ} (hden : 0 < den) (q : ℤ) :
    ((2 * q - 1) * den ≤ 2 * num ∧ 2 * num < (2 * q + 1) * den) ↔ q = roundHalfUp num den := by
  obtain ⟨hlow, hhigh⟩ := roundHalfUp_bounds num den hden
  generalize roundHalfUp num den = p at hlow hhigh
  zify at hden hlow hhigh
  constructor
  · -- two numbers that both satisfy the bounds are less than one apart
    rintro ⟨hqlow, hqhigh⟩
    apply le_antisymm
    · by_contra hlt
      nlinarith
    · by_contra hlt
      nlinarith
  · rintro rfl
    constructor <;> linarith

lemma Frequency.hz_ne_zero_iff (f : Frequency) : f.hz ≠ 0 ↔ 0 < f.hz.toNat := by
  rw [ne_eq, ← UInt64.toNat_inj, Nat.pos_iff_ne_zero]
  rfl

/-- A rate that is not zero has a number of cycles, for the rounded ratio is never too large. -/
lemma Frequency.cyclesPer_eq (clock rate : Frequency) (hrate : 0 < rate.hz.toNat) :
    ∃ cycles : UInt64, clock.cyclesPer rate = some cycles
      ∧ cycles.toNat = roundHalfUp clock.hz.toNat rate.hz.toNat := by
  have hne : rate.hz ≠ 0 := rate.hz_ne_zero_iff.2 hrate
  have hfits : roundHalfUp clock.hz.toNat rate.hz.toNat < UInt64.size :=
    lt_of_le_of_lt (roundHalfUp_le _ hrate) clock.hz.toNat_lt
  refine ⟨.ofNat (roundHalfUp clock.hz.toNat rate.hz.toNat), ?_, ?_⟩
  · rw [cyclesPer, if_neg hne]
    exact if_pos hfits
  · rw [UInt64.toNat_ofNat', Nat.mod_eq_of_lt hfits]

lemma Frequency.cyclesPerFloor_eq (clock rate : Frequency) (hrate : 0 < rate.hz.toNat) :
    ∃ cycles : UInt64, clock.cyclesPerFloor rate = some cycles
      ∧ cycles.toNat = clock.hz.toNat / rate.hz.toNat := by
  have hne : rate.hz ≠ 0 := rate.hz_ne_zero_iff.2 hrate
  exact ⟨clock.hz / rate.hz, by rw [cyclesPerFloor, if_neg hne], UInt64.toNat_div _ _⟩

/-! ## The two lengths of a bit -/

/-- For how many edges a bench holds a bit: the ratio of clock and line rate, a half rounded up. -/
def bitHold (clock : Frequency) (baud : UInt32) : ℕ :=
  roundHalfUp clock.hz.toNat baud.toNat

/-- How many whole edges there are in a bit. -/
def bitFloor (clock : Frequency) (baud : UInt32) : ℕ :=
  clock.hz.toNat / baud.toNat

/-- The rates at which a bench and the reference system understand each other.  A ratio that is
rounded up must be at least 18, and 16 bits are enough for a ratio that is not much larger. -/
def LosslessRates (clock : Frequency) (baud : UInt32) : Prop :=
  2 ≤ bitFloor clock baud ∧ (bitHold clock baud = bitFloor clock baud ∨ 18 ≤ bitFloor clock baud)
    ∧ bitHold clock baud ≤ 69176

instance (clock : Frequency) (baud : UInt32) : Decidable (LosslessRates clock baud) :=
  inferInstanceAs (Decidable (_ ∧ _))

variable {clock : Frequency} {baud : UInt32}

lemma baud_ne_zero_iff : baud ≠ 0 ↔ 0 < baud.toNat := by
  rw [ne_eq, ← UInt32.toNat_inj, Nat.pos_iff_ne_zero]
  rfl

lemma baud_pos (h : 0 < bitFloor clock baud) : 0 < baud.toNat := by
  rcases Nat.eq_zero_or_pos baud.toNat with hzero | hpos
  · rw [bitFloor, hzero, Nat.div_zero] at h
    omega
  · exact hpos

/-- Rounding moves the ratio by at most one. -/
lemma bitHold_eq_or (clock : Frequency) (hbaud : 0 < baud.toNat) :
    bitHold clock baud = bitFloor clock baud ∨ bitHold clock baud = bitFloor clock baud + 1 :=
  roundHalfUp_eq_or _ hbaud

lemma bitHold_pos_iff (hbaud : 0 < baud.toNat) :
    0 < bitHold clock baud ↔ baud.toNat ≤ 2 * clock.hz.toNat :=
  roundHalfUp_pos_iff _ hbaud

/-- The cycles of a bit, as far as the line rate is not zero. -/
lemma cyclesPer_baud (clock : Frequency) (hbaud : 0 < baud.toNat) :
    ∃ cycles : UInt64, clock.cyclesPer ⟨baud.toUInt64⟩ = some cycles
      ∧ cycles.toNat = bitHold clock baud := by
  have hrate : baud.toUInt64.toNat = baud.toNat := UInt32.toNat_toUInt64 baud
  obtain ⟨cycles, hcycles, htoNat⟩ :=
    clock.cyclesPer_eq ⟨baud.toUInt64⟩ (hbaud.trans_eq hrate.symm)
  exact ⟨cycles, hcycles, by rw [htoNat, bitHold, hrate]⟩

/-- The bench has a bit period for every rate whose ratio does not round to zero. -/
lemma ofRates_eq (hbaud : 0 < baud.toNat) (hpos : 0 < bitHold clock baud) :
    BitPeriod.ofRates clock baud = .ok ⟨bitHold clock baud, hpos⟩ := by
  obtain ⟨cycles, hcycles, htoNat⟩ := cyclesPer_baud clock hbaud
  simp only [BitPeriod.ofRates, hcycles, Option.bind_some, htoNat, BitPeriod.ofEdges?, dif_pos hpos]

/-- At other rates there is no bit period, and the error says which rates these were. -/
lemma ofRates_eq_error (h : ¬ (0 < baud.toNat ∧ 0 < bitHold clock baud)) :
    BitPeriod.ofRates clock baud = .error (.invalidBitPeriod clock.hz.toNat baud.toNat) := by
  rcases Nat.eq_zero_or_pos baud.toNat with hzero | hbaud
  · have hrate : baud = 0 := UInt32.toNat_inj.1 hzero
    subst hrate
    rfl
  · obtain ⟨cycles, hcycles, htoNat⟩ := cyclesPer_baud clock hbaud
    have hnone : BitPeriod.ofEdges? cycles.toNat = none := by
      rw [BitPeriod.ofEdges?, dif_neg]
      rw [htoNat]
      exact fun hpos => h ⟨hbaud, hpos⟩
    rw [BitPeriod.ofRates, hcycles, Option.bind_some, hnone]

/-- A bit period comes from a line rate that is not zero, and it is the rounded ratio. -/
lemma edges_of_ofRates {period : BitPeriod} (h : BitPeriod.ofRates clock baud = .ok period) :
    0 < baud.toNat ∧ period.edges = bitHold clock baud := by
  by_cases hrates : 0 < baud.toNat ∧ 0 < bitHold clock baud
  · rw [ofRates_eq hrates.1 hrates.2] at h
    cases h
    exact ⟨hrates.1, rfl⟩
  · rw [ofRates_eq_error hrates] at h
    cases h

/-- There is a bit period just for the line rates that are not zero and at most twice the clock. -/
lemma exists_ofRates_iff :
    (∃ period, BitPeriod.ofRates clock baud = .ok period)
      ↔ 1 ≤ baud.toNat ∧ baud.toNat ≤ 2 * clock.hz.toNat := by
  constructor
  · rintro ⟨period, hperiod⟩
    obtain ⟨hbaud, hedges⟩ := edges_of_ofRates hperiod
    exact ⟨hbaud, (bitHold_pos_iff hbaud).1 (hedges ▸ period.pos)⟩
  · rintro ⟨hbaud, hrates⟩
    exact ⟨_, ofRates_eq hbaud ((bitHold_pos_iff hbaud).2 hrates)⟩

/-- The firmware programs the whole part, less one, as far as 16 bits go. -/
lemma divisorFor_eq (settings : SocSettings) :
    Soc.divisorFor settings = min (bitFloor settings.clock settings.baud - 1) 65535 := by
  have hrate : settings.baud.toUInt64.toNat = settings.baud.toNat :=
    UInt32.toNat_toUInt64 settings.baud
  have hcycles : (settings.clock.cyclesPerFloor ⟨settings.baud.toUInt64⟩).elim 0 UInt64.toNat
      = bitFloor settings.clock settings.baud := by
    rw [Frequency.cyclesPerFloor, bitFloor]
    split
    case isTrue hzero =>
      rw [← hrate, show settings.baud.toUInt64 = 0 from hzero]
      simp
    case isFalse => rw [Option.elim_some, UInt64.toNat_div, hrate]
  rw [Soc.divisorFor, Soc.bootDivisor]
  exact congrArg (min (· - 1) 65535) hcycles

/-- With bits of at least two edges, the receiver tolerates the bench at the lossless rates and at
no others. -/
lemma tolerates_iff (settings : SocSettings) (hfloor : 2 ≤ bitFloor settings.clock settings.baud) :
    Tolerates (Soc.divisorFor settings + 1) (bitHold settings.clock settings.baud)
      ↔ LosslessRates settings.clock settings.baud := by
  have hbaud : 0 < settings.baud.toNat := baud_pos (Nat.lt_of_lt_of_le two_pos hfloor)
  have hhold := bitHold_eq_or settings.clock hbaud
  -- the bits of the two differ by at most one edge, unless the divisor is cut off at 16 bits
  rw [divisorFor_eq, LosslessRates, Tolerates]
  omega

/-- At a lossless rate the firmware programs a divisor. -/
lemma LosslessRates.divisor_pos {settings : SocSettings}
    (h : LosslessRates settings.clock settings.baud) : 1 ≤ Soc.divisorFor settings := by
  have hfloor := h.1
  rw [divisorFor_eq]
  omega

/-- At a lossless rate the bench has a bit period. -/
lemma LosslessRates.period_eq (h : LosslessRates clock baud) {period : BitPeriod}
    (hperiod : BitPeriod.ofRates clock baud = .ok period) : period.edges = bitHold clock baud := by
  have hbaud : 0 < baud.toNat := baud_pos (Nat.lt_of_lt_of_le two_pos h.1)
  have hpos : 0 < bitHold clock baud := by
    have hfloor := h.1
    have hhold := bitHold_eq_or clock hbaud
    omega
  rw [ofRates_eq hbaud hpos] at hperiod
  cases hperiod
  rfl

end SocBench
