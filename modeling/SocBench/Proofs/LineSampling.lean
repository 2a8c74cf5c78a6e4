import SocBench.Proofs.FrameWaveform
import SocBench.Uart.Receiver

/-!
# Where the receiver samples the line

The receiver counts edges in four states, with a different limit in each.  Counted from the edge
that found the line low, all this amounts to ten samples, half a bit and then whole bits later
(`Receiver.sampleEdge`), and nothing else on the line is looked at.  `Receiver.within` is the state
after any number of edges, for any waveform, as a function of the samples taken so far.

A sender that holds its bits for another number of edges is understood as long as every sample
falls into its own bit.  `Tolerates` is the condition on the two lengths for that; under it the
receiver follows a frame from its first edge to its last (`Receiver.step_during`).
-/

namespace SocBench

namespace Receiver

/-! ## The samples of a waveform -/

/-- The edge of a sample, counted from the edge that found the line low.  Sample 0 looks at the
start bit again, samples 1 to 8 are the bits of the byte, and sample 9 is the stop bit. -/
def sampleEdge (n k : ℕ) : ℕ :=
  n / 2 + k * n

/-- What the first `i` data samples of a waveform have gathered. -/
def gathered (n : ℕ) (s : ℕ → Bool) : ℕ → ℕ
  | 0 => 0
  | i + 1 => gathered n s i ||| ((s (sampleEdge n (i + 1))).toNat <<< i)

lemma testBit_gathered (n : ℕ) (s : ℕ → Bool) (i j : ℕ) :
    (gathered n s i).testBit j = (decide (j < i) && s (sampleEdge n (j + 1))) := by
  induction i with
  | zero => simp [gathered]
  | succ i ih =>
    rw [gathered, Nat.testBit_or, ih, Nat.testBit_shiftLeft, Nat.testBit_bool_toNat]
    rcases Nat.lt_trichotomy j i with hlt | rfl | hgt
    · simp [hlt, Nat.lt_succ_of_lt hlt, Nat.not_le.mpr hlt]
    · simp
    · have hne : ¬ j - i = 0 := by omega
      simp [Nat.not_lt.mpr hgt.le, Nat.not_lt.mpr (Nat.succ_le_of_lt hgt), hne]

lemma gathered_lt (n : ℕ) (s : ℕ → Bool) (i : ℕ) : gathered n s i < 2 ^ i := by
  refine Nat.lt_pow_two_of_testBit _ fun j hj => ?_
  rw [testBit_gathered, decide_eq_false (by omega), Bool.false_and]

/-- The receiver after `m` edges of a waveform, if a frame began at its first edge and has not come
to its end. -/
def within (n : ℕ) (s : ℕ → Bool) (m : ℕ) : Receiver :=
  if m = 0 then .idle
  else if m ≤ n / 2 then .start m
  else
    let past := m - (n / 2 + 1)
    if past / n < 8 then .data (past / n) (gathered n s (past / n)) (past % n + 1)
    else .stop (gathered n s 8) (past % n + 1)

variable {n : ℕ} {s : ℕ → Bool}

@[simp] lemma within_zero : within n s 0 = .idle :=
  rfl

lemma within_start {m : ℕ} (hpos : 0 < m) (hm : m ≤ n / 2) : within n s m = .start m := by
  rw [within, if_neg (by omega), if_pos hm]

lemma within_data {i c : ℕ} (hi : i < 8) (hc : c < n) :
    within n s (n / 2 + 1 + i * n + c) = .data i (gathered n s i) (c + 1) := by
  have hpast : n / 2 + 1 + i * n + c - (n / 2 + 1) = c + i * n := by omega
  have hdiv : (c + i * n) / n = i := by
    rw [Nat.add_mul_div_right _ _ (by omega), Nat.div_eq_of_lt hc, Nat.zero_add]
  have hmod : (c + i * n) % n = c := by
    rw [Nat.add_mul_mod_self_right, Nat.mod_eq_of_lt hc]
  rw [within, if_neg (by omega), if_neg (by omega)]
  simp only [hpast, hdiv, hmod, if_pos hi]

lemma within_stop {c : ℕ} (hc : c < n) :
    within n s (n / 2 + 1 + 8 * n + c) = .stop (gathered n s 8) (c + 1) := by
  have hpast : n / 2 + 1 + 8 * n + c - (n / 2 + 1) = c + 8 * n := by omega
  have hdiv : (c + 8 * n) / n = 8 := by
    rw [Nat.add_mul_div_right _ _ (by omega), Nat.div_eq_of_lt hc, Nat.zero_add]
  have hmod : (c + 8 * n) % n = c := by
    rw [Nat.add_mul_mod_self_right, Nat.mod_eq_of_lt hc]
  rw [within, if_neg (by omega), if_neg (by omega)]
  simp only [hpast, hdiv, hmod, lt_irrefl, if_false]

/-- Between two samples of the data the receiver only counts; at a sample it keeps the level. -/
lemma step_within_data {i c : ℕ} (hi : i < 8) (hc : c < n) :
    step n (within n s (n / 2 + 1 + i * n + c)) (s (n / 2 + 1 + i * n + c))
      = (within n s (n / 2 + 1 + i * n + c + 1), none) := by
  rw [within_data hi hc, step]
  rcases Nat.lt_or_ge (c + 1) n with hlt | hge
  · rw [if_neg (by omega), Nat.add_assoc _ c 1, within_data hi hlt]
  · -- the last edge of a bit: the level is kept, and the next bit or the stop bit follows
    have hedge : n / 2 + 1 + i * n + c = sampleEdge n (i + 1) := by
      rw [sampleEdge, Nat.succ_mul]
      omega
    have hnext : n / 2 + 1 + i * n + c + 1 = n / 2 + 1 + (i + 1) * n + 0 := by
      rw [Nat.succ_mul]
      omega
    have hkeep : gathered n s i ||| ((s (sampleEdge n (i + 1))).toNat <<< i)
        = gathered n s (i + 1) := rfl
    rw [if_pos hge, hnext, hedge]
    simp only [hkeep]
    rcases Nat.lt_or_ge (i + 1) 8 with hmore | hlast
    · rw [if_neg (by omega), within_data hmore (by omega)]
    · have hseven : i = 7 := by omega
      subst hseven
      rw [if_pos rfl, within_stop (by omega)]

/-- Up to the last sample, one edge of the waveform takes the receiver one edge further, and no
frame ends. -/
lemma step_within (hn : 2 ≤ n) (hlow : s 0 = false) {m : ℕ}
    (hstart : sampleEdge n 0 ≤ m → s (sampleEdge n 0) = false) (hm : m < sampleEdge n 9) :
    step n (within n s m) (s m) = (within n s (m + 1), none) := by
  have hhalf : sampleEdge n 0 = n / 2 := by simp [sampleEdge]
  rw [hhalf] at hstart
  rw [sampleEdge] at hm
  rcases Nat.eq_zero_or_pos m with rfl | hpos
  · rw [within_zero, step, hlow, within_start Nat.one_pos (by omega)]
    rfl
  rcases Nat.lt_trichotomy m (n / 2) with hlt | rfl | hgt
  · rw [within_start hpos hlt.le, step, if_neg (by omega), within_start (by omega) hlt]
  · have hnext : n / 2 + 1 = n / 2 + 1 + 0 * n + 0 := by omega
    rw [within_start hpos le_rfl, step, if_pos le_rfl, hstart le_rfl, hnext,
      within_data (by omega) (by omega)]
    rfl
  · -- past the start bit: `i` whole bits and `c` edges of the next one
    obtain ⟨i, c, hc, rfl⟩ : ∃ i c, c < n ∧ m = n / 2 + 1 + i * n + c := by
      refine ⟨(m - (n / 2 + 1)) / n, (m - (n / 2 + 1)) % n, Nat.mod_lt _ (by omega), ?_⟩
      have := Nat.div_add_mod' (m - (n / 2 + 1)) n
      omega
    have hi : i < 9 := by
      by_contra hge
      have : 9 * n ≤ i * n := Nat.mul_le_mul_right n (by omega)
      omega
    rcases Nat.lt_or_ge i 8 with hdata | hstop
    · exact step_within_data hdata hc
    · have height : i = 8 := by omega
      subst height
      rw [within_stop hc, step, if_neg (by omega), Nat.add_assoc _ c 1, within_stop (by omega)]

/-- At the last sample the frame ends, with the byte that was gathered and the level of the
sample. -/
lemma step_within_end (hn : 2 ≤ n) (rx : Bool) :
    step n (within n s (sampleEdge n 9)) rx
      = (.idle, some (UInt8.ofNat (gathered n s 8), rx)) := by
  have hedge : sampleEdge n 9 = n / 2 + 1 + 8 * n + (n - 1) := by
    rw [sampleEdge]
    omega
  rw [hedge, within_stop (by omega), step, if_pos (by omega)]

/-- A line that is high again when the start bit is looked at has shown no start bit. -/
lemma step_within_glitch (hn : 2 ≤ n) :
    step n (within n s (sampleEdge n 0)) true = (.idle, none) := by
  have hhalf : sampleEdge n 0 = n / 2 := by simp [sampleEdge]
  rw [hhalf, within_start (by omega) le_rfl, step, if_pos le_rfl]
  rfl

end Receiver

/-! ## Senders that are understood -/

/-- A receiver with bits of `n` edges understands a sender that holds its bits for `hold` edges.  A
slow sender must not fall behind by more than half a bit until the stop bit, and a fast one must not
have ended its stop bit before it is sampled. -/
def Tolerates (n hold : ℕ) : Prop :=
  (n ≤ hold ∧ 9 * (hold - n) ≤ n / 2) ∨ (hold < n ∧ n / 2 + 9 * n < 10 * hold)

instance (n hold : ℕ) : Decidable (Tolerates n hold) :=
  inferInstanceAs (Decidable (_ ∨ _))

namespace Tolerates

open Receiver

variable {n hold : ℕ}

/-- Every sample falls into its own bit of the frame. -/
lemma slot (h : Tolerates n hold) (hn : 2 ≤ n) {k : ℕ} (hk : k ≤ 9) :
    sampleEdge n k / hold = k := by
  have hbounds : k * hold ≤ sampleEdge n k ∧ sampleEdge n k < (k + 1) * hold := by
    rw [sampleEdge]
    -- the drift grows with every bit, so the condition on the stop bit covers the other samples
    rcases h with ⟨hle, htol⟩ | ⟨hlt, htol⟩
    · interval_cases k <;> omega
    · interval_cases k <;> omega
  exact Nat.div_eq_of_lt_le hbounds.1 hbounds.2

lemma hold_pos (h : Tolerates n hold) (hn : 2 ≤ n) : 0 < hold := by
  rcases h with ⟨hle, -⟩ | ⟨-, htol⟩ <;> omega

/-- The stop bit is sampled before its last edge is over. -/
lemma end_lt (h : Tolerates n hold) (hn : 2 ≤ n) : sampleEdge n 9 < 10 * hold := by
  rw [sampleEdge]
  rcases h with ⟨hle, -⟩ | ⟨-, htol⟩ <;> omega

lemma le_end (h : Tolerates n hold) : 9 * hold ≤ sampleEdge n 9 := by
  rw [sampleEdge]
  rcases h with ⟨hle, htol⟩ | ⟨hlt, -⟩ <;> omega

end Tolerates

/-! ## A frame from its first edge to its last -/

lemma frameLevel_start {hold m : ℕ} (byte : UInt8) (hm : m < hold) :
    frameLevel hold byte m = false := by
  rw [frameLevel, Nat.div_eq_of_lt hm, testBit_frameOf_start]

lemma frameLevel_stop {hold m : ℕ} (byte : UInt8) (hle : 9 * hold ≤ m) (hlt : m < 10 * hold) :
    frameLevel hold byte m = true := by
  have hslot : m / hold = 9 := Nat.div_eq_of_lt_le hle hlt
  rw [frameLevel, hslot, testBit_frameOf_stop]

namespace Receiver

variable {n hold : ℕ}

/-- The data samples of a frame that is understood are the bits of its byte. -/
lemma gathered_frame (htol : Tolerates n hold) (hn : 2 ≤ n) (byte : UInt8) :
    gathered n (frameLevel hold byte) 8 = byte.toNat := by
  refine Nat.eq_of_testBit_eq fun j => ?_
  rw [testBit_gathered]
  rcases Nat.lt_or_ge j 8 with hj | hj
  · rw [decide_eq_true hj, Bool.true_and, frameLevel, htol.slot hn (by omega),
      testBit_frameOf_data byte hj]
  · have hbig : byte.toNat < 2 ^ j :=
      Nat.lt_of_lt_of_le byte.toNat_lt (Nat.pow_le_pow_right (by norm_num) hj)
    rw [decide_eq_false (by omega), Bool.false_and, Nat.testBit_lt_two_pow hbig]

/-- The receiver after `m` edges of the frame of a byte. -/
def during (n hold : ℕ) (byte : UInt8) (m : ℕ) : Receiver :=
  if m ≤ sampleEdge n 9 then within n (frameLevel hold byte) m else .idle

@[simp] lemma during_zero (n hold : ℕ) (byte : UInt8) : during n hold byte 0 = .idle := by
  rw [during, if_pos (Nat.zero_le _), within_zero]

lemma during_end (htol : Tolerates n hold) (hn : 2 ≤ n) (byte : UInt8) :
    during n hold byte (10 * hold) = .idle := by
  have := htol.end_lt hn
  rw [during, if_neg (by omega)]

/-- One edge of a frame.  The byte comes out when the stop bit is sampled; until the line falls
again the receiver is idle. -/
lemma step_during (htol : Tolerates n hold) (hn : 2 ≤ n) (byte : UInt8) {m : ℕ}
    (hm : m < 10 * hold) :
    step n (during n hold byte m) (frameLevel hold byte m)
      = (during n hold byte (m + 1), if m = sampleEdge n 9 then some (byte, true) else none) := by
  have hpos := htol.hold_pos hn
  have hlow : frameLevel hold byte 0 = false := frameLevel_start byte hpos
  have hstart : frameLevel hold byte (sampleEdge n 0) = false := by
    rw [frameLevel, htol.slot hn (by omega), testBit_frameOf_start]
  rcases Nat.lt_trichotomy m (sampleEdge n 9) with hlt | rfl | hgt
  · rw [during, if_pos hlt.le, step_within hn hlow (fun _ => hstart) hlt, during, if_pos (by omega),
      if_neg (by omega)]
  · have hbyte : UInt8.ofNat (gathered n (frameLevel hold byte) 8) = byte := by
      rw [gathered_frame htol hn, UInt8.ofNat_toNat]
    rw [during, if_pos le_rfl, frameLevel_stop byte htol.le_end hm, step_within_end hn, hbyte,
      during, if_neg (by omega), if_pos rfl]
  · -- the rest of the stop bit finds the receiver idle
    have hhigh := frameLevel_stop byte (htol.le_end.trans hgt.le) hm
    rw [during, if_neg (by omega), hhigh, during, if_neg (by omega), if_neg (by omega)]
    rfl

end Receiver

end SocBench
