import Mathlib.Tactic
import SocBench.Serial.Encoder

/-!
# The waveform of the frame encoder

A frame is ten levels, each of them held for a bit period.  `frameWave` writes them down tick by
tick, and the generator of this file plays them back: it keeps the levels of the frame on the line
that are still to come, and takes the next byte off the queue only when there are none left.  The
encoder has no such list; it counts bits, and ticks within a bit.

The main result is that the two cannot be told apart.  However pushes and ticks are interleaved,
the encoder puts out the levels of the generator and takes the same bytes at the same ticks
(`EncoderRun.levels_eq_generator`).  What carries the proof is `FrameEncoder.Sent`: the state of an
encoder that has put out the first ticks of a frame, with both counters given by one number.
-/

namespace SocBench

/-! ## The levels of a frame -/

/-- The levels of the frame of a byte, tick by tick: a low start bit, the bits of the byte from the
lowest on, and a high stop bit, each held for `period` ticks. -/
def frameWave (period : ℕ) (byte : UInt8) : List Bool :=
  List.replicate period false
    ++ (List.range 8).flatMap (fun i => List.replicate period (byte.toNat.testBit i))
    ++ List.replicate period true

/-- The level at one tick of the frame of a byte. -/
def frameLevel (period : ℕ) (byte : UInt8) (tick : ℕ) : Bool :=
  (frameOf byte).testBit (tick / period)

lemma frameOf_eq (byte : UInt8) : frameOf byte = 2 * (2 ^ 8 + byte.toNat) := by
  unfold frameOf
  omega

lemma testBit_frameOf_start (byte : UInt8) : (frameOf byte).testBit 0 = false := by
  rw [frameOf_eq, Nat.testBit_zero]
  simp

lemma testBit_frameOf_data (byte : UInt8) {i : ℕ} (hi : i < 8) :
    (frameOf byte).testBit (i + 1) = byte.toNat.testBit i := by
  rw [frameOf_eq, Nat.testBit_succ, Nat.mul_div_cancel_left _ (by norm_num),
    Nat.testBit_two_pow_add_gt hi]

lemma testBit_frameOf_stop (byte : UInt8) : (frameOf byte).testBit 9 = true := by
  have hlow : byte.toNat.testBit 8 = false := Nat.testBit_lt_two_pow byte.toNat_lt
  rw [frameOf_eq, Nat.testBit_succ, Nat.mul_div_cancel_left _ (by norm_num),
    Nat.testBit_two_pow_add_eq, hlow]
  rfl

lemma frameOf_lt (byte : UInt8) : frameOf byte < 1024 := by
  have := byte.toNat_lt
  unfold frameOf
  omega

/-- Values that are each held for `period` ticks, read tick by tick. -/
lemma flatMap_replicate_eq_map (period : ℕ) (f : ℕ → Bool) (k : ℕ) :
    (List.range k).flatMap (fun i => List.replicate period (f i))
      = (List.range (k * period)).map (fun m => f (m / period)) := by
  induction k with
  | zero => simp
  | succ k ih =>
    rw [List.range_succ, List.flatMap_append, ih, Nat.succ_mul, List.range_add,
      List.map_append, List.map_map]
    congr 1
    -- what is left is the last block, and all its ticks belong to value `k`
    simp only [List.flatMap_cons, List.flatMap_nil, List.append_nil]
    refine (List.eq_replicate_iff.mpr ⟨by simp, ?_⟩).symm
    intro x hx
    obtain ⟨m, hm, rfl⟩ := List.mem_map.mp hx
    have hlt : m < period := List.mem_range.mp hm
    have hslot : (k * period + m) / period = k := by
      rw [Nat.add_comm, Nat.add_mul_div_right _ _ (by omega), Nat.div_eq_of_lt hlt]
      omega
    simp only [Function.comp_apply, hslot]

lemma frameWave_eq_map (period : ℕ) (byte : UInt8) :
    frameWave period byte = (List.range (10 * period)).map (frameLevel period byte) := by
  have hten := flatMap_replicate_eq_map period (fun i => (frameOf byte).testBit i) 10
  have hdata : (List.range 8).flatMap (fun i => List.replicate period (byte.toNat.testBit i))
      = (List.range 8).flatMap
          (fun i => List.replicate period ((frameOf byte).testBit (i + 1))) := by
    refine List.flatMap_congr fun i hi => ?_
    rw [testBit_frameOf_data byte (List.mem_range.mp hi)]
  have hbits : List.range 10 = 0 :: ((List.range 8).map (· + 1) ++ [9]) := by decide
  unfold frameLevel
  rw [← hten, hbits, frameWave, hdata]
  simp only [List.flatMap_cons, List.flatMap_append, List.flatMap_map, List.flatMap_nil,
    testBit_frameOf_start, testBit_frameOf_stop, List.append_nil, List.append_assoc]

@[simp] lemma length_frameWave (period : ℕ) (byte : UInt8) :
    (frameWave period byte).length = 10 * period := by
  simp [frameWave_eq_map]

lemma drop_frameWave {period m : ℕ} (byte : UInt8) (hm : m < 10 * period) :
    (frameWave period byte).drop m
      = frameLevel period byte m :: (frameWave period byte).drop (m + 1) := by
  rw [List.drop_eq_getElem_cons (by simpa using hm)]
  congr 1
  simp [frameWave_eq_map]

lemma frameLevel_last {period : ℕ} (byte : UInt8) (hpos : 0 < period) :
    frameLevel period byte (10 * period - 1) = true := by
  have hslot : (10 * period - 1) / period = 9 := by
    rw [Nat.div_eq_iff hpos]
    omega
  rw [frameLevel, hslot, testBit_frameOf_stop]

/-- One tick later: either the bit goes on, or the next bit begins. -/
lemma succ_div_mod (m : ℕ) {period : ℕ} (hpos : 0 < period) :
    (m % period + 1 < period ∧ (m + 1) / period = m / period
        ∧ (m + 1) % period = m % period + 1) ∨
      (m % period + 1 = period ∧ (m + 1) / period = m / period + 1 ∧ (m + 1) % period = 0) := by
  have hsplit := Nat.mod_add_div m period
  rcases Nat.lt_or_ge (m % period + 1) period with hlt | hge
  · left
    have h := (Nat.div_mod_unique (a := m + 1) (d := m / period) (c := m % period + 1) hpos).mpr
      ⟨by omega, hlt⟩
    exact ⟨hlt, h.1, h.2⟩
  · right
    have hlt : m % period < period := Nat.mod_lt m hpos
    have h := (Nat.div_mod_unique (a := m + 1) (d := m / period + 1) (c := 0) hpos).mpr
      ⟨by rw [Nat.mul_add]; omega, hpos⟩
    exact ⟨by omega, h.1, h.2⟩

/-! ## The encoder in the middle of a frame -/

/-- The state of an encoder that has put out `m` ticks of the frame of a byte. -/
def frameState (period : ℕ) (byte : UInt8) (m : ℕ) : FrameState :=
  if m < 10 * period then .sending (frameOf byte) (m / period) (m % period) else .idle

lemma frameState_of_lt {period m : ℕ} (byte : UInt8) (hm : m < 10 * period) :
    frameState period byte m = .sending (frameOf byte) (m / period) (m % period) := by
  rw [frameState, if_pos hm]

lemma frameState_of_le {period m : ℕ} (byte : UInt8) (hm : 10 * period ≤ m) :
    frameState period byte m = .idle := by
  rw [frameState, if_neg (by omega)]

namespace FrameEncoder

variable {e : FrameEncoder}

lemma shift_hold {frame bit tick : ℕ} (hs : e.state = .sending frame bit tick)
    (ht : tick + 1 < e.period.edges) :
    e.shift = { e with
      state := .sending frame bit (tick + 1)
      level := if tick = 0 then frame.testBit bit else e.level } := by
  simp only [shift, hs, if_pos ht]

lemma shift_next {frame bit tick : ℕ} (hs : e.state = .sending frame bit tick)
    (ht : ¬ tick + 1 < e.period.edges) (hb : bit + 1 < frameBits) :
    e.shift = { e with
      state := .sending frame (bit + 1) 0
      level := if tick = 0 then frame.testBit bit else e.level } := by
  simp only [shift, hs, if_neg ht, if_pos hb]

lemma shift_done {frame bit tick : ℕ} (hs : e.state = .sending frame bit tick)
    (ht : ¬ tick + 1 < e.period.edges) (hb : ¬ bit + 1 < frameBits) :
    e.shift = { e with state := .idle, level := true, completed := e.completed + 1 } := by
  simp only [shift, hs, if_neg ht, if_neg hb]

/-- The encoder has put out the first `m` ticks of the frame of a byte, and the line still shows the
last of them. -/
structure Sent (e : FrameEncoder) (byte : UInt8) (m : ℕ) : Prop where
  state : e.state = frameState e.period.edges byte m
  level : 0 < m → e.level = frameLevel e.period.edges byte (m - 1)

variable {byte : UInt8} {m : ℕ}

/-- The level is only set on the first tick of a bit, but it is right on all of them. -/
lemma Sent.next_level (h : e.Sent byte m) :
    (if m % e.period.edges = 0 then (frameOf byte).testBit (m / e.period.edges) else e.level)
      = frameLevel e.period.edges byte m := by
  rcases Nat.eq_zero_or_pos (m % e.period.edges) with hz | hpos
  · rw [if_pos hz, frameLevel]
  · have hm : 0 < m := by
      rcases Nat.eq_zero_or_pos m with rfl | hm
      · simp at hpos
      · exact hm
    -- not the first tick of its bit, so the tick before belongs to the same bit
    rw [if_neg (by omega), h.level hm, frameLevel, frameLevel]
    rcases succ_div_mod (m - 1) e.period.pos with ⟨-, hdiv, -⟩ | ⟨-, -, hmod⟩
    · rw [Nat.sub_add_cancel hm] at hdiv
      rw [hdiv]
    · rw [Nat.sub_add_cancel hm] at hmod
      omega

/-- One more tick of a frame. -/
lemma Sent.shift (h : e.Sent byte m) (hm : m < 10 * e.period.edges) :
    e.shift.Sent byte (m + 1) ∧ e.shift.period = e.period ∧ e.shift.started = e.started
      ∧ e.shift.completed
          = if m + 1 < 10 * e.period.edges then e.completed else e.completed + 1 := by
  have hstate := h.state
  rw [frameState_of_lt byte hm] at hstate
  have hbit : m / e.period.edges < 10 := Nat.div_lt_of_lt_mul (by rwa [Nat.mul_comm])
  have hsplit := Nat.mod_add_div (m + 1) e.period.edges
  rcases succ_div_mod m e.period.pos with ⟨hlt, hdiv, hmod⟩ | ⟨heq, hdiv, hmod⟩
  · -- the bit goes on
    have hm' : m + 1 < 10 * e.period.edges := by
      have : e.period.edges * (m / e.period.edges) ≤ e.period.edges * 9 :=
        Nat.mul_le_mul_left _ (by omega)
      rw [hdiv, hmod] at hsplit
      omega
    rw [shift_hold hstate hlt, h.next_level]
    refine ⟨⟨?_, fun _ => rfl⟩, rfl, rfl, by rw [if_pos hm']⟩
    rw [frameState_of_lt byte hm', hdiv, hmod]
  · rcases Nat.lt_or_ge (m / e.period.edges + 1) 10 with hnext | hlast
    · -- the next bit begins
      have hm' : m + 1 < 10 * e.period.edges := by
        have : e.period.edges * (m / e.period.edges + 1) ≤ e.period.edges * 9 :=
          Nat.mul_le_mul_left _ (by omega)
        have hpos := e.period.pos
        rw [hdiv, hmod] at hsplit
        omega
      rw [shift_next hstate (by omega) hnext, h.next_level]
      refine ⟨⟨?_, fun _ => rfl⟩, rfl, rfl, by rw [if_pos hm']⟩
      rw [frameState_of_lt byte hm', hdiv, hmod]
    · -- the stop bit ends
      have hend : m + 1 = 10 * e.period.edges := by
        have hnine : m / e.period.edges = 9 := by omega
        rw [hdiv, hmod, hnine] at hsplit
        omega
      rw [shift_done hstate (by omega) (by unfold frameBits; omega)]
      refine ⟨⟨?_, fun _ => ?_⟩, rfl, rfl, by rw [if_neg (by omega)]⟩
      · rw [hend, frameState_of_le byte le_rfl]
      · simp only [hend, frameLevel_last byte e.period.pos]

/-! ## One tick fed from a queue -/

variable {q : ByteQueue}

/-- In the middle of a frame the queue is left alone. -/
lemma Sent.tickFrom (h : e.Sent byte m) (hm : m < 10 * e.period.edges) (q : ByteQueue) :
    e.tickFrom q = (e.shift, q) := by
  have hstate := h.state
  rw [frameState_of_lt byte hm] at hstate
  have hbusy : e.isIdle = false := by simp [isIdle, hstate]
  simp [FrameEncoder.tickFrom_eq, hbusy, FrameEncoder.tick, FrameEncoder.load, hstate]

/-- Between frames nothing happens while the queue is empty. -/
lemma tickFrom_of_empty (hs : e.state = .idle) (hq : q.contents = []) : e.tickFrom q = (e, q) := by
  simp [tickFrom_eq, isIdle, hs, ByteQueue.pop, hq, tick, load, shift]

/-- Between frames the first byte of the queue is taken, and its frame begins at once. -/
lemma tickFrom_of_cons {rest : List UInt8} (hs : e.state = .idle)
    (hq : q.contents = byte :: rest) :
    ∃ e' : FrameEncoder, e.tickFrom q = (e', { q with contents := rest }) ∧ e'.Sent byte 1
      ∧ e'.period = e.period ∧ e'.started = e.started + 1 ∧ e'.completed = e.completed := by
  have hpos := e.period.pos
  let loaded : FrameEncoder :=
    { e with state := .sending (frameOf byte) 0 0, started := e.started + 1 }
  have hloaded : loaded.Sent byte 0 := by
    refine ⟨?_, fun h => absurd h (by omega)⟩
    rw [frameState_of_lt byte (by show 0 < 10 * e.period.edges; omega)]
    simp [loaded]
  obtain ⟨hsent, hperiod, hstarted, hcompleted⟩ :=
    hloaded.shift (by show 0 < 10 * e.period.edges; omega)
  refine ⟨loaded.shift, ?_, hsent, hperiod, hstarted, ?_⟩
  · simp [tickFrom_eq, isIdle, hs, ByteQueue.pop, hq, tick, load, loaded]
  · rw [hcompleted, if_pos (by show 0 + 1 < 10 * e.period.edges; omega)]

end FrameEncoder

/-! ## Pushes and ticks in any order -/

/-- What can happen to an encoder and the queue that feeds it. -/
inductive LineEvent where
  | push (byte : UInt8)
  | tick

/-- An encoder and its queue, with the levels that the ticks put out so far and the bytes that they
took off the queue. -/
structure EncoderRun where
  encoder : FrameEncoder
  queue : ByteQueue
  levels : List Bool := []
  taken : List UInt8 := []

namespace EncoderRun

/-- A new encoder in front of a queue. -/
def start (period : BitPeriod) (queue : ByteQueue) : EncoderRun :=
  { encoder := { period }, queue }

/-- One event.  What a tick took is read off the queue alone. -/
def step (r : EncoderRun) : LineEvent → EncoderRun
  | .push byte => { r with queue := r.queue.pushAll [byte] }
  | .tick =>
    let (encoder, queue) := r.encoder.tickFrom r.queue
    { encoder, queue
      levels := r.levels ++ [encoder.level]
      taken := r.taken ++ r.queue.contents.take (r.queue.size - queue.size) }

/-- Events in order. -/
def run (r : EncoderRun) (events : List LineEvent) : EncoderRun :=
  events.foldl step r

end EncoderRun

/-- The reference for an encoder: the levels of the frame on the line that are still to come, and
the queue, with what was put out and taken so far. -/
structure Generator where
  left : List Bool := []
  queue : ByteQueue
  levels : List Bool := []
  taken : List UInt8 := []

namespace Generator

/-- One event.  A tick plays the next level.  When none is left it takes the next byte and begins
with its levels, and without a byte the line is high. -/
def step (period : BitPeriod) (g : Generator) : LineEvent → Generator
  | .push byte => { g with queue := g.queue.pushAll [byte] }
  | .tick =>
    match g.left, g.queue.contents with
    | level :: left, _ => { g with left, levels := g.levels ++ [level] }
    | [], byte :: rest =>
      { left := (frameWave period.edges byte).drop 1
        queue := { g.queue with contents := rest }
        levels := g.levels ++ (frameWave period.edges byte).take 1
        taken := g.taken ++ [byte] }
    | [], [] => { g with levels := g.levels ++ [true] }

/-- Events in order. -/
def run (period : BitPeriod) (g : Generator) (events : List LineEvent) : Generator :=
  events.foldl (step period) g

end Generator

/-! ## The encoder follows the generator -/

/-- Both stand between two frames. -/
def AtRest (r : EncoderRun) (g : Generator) : Prop :=
  r.encoder.state = .idle ∧ r.encoder.level = true ∧ g.left = []
    ∧ r.encoder.started = r.encoder.completed

/-- Both have put out the first `m` ticks of the frame of a byte, and not all of them. -/
def InFrame (r : EncoderRun) (g : Generator) (byte : UInt8) (m : ℕ) : Prop :=
  0 < m ∧ m < 10 * r.encoder.period.edges ∧ r.encoder.Sent byte m
    ∧ g.left = (frameWave r.encoder.period.edges byte).drop m
    ∧ r.encoder.started = r.encoder.completed + 1

/-- The encoder and the generator have done the same so far and stand at the same place. -/
structure Follows (period : BitPeriod) (r : EncoderRun) (g : Generator) : Prop where
  period_eq : r.encoder.period = period
  queue_eq : r.queue = g.queue
  levels_eq : r.levels = g.levels
  taken_eq : r.taken = g.taken
  started_eq : r.encoder.started = r.taken.length
  place : AtRest r g ∨ ∃ byte m, InFrame r g byte m

variable {period : BitPeriod} {r : EncoderRun} {g : Generator}

lemma follows_start (period : BitPeriod) (queue : ByteQueue) :
    Follows period (EncoderRun.start period queue) { queue } :=
  ⟨rfl, rfl, rfl, rfl, rfl, Or.inl ⟨rfl, rfl, rfl, rfl⟩⟩

/-- After a tick of a frame the two are still in it, or have both left it. -/
lemma place_of_sent {byte : UInt8} {m : ℕ} (hsent : r.encoder.Sent byte m) (hpos : 0 < m)
    (hle : m ≤ 10 * r.encoder.period.edges)
    (hleft : g.left = (frameWave r.encoder.period.edges byte).drop m)
    (hcount : r.encoder.started
      = r.encoder.completed + if m < 10 * r.encoder.period.edges then 1 else 0) :
    AtRest r g ∨ ∃ byte m, InFrame r g byte m := by
  rcases Nat.lt_or_ge m (10 * r.encoder.period.edges) with hlt | hge
  · rw [if_pos hlt] at hcount
    exact Or.inr ⟨byte, m, hpos, hlt, hsent, hleft, hcount⟩
  · have hend : m = 10 * r.encoder.period.edges := by omega
    rw [if_neg (by omega)] at hcount
    refine Or.inl ⟨?_, ?_, ?_, hcount⟩
    · rw [hsent.state, frameState_of_le byte hge]
    · rw [hsent.level hpos, hend, frameLevel_last byte r.encoder.period.pos]
    · rw [hleft, List.drop_eq_nil_iff, length_frameWave]
      exact hge

lemma Follows.push (h : Follows period r g) (byte : UInt8) :
    Follows period (r.step (.push byte)) (g.step period (.push byte)) := by
  obtain ⟨hperiod, hqueue, hlevels, htaken, hstarted, hplace⟩ := h
  refine ⟨hperiod, ?_, hlevels, htaken, hstarted, hplace⟩
  simp only [EncoderRun.step, Generator.step, hqueue]

/-- A tick in the middle of a frame. -/
lemma Follows.tick_inFrame (h : Follows period r g) {byte : UInt8} {m : ℕ}
    (hin : InFrame r g byte m) : Follows period (r.step .tick) (g.step period .tick) := by
  obtain ⟨hperiod, hqueue, hlevels, htaken, hstarted, -⟩ := h
  obtain ⟨hpos, hlt, hsent, hleft, hcount⟩ := hin
  obtain ⟨hsent', hperiod', hstarted', hcompleted'⟩ := hsent.shift hlt
  have hlevel : r.encoder.shift.level = frameLevel r.encoder.period.edges byte m := by
    rw [hsent'.level (by omega), hperiod', Nat.add_sub_cancel]
  have hr : r.step .tick = { r with
      encoder := r.encoder.shift, levels := r.levels ++ [r.encoder.shift.level] } := by
    simp [EncoderRun.step, hsent.tickFrom hlt r.queue]
  have hg : g.step period .tick = { g with
      left := (frameWave r.encoder.period.edges byte).drop (m + 1)
      levels := g.levels ++ [frameLevel r.encoder.period.edges byte m] } := by
    rw [drop_frameWave byte hlt] at hleft
    simp [Generator.step, hleft]
  rw [hr, hg]
  refine ⟨hperiod'.trans hperiod, hqueue, by simp [hlevels, hlevel], htaken,
    hstarted'.trans hstarted, ?_⟩
  refine place_of_sent hsent' (by omega) ?_ ?_ ?_
  · simpa [hperiod'] using hlt
  · simp [hperiod']
  · simp only [hstarted', hcompleted', hperiod', hcount]
    split <;> rfl

/-- A tick between two frames. -/
lemma Follows.tick_atRest (h : Follows period r g) (hrest : AtRest r g) :
    Follows period (r.step .tick) (g.step period .tick) := by
  obtain ⟨hperiod, hqueue, hlevels, htaken, hstarted, -⟩ := h
  obtain ⟨hstate, hlevel, hleft, hcount⟩ := hrest
  -- an empty queue leaves both where they are, and otherwise both begin the same frame
  rcases hq : r.queue.contents with _ | ⟨byte, rest⟩
  · have hr : r.step .tick = { r with levels := r.levels ++ [true] } := by
      simp [EncoderRun.step, FrameEncoder.tickFrom_of_empty hstate hq, hlevel]
    have hg : g.step period .tick = { g with levels := g.levels ++ [true] } := by
      rw [hqueue] at hq
      simp [Generator.step, hleft, hq]
    rw [hr, hg]
    exact ⟨hperiod, hqueue, by simp [hlevels], htaken, hstarted,
      Or.inl ⟨hstate, hlevel, hleft, hcount⟩⟩
  · obtain ⟨e', htick, hsent, hperiod', hstarted', hcompleted'⟩ :=
      FrameEncoder.tickFrom_of_cons hstate hq
    have hedges : e'.period.edges = period.edges := by rw [hperiod', hperiod]
    have hpos := period.pos
    have hr : r.step .tick = {
        encoder := e'
        queue := { r.queue with contents := rest }
        levels := r.levels ++ [e'.level]
        taken := r.taken ++ [byte] } := by
      simp [EncoderRun.step, htick, ByteQueue.size, hq]
    have hg : g.step period .tick = {
        left := (frameWave period.edges byte).drop 1
        queue := { g.queue with contents := rest }
        levels := g.levels ++ [frameLevel period.edges byte 0]
        taken := g.taken ++ [byte] } := by
      have hhead := drop_frameWave byte (by omega : 0 < 10 * period.edges)
      rw [List.drop_zero] at hhead
      rw [hqueue] at hq
      simp only [Generator.step, hleft, hq]
      rw [hhead]
      simp
    rw [hr, hg]
    refine ⟨hperiod'.trans hperiod, by simp [hqueue], ?_, by simp [htaken], ?_, ?_⟩
    · rw [hlevels, hsent.level Nat.one_pos, hedges]
    · simp [hstarted', hstarted]
    · refine place_of_sent hsent Nat.one_pos ?_ ?_ ?_
      · show 1 ≤ 10 * e'.period.edges
        omega
      · rw [hedges]
      · show e'.started = e'.completed + _
        rw [if_pos (by show 1 < 10 * e'.period.edges; omega), hstarted', hcompleted', hcount]

lemma Follows.step (h : Follows period r g) (event : LineEvent) :
    Follows period (r.step event) (g.step period event) := by
  cases event with
  | push byte => exact h.push byte
  | tick =>
    rcases h.place with hrest | ⟨byte, m, hin⟩
    · exact h.tick_atRest hrest
    · exact h.tick_inFrame hin

lemma Follows.run (h : Follows period r g) (events : List LineEvent) :
    Follows period (r.run events) (g.run period events) := by
  induction events generalizing r g with
  | nil => exact h
  | cons event events ih => exact ih (h.step event)

/-! ## What a tick computes fits its words -/

namespace FrameEncoder

/-- All numbers of a tick with a byte on offer fit: the two counts of frames and the ticks of a bit
into 64 bits, the bits of the frame into 16, and the number of the next bit into 8. -/
def TickFits (e : FrameEncoder) (offer : Option UInt8) : Prop :=
  (e.load offer).started < UInt64.size ∧ (e.tick offer).completed < UInt64.size ∧
    ∀ frame bit tick, (e.load offer).state = .sending frame bit tick →
      frame < UInt16.size ∧ bit + 1 < UInt8.size ∧ tick + 1 < UInt64.size

end FrameEncoder

lemma InFrame.bounds {byte : UInt8} {m : ℕ} (hin : InFrame r g byte m) :
    r.encoder.state
        = .sending (frameOf byte) (m / r.encoder.period.edges) (m % r.encoder.period.edges)
      ∧ m / r.encoder.period.edges < 10
      ∧ m % r.encoder.period.edges < r.encoder.period.edges := by
  obtain ⟨-, hlt, hsent, -, -⟩ := hin
  refine ⟨by rw [hsent.state, frameState_of_lt byte hlt], ?_, Nat.mod_lt _ r.encoder.period.pos⟩
  exact Nat.div_lt_of_lt_mul (by rwa [Nat.mul_comm])

/-- As long as the frames that were started can be counted, no number of a tick is too large. -/
lemma Follows.tickFits (h : Follows period r g) (hperiod : period.edges < UInt64.size)
    (offer : Option UInt8) (hcount : (r.encoder.load offer).started < UInt64.size) :
    r.encoder.TickFits offer := by
  have hsize : UInt8.size = 256 ∧ UInt16.size = 65536 ∧ UInt64.size = 18446744073709551616 :=
    ⟨rfl, rfl, rfl⟩
  -- between two frames a byte on offer begins one; in a frame it is not looked at
  rcases h.place with ⟨hstate, -, -, heq⟩ | ⟨byte, m, hin⟩
  · cases offer with
    | none =>
      have hload : r.encoder.load none = r.encoder := by simp [FrameEncoder.load, hstate]
      have htick : r.encoder.tick none = r.encoder := by
        simp [FrameEncoder.tick, hload, FrameEncoder.shift, hstate]
      rw [hload] at hcount
      refine ⟨by rwa [hload], by rwa [htick, ← heq], fun frame bit tick hs => ?_⟩
      rw [hload, hstate] at hs
      cases hs
    | some byte =>
      have hload : r.encoder.load (some byte) = { r.encoder with
          state := .sending (frameOf byte) 0 0, started := r.encoder.started + 1 } := by
        simp [FrameEncoder.load, hstate]
      refine ⟨hcount, ?_, fun frame bit tick hs => ?_⟩
      · rw [hload] at hcount
        have hcompleted : (r.encoder.tick (some byte)).completed = r.encoder.completed := by
          simp only [FrameEncoder.tick, hload, FrameEncoder.shift]
          split
          · rfl
          · rfl
        rw [hcompleted, ← heq]
        exact Nat.lt_of_succ_lt hcount
      · rw [hload] at hs
        cases hs
        have := frameOf_lt byte
        omega
  · obtain ⟨hstate, hbit, htick⟩ := hin.bounds
    obtain ⟨hpos, hlt, hsent, -, heq⟩ := hin
    have hload : r.encoder.load offer = r.encoder := by simp [FrameEncoder.load, hstate]
    obtain ⟨-, -, -, hcompleted⟩ := hsent.shift hlt
    rw [hload] at hcount
    refine ⟨by rwa [hload], ?_, fun frame bit tick hs => ?_⟩
    · rw [FrameEncoder.tick, hload, hcompleted]
      split <;> omega
    · rw [hload, hstate] at hs
      cases hs
      have := frameOf_lt byte
      have hedges := congrArg BitPeriod.edges h.period_eq
      omega

/-- **The encoder is its waveform.**  Whatever the queue holds at first and however pushes and ticks
follow each other, a new encoder puts out the levels of the generator, takes the same bytes and
leaves the same queue.  In every state it comes to, it is in a frame exactly when it has started
one more than it has completed, and otherwise the line is high; its two counters stay below the
bits of a frame and the ticks of a bit; it has started as many frames as it has taken bytes; and no
number of a tick outgrows its word before the count of frames does. -/
theorem EncoderRun.levels_eq_generator (period : BitPeriod) (queue : ByteQueue)
    (events : List LineEvent) :
    let r := (EncoderRun.start period queue).run events
    let g := Generator.run period { queue } events
    (r.levels = g.levels ∧ r.taken = g.taken ∧ r.queue = g.queue)
      ∧ ((∃ frame bit tick, r.encoder.state = .sending frame bit tick)
          ↔ r.encoder.started = r.encoder.completed + 1)
      ∧ (r.encoder.state = .idle ↔ r.encoder.started = r.encoder.completed)
      ∧ (r.encoder.state = .idle → r.encoder.level = true)
      ∧ (∀ frame bit tick, r.encoder.state = .sending frame bit tick →
          bit < 10 ∧ tick < period.edges)
      ∧ r.encoder.started = r.taken.length
      ∧ (period.edges < UInt64.size → ∀ offer,
          (r.encoder.load offer).started < UInt64.size → r.encoder.TickFits offer) := by
  intro r g
  have h : Follows period r g := (follows_start period queue).run events
  have hfits := fun hperiod offer hcount => h.tickFits hperiod offer hcount
  refine ⟨⟨h.levels_eq, h.taken_eq, h.queue_eq⟩, ?_⟩
  rcases h.place with ⟨hstate, hlevel, -, hcount⟩ | ⟨byte, m, hin⟩
  · refine ⟨?_, ?_, fun _ => hlevel, ?_, h.started_eq, hfits⟩
    · simp [hstate, hcount]
    · simp [hstate, hcount]
    · intro frame bit tick hs
      rw [hstate] at hs
      cases hs
  · obtain ⟨hstate, hbit, htick⟩ := hin.bounds
    obtain ⟨-, -, -, -, hcount⟩ := hin
    refine ⟨?_, ?_, ?_, ?_, h.started_eq, hfits⟩
    · simp [hstate, hcount]
    · simp [hstate, hcount]
    · simp [hstate]
    · intro frame bit tick hs
      rw [hstate] at hs
      cases hs
      rw [h.period_eq] at htick hbit ⊢
      exact ⟨hbit, htick⟩

end SocBench
