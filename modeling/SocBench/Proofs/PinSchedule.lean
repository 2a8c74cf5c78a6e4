import SocBench.Proofs.Observation
import SocBench.Proofs.RunAccounts

/-!
# The pins of a run

What a device sees of a run are the levels of its pins each time it is evaluated.  `pinSchedule`
writes them down: the device is powered on, held in reset for some toggles of the clock, released
without one, warmed up, and then clocked until the run ends.  Only in the main loop the serial line
moves.  On a rising edge the encoder chooses the next level after the device was evaluated, so the
device sees it one edge later.

The main result is that every run follows the schedule and only may end early
(`Bench.evals_schedule`).  The device can be any that holds its pins, and a bench may have been
through other runs before.
-/

namespace SocBench

/-! ## The schedule -/

/-- The levels up to the end of the reset. -/
def resetPins (resets : ℕ) : List Pins :=
  [⟨false, false, true⟩] ++ (List.range resets).map fun i => ⟨i % 2 == 0, false, true⟩

/-- The levels from the release of the reset to the end of the warm-up. -/
def warmupPins (resets warmups : ℕ) : List Pins :=
  [⟨resets % 2 == 1, true, true⟩]
    ++ (List.range warmups).map fun i => ⟨(resets + i) % 2 == 0, true, true⟩

/-- How many of the first rounds of a main loop have a rising edge, if it follows `before`
toggles. -/
def ticksIn (before i : ℕ) : ℕ :=
  (List.range i).countP fun j => edgeAt (before + j) = .rising

/-- The level on the serial pin in a round: that of the last tick before it, and high if there was
none. -/
def shownIn (before : ℕ) (level : ℕ → Bool) (i : ℕ) : Bool :=
  match ticksIn before i with
  | 0 => true
  | k + 1 => level k

/-- The levels in the main loop. -/
def loopPins (before rounds : ℕ) (level : ℕ → Bool) : List Pins :=
  (List.range rounds).map fun i => ⟨(before + i) % 2 == 0, true, shownIn before level i⟩

/-- The levels of the pins at the evaluations of a run, if `level k` is what the encoder puts out on
its tick `k`. -/
def pinSchedule (resets warmups rounds : ℕ) (level : ℕ → Bool) : List Pins :=
  resetPins resets ++ warmupPins resets warmups ++ loopPins (resets + warmups) rounds level

/-- The round of the tick `k`. -/
def tickRound (before k : ℕ) : ℕ :=
  2 * k + before % 2

/-- What the encoder of a bench puts out on its tick `k` in a run. Without a line that is high. -/
def Bench.output {σ κ β : Type} (pace : Pace) (b : Bench σ κ β) (k : ℕ) : Bool :=
  let before := b.resetToggles + b.warmupToggles
  b.line.elim true fun line => (line.after pace before (tickRound before k + 1)).encoder.level

lemma ticksIn_succ (before i : ℕ) :
    ticksIn before (i + 1)
      = ticksIn before i + if edgeAt (before + i) = .rising then 1 else 0 := by
  simp [ticksIn, List.range_succ, List.countP_append, List.countP_cons]

lemma ticksIn_eq (before i : ℕ) : ticksIn before i = (i + 1 - before % 2) / 2 := by
  induction i with
  | zero =>
    simp only [ticksIn, List.range_zero, List.countP_nil]
    omega
  | succ i ih =>
    rw [ticksIn_succ, ih]
    simp only [Bench.edgeAt_eq_rising]
    split <;> omega

/-- In a round with a rising edge the encoder has its next tick. -/
lemma tickRound_ticksIn {before i : ℕ} (hrising : edgeAt (before + i) = .rising) :
    tickRound before (ticksIn before i) = i := by
  rw [Bench.edgeAt_eq_rising] at hrising
  rw [tickRound, ticksIn_eq]
  omega

lemma shownIn_rising {before i : ℕ} (level : ℕ → Bool)
    (hrising : edgeAt (before + i) = .rising) :
    shownIn before level (i + 1) = level (ticksIn before i) := by
  rw [shownIn, ticksIn_succ, if_pos hrising]

lemma shownIn_falling {before i : ℕ} (level : ℕ → Bool)
    (hfalling : edgeAt (before + i) ≠ .rising) :
    shownIn before level (i + 1) = shownIn before level i := by
  rw [shownIn, ticksIn_succ, if_neg hfalling, Nat.add_zero, shownIn]

lemma shownIn_high (before i : ℕ) : shownIn before (fun _ => true) i = true := by
  rw [shownIn]
  split <;> rfl

/-- The serial pin is high as long as the encoder is. -/
lemma uartRx_pinSchedule {resets warmups rounds : ℕ} {level : ℕ → Bool}
    (hhigh : ∀ k, level k = true) {pins : Pins}
    (hpins : pins ∈ pinSchedule resets warmups rounds level) : pins.uartRx = true := by
  have hlevel : level = fun _ => true := funext hhigh
  simp only [pinSchedule, resetPins, warmupPins, loopPins, hlevel, shownIn_high, List.mem_append,
    List.mem_map, List.mem_singleton] at hpins
  rcases hpins with ((rfl | ⟨i, -, rfl⟩) | (rfl | ⟨i, -, rfl⟩)) | ⟨i, -, rfl⟩ <;> rfl

lemma bne_odd (i : ℕ) : (!(i % 2 == 1)) = (i % 2 == 0) := by
  rcases Nat.mod_two_eq_zero_or_one i with hi | hi <;> simp [hi]

lemma odd_succ (i : ℕ) : ((i + 1) % 2 == 1) = (i % 2 == 0) := by
  rcases Nat.mod_two_eq_zero_or_one i with hi | hi <;> simp [Nat.add_mod, hi]

/-! ## Devices that hold their pins -/

/-- A device whose pins show the levels they were last set to. -/
class Dut.HoldsPins (σ : Type) [Dut σ] : Prop where
  pins_setClk (level : Bool) (s : σ) :
    Dut.pins (Dut.setClk level s) = { Dut.pins s with clk := level }
  pins_setRstN (level : Bool) (s : σ) :
    Dut.pins (Dut.setRstN level s) = { Dut.pins s with rstN := level }
  pins_setUartRx (level : Bool) (s : σ) :
    Dut.pins (Dut.setUartRx level s) = { Dut.pins s with uartRx := level }
  pins_eval (s : σ) : Dut.pins (Dut.eval s) = Dut.pins s
  pins_driveTap (levels : TapLevels) (s : σ) : Dut.pins (Dut.driveTap levels s) = Dut.pins s
  pins_traceDump (tick : Tick) (s : σ) : Dut.pins (Dut.traceDump tick s).2 = Dut.pins s
  pins_traceClose (s : σ) : Dut.pins (Dut.traceClose s).2 = Dut.pins s

attribute [simp] Dut.HoldsPins.pins_setClk Dut.HoldsPins.pins_setRstN Dut.HoldsPins.pins_setUartRx
  Dut.HoldsPins.pins_eval Dut.HoldsPins.pins_driveTap

section Instances

variable {κ σ : Type} [Dut σ]

instance [Dut.HoldsPins σ] : Dut.HoldsClock σ where
  clk_setClk level s := congrArg Pins.clk (Dut.HoldsPins.pins_setClk level s)
  clk_setRstN level s := congrArg Pins.clk (Dut.HoldsPins.pins_setRstN level s)
  clk_setUartRx level s := congrArg Pins.clk (Dut.HoldsPins.pins_setUartRx level s)
  clk_eval s := congrArg Pins.clk (Dut.HoldsPins.pins_eval s)
  clk_driveTap levels s := congrArg Pins.clk (Dut.HoldsPins.pins_driveTap levels s)
  clk_traceDump tick s := congrArg Pins.clk (Dut.HoldsPins.pins_traceDump tick s)
  clk_traceClose s := congrArg Pins.clk (Dut.HoldsPins.pins_traceClose s)

instance : Dut.HoldsPins Sample.Counter where
  pins_setClk _ _ := rfl
  pins_setRstN _ _ := rfl
  pins_setUartRx _ _ := rfl
  pins_eval _ := rfl
  pins_driveTap _ _ := rfl
  pins_traceDump _ _ := rfl
  pins_traceClose _ := rfl

instance [Dut.HoldsPins σ] : Dut.HoldsPins (Watched σ) where
  pins_setClk level w := Dut.HoldsPins.pins_setClk level w.dut
  pins_setRstN level w := Dut.HoldsPins.pins_setRstN level w.dut
  pins_setUartRx level w := Dut.HoldsPins.pins_setUartRx level w.dut
  pins_eval w := Dut.HoldsPins.pins_eval w.dut
  pins_driveTap levels w := Dut.HoldsPins.pins_driveTap levels w.dut
  pins_traceDump tick w := Dut.HoldsPins.pins_traceDump tick w.dut
  pins_traceClose w := Dut.HoldsPins.pins_traceClose w.dut

variable [Sink κ σ]

instance [Sink.Keeps κ (Dut.pins (σ := σ))] : Sink.Keeps κ (Dut.clk (σ := σ)) where
  dump_eq k tick s :=
    congrArg Pins.clk (show Dut.pins (Sink.dump k tick s).2.2 = _ from Sink.Keeps.dump_eq k tick s)
  close_eq k s :=
    congrArg Pins.clk (show Dut.pins (Sink.close k s).2.2 = _ from Sink.Keeps.close_eq k s)

instance [Dut.HoldsPins σ] [Sink.Keeps κ (Dut.pins (σ := σ))] :
    Sink.Keeps (TraceSink κ) (Dut.pins (σ := σ)) :=
  TraceSink.keeps Dut.HoldsPins.pins_traceDump Dut.HoldsPins.pins_traceClose

instance [Sink.Keeps κ (Dut.pins (σ := σ))] :
    Sink.Keeps (Labelled κ) (Dut.pins (σ := Watched σ)) where
  dump_eq k tick w :=
    show Dut.pins (Sink.dump k.sink tick w.dut).2.2 = _ from Sink.Keeps.dump_eq k.sink tick w.dut
  close_eq k w :=
    show Dut.pins (Sink.close k.sink w.dut).2.2 = _ from Sink.Keeps.close_eq k.sink w.dut

end Instances

/-! ## The evaluations that were seen -/

/-- The pins of a call, if it is an evaluation. -/
def BenchCall.pins? : BenchCall → Option Pins
  | .eval pins => some pins
  | _ => none

/-- The levels of the pins at the evaluations so far. -/
def Watched.evals {σ : Type} (w : Watched σ) : List Pins :=
  w.events.filterMap BenchCall.pins?

lemma Watched.evals_eval {σ : Type} [Dut σ] (w : Watched σ) :
    (Dut.eval w).evals = w.evals ++ [Dut.pins w] :=
  List.filterMap_append

instance {κ σ : Type} [Sink κ σ] : Sink.Keeps (Labelled κ) (Watched.evals (σ := σ)) where
  dump_eq _ _ _ := List.filterMap_append.trans (List.append_nil _)
  close_eq _ _ := List.filterMap_append.trans (List.append_nil _)

/-! ## Along the course of a run -/

namespace Bench

variable {σ κ β : Type} [Dut σ]

section Driven

variable {phase : Phase} {edge : Edge} {line : Option SerialLine}

/-- After an evaluation only the serial pin is moved, and only on a rising edge of the main
loop. -/
lemma Driven.pins_eq [Dut.HoldsPins σ] {s s' : σ} (h : Driven phase edge line s s') :
    Dut.pins s' = { Dut.pins s with
      uartRx := if phase = .running ∧ edge = .rising then
        line.elim (Dut.pins s).uartRx (·.encoder.level) else (Dut.pins s).uartRx } := by
  induction h with
  | plain hplain =>
    split
    case isTrue hboth => simp [hplain hboth.1 hboth.2]
    case isFalse => rfl
  | line hphase hedge hline => simp [hphase, hedge, hline]
  | tap levels _ ih => simpa using ih

end Driven

lemma Passed.evals_eq {phase : Phase} {edge : Edge} {steps : ℕ} {b found : Bench (Watched σ) κ β}
    (h : Passed phase steps b edge found) :
    found.dut.evals = b.dut.evals ++ [Dut.pins (Dut.setClk (!Dut.clk b.dut) b.dut)] := by
  rw [Watched.evals, h.events_eq, List.filterMap_append]
  rfl

/-- The levels at the evaluation after the toggle `n` of a phase. -/
def pinsIn (pace : Pace) (b : Bench σ κ β) (phase : Phase) (n : ℕ) : Pins where
  clk := (b.togglesBefore phase + n) % 2 == 0
  rstN := phase ≠ .resetting
  uartRx := if phase = .running then shownIn (b.togglesBefore phase) (b.output pace) n else true

/-- The levels at all evaluations up to the first `n` toggles of a phase. -/
def pinsUpTo (pace : Pace) (b : Bench σ κ β) (phase : Phase) (n : ℕ) : List Pins :=
  match phase with
  | .resetting => resetPins n
  | .warmingUp => resetPins b.resetToggles ++ warmupPins b.resetToggles n
  | _ => pinSchedule b.resetToggles b.warmupToggles n (b.output pace)

omit [Dut σ] in
lemma pinsUpTo_succ (pace : Pace) (b : Bench σ κ β) {phase : Phase} (hphase : phase ≠ .finished)
    (n : ℕ) :
    b.pinsUpTo pace phase (n + 1) = b.pinsUpTo pace phase n ++ [b.pinsIn pace phase n] := by
  cases phase with
  | finished => exact absurd rfl hphase
  | _ =>
    simp [pinsUpTo, pinSchedule, resetPins, warmupPins, loopPins, pinsIn, togglesBefore,
      List.range_succ]

lemma map_range_isPrefix {α : Type} (f : ℕ → α) {m n : ℕ} (h : m ≤ n) :
    (List.range m).map f <+: (List.range n).map f := by
  obtain ⟨k, rfl⟩ := Nat.exists_eq_add_of_le h
  rw [List.range_add, List.map_append]
  exact List.prefix_append _ _

omit [Dut σ] in
/-- Wherever a phase is left, the schedule was followed from its start on. -/
lemma pinsUpTo_isPrefix (pace : Pace) (b : Bench σ κ β) {phase : Phase} {n : ℕ}
    (hphase : phase ≠ .finished) (hn : phase ≠ .running → n ≤ b.togglesFor phase) :
    b.pinsUpTo pace phase n
      <+: pinSchedule b.resetToggles b.warmupToggles (if phase = .running then n else 0)
        (b.output pace) := by
  cases phase with
  | resetting =>
    refine List.IsPrefix.trans ?_ (List.prefix_append _ _)
    refine List.IsPrefix.trans ?_ (List.prefix_append _ _)
    exact (List.prefix_append_right_inj _).mpr (map_range_isPrefix _ (hn (by simp)))
  | warmingUp =>
    refine List.IsPrefix.trans ?_ (List.prefix_append _ _)
    refine (List.prefix_append_right_inj _).mpr ?_
    exact (List.prefix_append_right_inj _).mpr (map_range_isPrefix _ (hn (by simp)))
  | running => exact List.prefix_rfl
  | finished => exact absurd rfl hphase

omit [Dut σ] in
/-- The number of evaluations tells how many rounds there were. -/
lemma length_pinsUpTo (pace : Pace) (b : Bench σ κ β) {phase : Phase} {n : ℕ}
    (hphase : phase ≠ .finished) (hn : phase ≠ .running → n ≤ b.togglesFor phase) :
    (b.pinsUpTo pace phase n).length - (b.resetToggles + b.warmupToggles + 2)
      = if phase = .running then n else 0 := by
  cases phase with
  | resetting =>
    have hle : n ≤ b.resetToggles := hn (by simp)
    simp [pinsUpTo, resetPins]
    omega
  | warmingUp =>
    have hle : n ≤ b.warmupToggles := hn (by simp)
    simp [pinsUpTo, resetPins, warmupPins]
    omega
  | running =>
    simp [pinsUpTo, pinSchedule, resetPins, warmupPins, loopPins]
    omega
  | finished => exact absurd rfl hphase

/-- After the first `n` toggles of a phase, a watched bench has been evaluated with the levels of
the schedule, and still shows the last of them but for the clock and the serial line, which are
those of the next evaluation. -/
structure OnSchedule (pace : Pace) (b : Bench (Watched σ) κ β) (phase : Phase) (n : ℕ)
    (c : Bench (Watched σ) κ β) : Prop where
  evals_eq : c.dut.evals = b.dut.evals ++ b.pinsUpTo pace phase n
  pins_eq : Dut.pins c.dut = { b.pinsIn pace phase n with
    clk := (b.togglesBefore phase + n) % 2 == 1 }

omit [Dut σ] in
/-- What the serial pin shows after a round is what it shows in the next one. -/
lemma shownIn_succ (b : Bench σ κ β) (pace : Pace) (n : ℕ) :
    (if edgeAt (b.resetToggles + b.warmupToggles + n) = .rising then
      (b.line.map fun line =>
          line.after pace (b.resetToggles + b.warmupToggles) (n + 1)).elim
        (shownIn (b.resetToggles + b.warmupToggles) (b.output pace) n) (·.encoder.level)
      else shownIn (b.resetToggles + b.warmupToggles) (b.output pace) n)
      = shownIn (b.resetToggles + b.warmupToggles) (b.output pace) (n + 1) := by
  split
  case isTrue hrising =>
    rw [shownIn_rising _ hrising]
    cases hline : b.line with
    | none =>
      have hhigh : b.output pace = fun _ => true := by
        funext k
        simp [output, hline]
      simp [hhigh, shownIn_high]
    | some line => simp [output, hline, tickRound_ticksIn hrising]
  case isFalse hfalling => rw [shownIn_falling _ hfalling]

section Course

variable [Sink κ (Watched σ)] [Bridge β] [Dut.HoldsPins σ]
  [Sink.Keeps κ (Dut.pins (σ := Watched σ))] [Sink.Keeps κ (Watched.evals (σ := σ))]
  {pace : Pace} {b c found : Bench (Watched σ) κ β} {phase : Phase} {n : ℕ} {edge : Edge}
  {h : History (Watched σ) κ β}

omit [Sink.Keeps κ (Watched.evals (σ := σ))] in
/-- A toggle keeps the schedule. -/
lemma OnSchedule.passIn (hc : Course pace b phase h c)
    (hon : OnSchedule pace b phase (h.inPhase phase) c)
    (hpass : c.passIn phase (pace (h.inPhase .running)) = (edge, found)) :
    OnSchedule pace b phase (h.inPhase phase + 1) found := by
  have hdriven := (passed_passIn hpass).dut_driven
  have hedge : edge = edgeAt (b.togglesBefore phase + h.inPhase phase) := by
    rw [hc.edge_eq hpass, hc.length_eq]
  have hset : Dut.pins (Dut.setClk (!Dut.clk c.dut) c.dut)
      = b.pinsIn pace phase (h.inPhase phase) := by
    have hclk : Dut.clk c.dut = ((b.togglesBefore phase + h.inPhase phase) % 2 == 1) :=
      congrArg Pins.clk hon.pins_eq
    rw [Dut.HoldsPins.pins_setClk, hon.pins_eq, hclk, bne_odd]
    rfl
  constructor
  · rw [(passed_passIn hpass).evals_eq, hset, pinsUpTo_succ pace b hc.phase_ne_finished,
      ← List.append_assoc, ← hon.evals_eq]
  · rw [hdriven.pins_eq, Dut.HoldsPins.pins_eval, hset, hc.found_line hpass hc.line_eq, hedge]
    cases phase with
    | running =>
      have hshown := b.shownIn_succ pace (h.inPhase .running)
      simp only [pinsIn, togglesBefore, if_true, true_and] at hshown ⊢
      rw [hshown, ← Nat.add_assoc, odd_succ]
    | _ => simp [pinsIn, togglesBefore, ← Nat.add_assoc, odd_succ]

omit [Bridge β] [Dut.HoldsPins σ] in
lemma OnSchedule.sample (hon : OnSchedule pace b phase n found)
    {x : Attempt (Bench (Watched σ) κ β)} (hsample : found.sample = x) :
    OnSchedule pace b phase n x.2 :=
  ⟨(view_sample Watched.evals hsample).trans hon.evals_eq,
    (view_sample Dut.pins hsample).trans hon.pins_eq⟩

omit [Bridge β] in
/-- Power-on is the first evaluation. -/
lemma onSchedule_powered {x : Attempt (Bench (Watched σ) κ β)}
    (hsample : b.poweredOn.sampleStart = x) : OnSchedule pace b .resetting 0 x.2 := by
  have hrest : Dut.pins (Dut.setUartRx true (Dut.setRstN false (Dut.setClk false b.dut)))
      = ⟨false, false, true⟩ := by
    simp
  constructor
  · rw [view_sampleStart Watched.evals hsample]
    refine (Watched.evals_eval _).trans ?_
    rw [hrest]
    rfl
  · rw [view_sampleStart Dut.pins hsample]
    refine (Dut.HoldsPins.pins_eval _).trans ?_
    rw [hrest]
    rfl

/-- Every run is on schedule. -/
lemma Course.onSchedule (hc : Course pace b phase h c) :
    OnSchedule pace b phase (h.inPhase phase) c := by
  induction hc with
  | @powered c hsample =>
    have hon : OnSchedule pace b .resetting 0 c := onSchedule_powered hsample
    refine ⟨hon.evals_eq, ?_⟩
    refine (Dut.HoldsPins.pins_setRstN false _).trans ?_
    rw [hon.pins_eq]
    rfl
  | @released h c hc hall ih =>
    rw [hall, hc.settings_eq.1] at ih
    have hpins : Dut.pins (Dut.setRstN true c.dut) = ⟨b.resetToggles % 2 == 1, true, true⟩ := by
      rw [Dut.HoldsPins.pins_setRstN, ih.pins_eq]
      simp [pinsIn, togglesBefore]
    rw [hc.inPhase_warmingUp]
    constructor
    · refine (Watched.evals_eval _).trans ?_
      rw [hpins, show Watched.evals (Dut.setRstN true c.dut) = _ from ih.evals_eq,
        List.append_assoc]
      rfl
    · refine (Dut.HoldsPins.pins_eval _).trans ?_
      rw [hpins]
      rfl
  | @started h c hc hall ih =>
    rw [hall, hc.settings_eq.2.1] at ih
    rw [hc.inPhase_running (by simp)]
    constructor
    · refine (show Watched.evals (Dut.setUartRx true c.dut) = _ from ih.evals_eq).trans ?_
      simp [pinsUpTo, pinSchedule, loopPins]
    · refine (Dut.HoldsPins.pins_setUartRx true _).trans ?_
      rw [ih.pins_eq]
      rfl
  | toggled hc _ hpass hsample ih =>
    rw [History.inPhase_append, if_pos rfl]
    exact (ih.passIn hc hpass).sample hsample

/-! ## The whole run -/

/-- A run that was left after `n` toggles of a phase has followed the schedule until then, and the
line has gone through its rounds. -/
structure LeftOnSchedule (pace : Pace) (b : Bench (Watched σ) κ β) (phase : Phase) (n : ℕ)
    (last : Bench (Watched σ) κ β) : Prop where
  phase_ne : phase ≠ .finished
  le_togglesFor : phase ≠ .running → n ≤ b.togglesFor phase
  evals_eq : last.dut.evals = b.dut.evals ++ b.pinsUpTo pace phase n
  line_eq : last.line = b.line.map fun line =>
    line.after pace (b.resetToggles + b.warmupToggles) (if phase = .running then n else 0)

omit [Bridge β] in
lemma leftOnSchedule_unpowered {e : BenchError} {last : Bench (Watched σ) κ β}
    (hsample : b.poweredOn.sampleStart = .failed e last) :
    LeftOnSchedule pace b .resetting 0 last := by
  have hon : OnSchedule pace b .resetting 0 last := onSchedule_powered hsample
  refine ⟨by simp, fun _ => Nat.zero_le _, hon.evals_eq, ?_⟩
  have hline : last.line = b.line := congrArg (·.2.line) hsample.symm
  rw [hline]
  cases b.line <;> rfl

lemma leftOnSchedule_cut {e : BenchError} {last : Bench (Watched σ) κ β}
    (hcut : Cut pace b e last) : ∃ phase n, LeftOnSchedule pace b phase n last := by
  obtain ⟨phase, h, c, edge, found, hc, hdue, hpass, hsample⟩ := hcut
  have hon : OnSchedule pace b phase _ last := (hc.onSchedule.passIn hc hpass).sample hsample
  refine ⟨phase, h.inPhase phase + 1, hc.phase_ne_finished, fun hphase => ?_, hon.evals_eq, ?_⟩
  · have htoggles : c.togglesFor phase = b.togglesFor phase := by
      cases phase <;> simp [togglesFor, hc.settings_eq]
    rw [← htoggles]
    cases phase with
    | running => exact absurd rfl hphase
    | _ => exact hdue
  · have hline : last.line = found.line := congrArg (·.2.line) hsample.symm
    rw [hline, hc.found_line hpass hc.line_eq]
    by_cases hphase : phase = .running
    · subst hphase
      rfl
    · rw [if_neg hphase, if_neg hphase, hc.inPhase_running hphase]

lemma Course.leftOnSchedule (hc : Course pace b .running h c) {last : Bench (Watched σ) κ β}
    (hevals : last.dut.evals = c.dut.evals) (hline : last.line = c.line) :
    LeftOnSchedule pace b .running (h.inPhase .running) last :=
  ⟨by simp, fun hphase => absurd rfl hphase, hevals.trans hc.onSchedule.evals_eq,
    hline.trans hc.line_eq⟩

/-- However a run ends, it was on schedule. -/
lemma run_leftOnSchedule (pace : Pace) (b : Bench (Watched σ) κ β) :
    ∃ phase n, LeftOnSchedule pace b phase n (b.run pace).2
      ∧ ∀ summary, (b.run pace).1 = .ok summary → phase = .running := by
  obtain ⟨outcome, last, hresult⟩ : ∃ outcome last, b.run pace = (outcome, last) := ⟨_, _, rfl⟩
  have hending := run_ending pace b
  simp only [hresult] at hending ⊢
  cases hending with
  | unpowered hsample => exact ⟨_, _, leftOnSchedule_unpowered hsample, by simp⟩
  | cut hcut =>
    obtain ⟨phase, n, hleft⟩ := leftOnSchedule_cut hcut
    exact ⟨phase, n, hleft, by simp⟩
  | overflowed hc => exact ⟨_, _, hc.leftOnSchedule rfl rfl, by simp⟩
  | unclosed hc _ hclose =>
    exact ⟨_, _, hc.leftOnSchedule (view_closeRecorder Watched.evals hclose)
      (congrArg (·.2.line) hclose.symm), by simp⟩
  | completed hc _ hclose =>
    exact ⟨_, _, hc.leftOnSchedule (view_closeRecorder Watched.evals hclose)
      (congrArg (·.2.line) hclose.symm), fun _ _ => rfl⟩

end Course

variable [Sink κ σ] [Bridge β]

/-- The pins of a device that holds them follow the schedule at every evaluation of a run, up to the
end of the schedule if the run returns a summary.  What `rounds` counts are the rounds of the main
loop.  The line goes through exactly these, so its encoder ticks once on each of their rising edges
and at no other time, and without a line the serial pin stays high. -/
theorem evals_schedule [Dut.HoldsPins σ] [Sink.Keeps κ (Dut.pins (σ := σ))] (pace : Pace)
    (b : Bench σ κ β) :
    let watched := b.watch.run pace
    let evals := watched.2.dut.evals
    let rounds := evals.length - (b.resetToggles + b.warmupToggles + 2)
    b.run pace = (watched.1, watched.2.unwatched)
      ∧ evals <+: pinSchedule b.resetToggles b.warmupToggles rounds (b.output pace)
      ∧ (∀ summary, (b.run pace).1 = .ok summary →
          evals = pinSchedule b.resetToggles b.warmupToggles rounds (b.output pace))
      ∧ (b.run pace).2.line
          = b.line.map (fun line => line.after pace (b.resetToggles + b.warmupToggles) rounds)
      ∧ (b.line = none → ∀ pins ∈ evals, pins.uartRx = true) := by
  intro watched evals rounds
  have hproject : b.run pace = (watched.1, watched.2.unwatched) := by
    rw [← unwatched_run, unwatched_watch]
  obtain ⟨phase, n, hleft, hok⟩ := run_leftOnSchedule pace b.watch
  have hevals : evals = b.pinsUpTo pace phase n := hleft.evals_eq
  have hrounds : rounds = if phase = .running then n else 0 := by
    rw [← length_pinsUpTo pace b hleft.phase_ne hleft.le_togglesFor, ← hevals]
  have hpre : evals <+: pinSchedule b.resetToggles b.warmupToggles rounds (b.output pace) := by
    rw [hevals, hrounds]
    exact pinsUpTo_isPrefix pace b hleft.phase_ne hleft.le_togglesFor
  refine ⟨hproject, hpre, ?_, ?_, ?_⟩
  · intro summary hsummary
    have hphase : phase = .running := hok summary (by rw [← hsummary, hproject])
    rw [hevals, hrounds, if_pos hphase, hphase]
    rfl
  · rw [hproject, hrounds]
    exact hleft.line_eq
  · intro hline pins hpins
    refine uartRx_pinSchedule (fun k => ?_) (hpre.subset hpins)
    simp [output, hline]

/-- A counter on a short run: its main loop begins with a falling edge, and in it the encoder is in
the first two bits of a byte. -/
theorem evals_schedule_shortRun :
    let b := Sample.counterBench {}
    let evals := (b.watch.run fun _ => 0).2.dut.evals
    evals = pinSchedule 1 2 8 (b.output fun _ => 0)
      ∧ (List.range 4).map (b.output fun _ => 0) = [false, false, true, true]
      ∧ evals.map Pins.uartRx
          = [true, true, true, true, true, true, true, false, false, false, false, true, true] := by
  intro b evals
  have hresets : b.resetToggles = 1 := rfl
  have hwarmups : b.warmupToggles = 2 := rfl
  have hlevels : (List.range 4).map (b.output fun _ => 0) = [false, false, true, true] := by
    decide +kernel
  have hshown : evals.map Pins.uartRx
      = [true, true, true, true, true, true, true, false, false, false, false, true, true] := by
    decide +kernel
  have hlength : evals.length = 13 := by
    rw [← List.length_map Pins.uartRx, hshown]
    rfl
  have hevals : (b.watch.run fun _ => 0).2.dut.evals = evals := rfl
  -- the run is large, and from here on nothing needs to look into it
  clear_value evals b
  have hschedule := evals_schedule (fun _ => 0) b
  simp only [hevals, hlength, hresets, hwarmups] at hschedule
  have hfull : (pinSchedule 1 2 8 (b.output fun _ => 0)).length = 13 := by
    simp [pinSchedule, resetPins, warmupPins, loopPins]
  exact ⟨hschedule.2.1.eq_of_length (hlength.trans hfull.symm), hlevels, hshown⟩

end Bench

end SocBench
