import SocBench.Bench.Simulate
import SocBench.Proofs.RunCourse

/-!
# Alternating edges

A device that holds its clock pin sees the clock rise and fall in turn, whatever else a run does to
it, because power-on leaves the clock low and nothing but a toggle sets it.  So the number of
toggles so far tells which edge is next (`Bench.Course.clk_eq`) and how often the clock has risen
(`Bench.Course.rises_eq`, `Bench.Course.edges_eq`).

It also tells what the serial line has been through.  The line does not look at the device: between
two toggles its producer goes on, and when the clock rises the encoder is ticked.
`SerialLine.after` is that line on its own, and `Bench.Course.line_eq` says that the line of a bench
is this one.
-/

namespace SocBench

/-! ## Devices and sinks that leave something alone -/

/-- A device whose clock pin shows the level it was last set to. -/
class Dut.HoldsClock (σ : Type) [Dut σ] : Prop where
  clk_setClk (level : Bool) (s : σ) : Dut.clk (Dut.setClk level s) = level
  clk_setRstN (level : Bool) (s : σ) : Dut.clk (Dut.setRstN level s) = Dut.clk s
  clk_setUartRx (level : Bool) (s : σ) : Dut.clk (Dut.setUartRx level s) = Dut.clk s
  clk_eval (s : σ) : Dut.clk (Dut.eval s) = Dut.clk s
  clk_driveTap (levels : TapLevels) (s : σ) : Dut.clk (Dut.driveTap levels s) = Dut.clk s
  clk_traceDump (tick : Tick) (s : σ) : Dut.clk (Dut.traceDump tick s).2 = Dut.clk s
  clk_traceClose (s : σ) : Dut.clk (Dut.traceClose s).2 = Dut.clk s

attribute [simp] Dut.HoldsClock.clk_setClk Dut.HoldsClock.clk_setRstN Dut.HoldsClock.clk_setUartRx
  Dut.HoldsClock.clk_eval Dut.HoldsClock.clk_driveTap

/-- A sink that leaves what `view` shows of the device as it is. -/
class Sink.Keeps (κ : Type) {σ α : Type} [Sink κ σ] (view : σ → α) : Prop where
  dump_eq (k : κ) (tick : Tick) (s : σ) : view (Sink.dump k tick s).2.2 = view s
  close_eq (k : κ) (s : σ) : view (Sink.close k s).2.2 = view s

instance {σ α : Type} (view : σ → α) : Sink.Keeps Empty view where
  dump_eq k := nomatch k
  close_eq k := nomatch k

/-- A trace keeps what the tracer of the device and the attached sink both keep. -/
lemma TraceSink.keeps {κ σ α : Type} [Dut σ] [Sink κ σ] {view : σ → α} [Sink.Keeps κ view]
    (hdump : ∀ tick s, view (Dut.traceDump tick s).2 = view s)
    (hclose : ∀ s, view (Dut.traceClose s).2 = view s) : Sink.Keeps (TraceSink κ) view where
  dump_eq k tick s := by
    cases k with
    | vcd path sink => rfl
    | native => exact hdump tick s
    | custom sink => exact Sink.Keeps.dump_eq sink tick s
  close_eq k s := by
    cases k with
    | vcd path sink => rfl
    | native => exact hclose s
    | custom sink => exact Sink.Keeps.close_eq sink s

instance {κ σ : Type} [Dut σ] [Dut.HoldsClock σ] [Sink κ σ] [Sink.Keeps κ (Dut.clk (σ := σ))] :
    Sink.Keeps (TraceSink κ) (Dut.clk (σ := σ)) :=
  TraceSink.keeps Dut.HoldsClock.clk_traceDump Dut.HoldsClock.clk_traceClose

namespace Recorder

variable {κ σ α : Type} [Sink κ σ]

/-- What becomes of a sample that is sent to the sink: there is no tick left for it, the sink takes
it, or the sink fails.  The tick is used up in the last two cases. -/
lemma writeOne_cases (sink : κ) (tick : Tick) (samples : ℕ) (s : σ) :
    writeOne (⟨.active sink, tick, samples⟩, s)
        = .failed (.fault .addOverflow) (⟨.active sink, tick, samples⟩, s) ∨
      ∃ next : Tick, next.value.toNat = tick.value.toNat + 1 ∧
        ((∃ sink' s', Sink.dump sink tick s = .done (sink', s')
            ∧ writeOne (⟨.active sink, tick, samples⟩, s)
              = .done (⟨.active sink', next, samples + 1⟩, s')) ∨
          ∃ e sink' s', Sink.dump sink tick s = .failed e (sink', s')
            ∧ writeOne (⟨.active sink, tick, samples⟩, s)
              = .failed e (⟨.active sink', next, samples⟩, s')) := by
  rw [writeOne]
  rcases hadvance : tick.advance with f | ⟨issued, next⟩
  · left
    rw [Tick.advance] at hadvance
    split at hadvance
    · cases hadvance
    · cases hadvance
      rfl
  · right
    obtain ⟨rfl, hnext⟩ := Tick.advance_eq_ok hadvance
    refine ⟨next, hnext, ?_⟩
    rcases hdump : Sink.dump sink issued s with ⟨e | ok, sink', s'⟩
    · exact Or.inr ⟨e, sink', s', rfl, by simp only [hdump]⟩
    · exact Or.inl ⟨sink', s', rfl, by simp only [hdump]⟩

variable (view : σ → α) [Sink.Keeps κ view]

lemma view_writeOne (x : Recorder κ × σ) : view (writeOne x).2.2 = view x.2 := by
  obtain ⟨⟨slot, tick, samples⟩, s⟩ := x
  cases slot with
  | active sink =>
    have hkeeps : view (Sink.dump sink tick s).2.2 = view s := Sink.Keeps.dump_eq sink tick s
    rcases writeOne_cases sink tick samples s with
      hwrite | ⟨next, -, ⟨sink', s', hdump, hwrite⟩ | ⟨e, sink', s', hdump, hwrite⟩⟩
    · rw [hwrite]
      rfl
    · rw [hdump] at hkeeps
      rw [hwrite]
      exact hkeeps
    · rw [hdump] at hkeeps
      rw [hwrite]
      exact hkeeps
  | _ => rfl

lemma view_close (x : Recorder κ × σ) : view (close x).2.2 = view x.2 := by
  obtain ⟨⟨slot, tick, samples⟩, s⟩ := x
  cases slot with
  | active sink => exact Sink.Keeps.close_eq sink s
  | _ => rfl

variable [Dut σ]

lemma view_sampleOnce (x : Recorder κ × σ) : view (sampleOnce x).2.2 = view x.2 := by
  rw [sampleOnce]
  split
  · exact view_writeOne view x
  · rfl

lemma view_sampleTwice (x : Recorder κ × σ) : view (sampleTwice x).2.2 = view x.2 := by
  rw [sampleTwice]
  split
  · rcases (writeOne x).eq_done_or_failed with hfirst | ⟨e, hfirst⟩
    · rw [hfirst, Attempt.done_andThen, view_writeOne view, view_writeOne view]
    · rw [hfirst, Attempt.failed_andThen]
      exact view_writeOne view x
  · rfl

end Recorder

/-- Sinks of the kind `P` leave every device as it is, and they stay of that kind. -/
structure Sink.OnlyLook {κ : Type} (P : κ → Prop) (σ : Type) [Sink κ σ] : Prop where
  dump {k : κ} (h : P k) (tick : Tick) (s : σ) :
    ∃ outcome k', Sink.dump k tick s = (outcome, k', s) ∧ P k'
  close {k : κ} (h : P k) (s : σ) : ∃ outcome k', Sink.close k s = (outcome, k', s)

/-- Whatever the recorder still writes to is of the kind `P`. -/
def Recorder.WritesTo {κ : Type} (P : κ → Prop) (r : Recorder κ) : Prop :=
  ∀ sink, r.slot = .active sink → P sink

namespace Recorder

variable {κ σ : Type} [Sink κ σ] {P : κ → Prop} (hP : Sink.OnlyLook P σ) {r : Recorder κ}
include hP

lemma WritesTo.writeOne (h : r.WritesTo P) (s : σ) :
    ∃ outcome r', Recorder.writeOne (r, s) = (outcome, r', s) ∧ r'.WritesTo P := by
  obtain ⟨slot, tick, samples⟩ := r
  cases slot with
  | active sink =>
    obtain ⟨outcome, k', hlook, hk'⟩ := hP.dump (h sink rfl) tick s
    have hactive : ∀ next samples, WritesTo P ⟨.active k', next, samples⟩ := by
      rintro next samples _ ⟨⟩
      exact hk'
    rcases writeOne_cases sink tick samples s with
      hwrite | ⟨next, -, ⟨sink', s', hdump, hwrite⟩ | ⟨e, sink', s', hdump, hwrite⟩⟩
    · exact ⟨_, _, hwrite, h⟩
    · cases hlook.symm.trans hdump
      exact ⟨_, _, hwrite, hactive _ _⟩
    · cases hlook.symm.trans hdump
      exact ⟨_, _, hwrite, hactive _ _⟩
  | absent => exact ⟨_, _, rfl, h⟩
  | closed sink => exact ⟨_, _, rfl, h⟩

lemma WritesTo.close (h : r.WritesTo P) (s : σ) :
    ∃ outcome r', Recorder.close (r, s) = (outcome, r', s) := by
  obtain ⟨slot, tick, samples⟩ := r
  cases slot with
  | active sink =>
    obtain ⟨outcome, k', hclose⟩ := hP.close (h sink rfl) s
    exact ⟨outcome, _, by rw [Recorder.close, hclose]; rfl⟩
  | absent => exact ⟨_, _, rfl⟩
  | closed sink => exact ⟨_, _, rfl⟩

variable [Dut σ]

lemma WritesTo.sampleOnce (h : r.WritesTo P) (s : σ) :
    ∃ outcome r', Recorder.sampleOnce (r, s) = (outcome, r', s) ∧ r'.WritesTo P := by
  rw [Recorder.sampleOnce]
  split
  · exact h.writeOne hP s
  · exact ⟨_, _, rfl, h⟩

lemma WritesTo.sampleTwice (h : r.WritesTo P) (s : σ) :
    ∃ outcome r', Recorder.sampleTwice (r, s) = (outcome, r', s) ∧ r'.WritesTo P := by
  rw [Recorder.sampleTwice]
  split
  · obtain ⟨outcome, r', hwrite, hr'⟩ := h.writeOne hP s
    rw [hwrite]
    cases outcome with
    | ok => exact hr'.writeOne hP s
    | error e => exact ⟨_, _, rfl, hr'⟩
  · exact ⟨_, _, rfl, h⟩

end Recorder

/-! ## The line on its own -/

namespace SerialLine

/-- Lets the producer take some steps. -/
def produce (steps : ℕ) (line : SerialLine) : SerialLine :=
  { line with
    producer := (line.producer.advance steps line.queue).1
    queue := (line.producer.advance steps line.queue).2 }

/-- One tick of the encoder. -/
def tick (line : SerialLine) : SerialLine :=
  { line with
    encoder := (line.encoder.tickFrom line.queue).1
    queue := (line.encoder.tickFrom line.queue).2 }

/-- What a round of the main loop does to the line. -/
def round (steps : ℕ) (edge : Edge) (line : SerialLine) : SerialLine :=
  if edge = .rising then (line.produce steps).tick else line.produce steps

end SerialLine

/-- The edges in turn, the first of them rising. -/
def edgeAt (i : ℕ) : Edge :=
  if i % 2 = 0 then .rising else .falling

/-- The line after some rounds of a main loop that follows `before` toggles. -/
def SerialLine.after (pace : Pace) (before : ℕ) (line : SerialLine) : ℕ → SerialLine
  | 0 => line
  | i + 1 => (line.after pace before i).round (pace i) (edgeAt (before + i))

/-! ## What a toggle does to a bench -/

namespace Bench

variable {σ κ β : Type} [Dut σ] {b c found : Bench σ κ β} {phase : Phase} {edge : Edge} {steps : ℕ}

lemma toggle_edge (b : Bench σ κ β) :
    b.toggle.1 = if Dut.clk b.dut then .falling else .rising := by
  simp only [toggle, Clock.step]
  cases Dut.clk b.dut <;> rfl

lemma toggle_clock (b : Bench σ κ β) :
    b.toggle.2.clock
      = ⟨b.clock.toggles + 1, b.clock.risingEdges + if b.toggle.1 = .rising then 1 else 0⟩ := by
  rcases hclk : Dut.clk b.dut with _ | _ <;> simp [toggle, Clock.step, hclk]

lemma toggle_dut (b : Bench σ κ β) :
    b.toggle.2.dut = Dut.eval (Dut.setClk (!Dut.clk b.dut) b.dut) :=
  Clock.step_dut b.clock b.dut

lemma produce_toggle_edge (steps : ℕ) (b : Bench σ κ β) :
    (b.produce steps).toggle.1 = b.toggle.1 := by
  rw [produce]
  split <;> rfl

lemma produce_toggle (steps : ℕ) (b : Bench σ κ β) :
    (b.produce steps).toggle.2
      = { b.toggle.2 with line := b.line.map (SerialLine.produce steps) } := by
  obtain ⟨dut, clock, recorder, retired, line, bridge, resets, warmups, limit, phase⟩ := b
  cases line <;> rfl

lemma driveLine_eq_map (b : Bench σ κ β) :
    b.driveLine = { b with
      line := b.line.map SerialLine.tick
      dut := b.line.elim b.dut fun line => Dut.setUartRx line.tick.encoder.level b.dut } := by
  obtain ⟨dut, clock, recorder, retired, line, bridge, resets, warmups, limit, phase⟩ := b
  cases line <;> rfl

variable [Bridge β]

/-- The bridge can only drive the tap. -/
lemma driveTap_frame (b : Bench σ κ β) :
    ∃ bridge dut, b.driveTap = { b with bridge, dut }
      ∧ (dut = b.dut ∨ ∃ levels, dut = Dut.driveTap levels b.dut) := by
  obtain ⟨dut, clock, recorder, retired, line, bridge, resets, warmups, limit, phase⟩ := b
  cases bridge with
  | none => exact ⟨none, dut, rfl, Or.inl rfl⟩
  | some bridge => exact ⟨_, _, rfl, Or.inr ⟨_, rfl⟩⟩

/-- What a toggle in a phase does to the device, up to the samples: after the evaluation the main
loop sets the serial pin, if the clock rose and there is a line, and then drives the tap. -/
inductive Driven (phase : Phase) (edge : Edge) (line : Option SerialLine) (s : σ) : σ → Prop where
  | plain (hplain : phase = .running → edge = .rising → line = none) : Driven phase edge line s s
  | line {next : SerialLine} (hphase : phase = .running) (hedge : edge = .rising)
      (hline : line = some next) :
      Driven phase edge line s (Dut.setUartRx next.encoder.level s)
  | tap {s' : σ} (levels : TapLevels) (h : Driven phase edge line s s') :
      Driven phase edge line s (Dut.driveTap levels s')

/-- What a toggle in a phase does to a bench, up to the samples. -/
structure Passed (phase : Phase) (steps : ℕ) (b : Bench σ κ β) (edge : Edge)
    (found : Bench σ κ β) : Prop where
  edge_eq : edge = if Dut.clk b.dut then .falling else .rising
  clock_eq : found.clock
    = ⟨b.clock.toggles + 1, b.clock.risingEdges + if edge = .rising then 1 else 0⟩
  line_eq : found.line
    = if phase = .running then b.line.map (SerialLine.round steps edge) else b.line
  dut_driven : Driven phase edge found.line (Dut.eval (Dut.setClk (!Dut.clk b.dut) b.dut)) found.dut
  phase_eq : found.phase = if phase = .running then b.phase else phase
  recorder_eq : found.recorder = b.recorder
  retired_eq : found.retired = b.retired
  resetToggles_eq : found.resetToggles = b.resetToggles
  warmupToggles_eq : found.warmupToggles = b.warmupToggles
  limit_eq : found.limit = b.limit

lemma Passed.driveTap {b found : Bench σ κ β} (h : Passed phase steps b edge found) :
    Passed phase steps b edge found.driveTap := by
  obtain ⟨bridge, dut, hframe, hdut⟩ := found.driveTap_frame
  rw [hframe]
  refine ⟨h.edge_eq, h.clock_eq, h.line_eq, ?_, h.phase_eq, h.recorder_eq, h.retired_eq,
    h.resetToggles_eq, h.warmupToggles_eq, h.limit_eq⟩
  rcases hdut with rfl | ⟨levels, rfl⟩
  · exact h.dut_driven
  · exact .tap levels h.dut_driven

lemma pass_eq (steps : ℕ) (b : Bench σ κ β) :
    b.pass steps = (b.toggle.1, (if b.toggle.1 = .rising then
        (b.produce steps).toggle.2.driveLine else (b.produce steps).toggle.2).driveTap) := by
  rw [← produce_toggle_edge steps b, pass]
  generalize (b.produce steps).toggle = toggled
  rcases toggled with ⟨_ | _, c⟩ <;> rfl

/-- What a toggle does before samples are taken. -/
lemma passed_passIn (hpass : b.passIn phase steps = (edge, found)) :
    Passed phase steps b edge found := by
  have hclock := b.toggle_clock
  have hedge := b.toggle_edge
  have hdut := b.toggle_dut
  by_cases hphase : phase = .running
  · rw [passIn, if_pos hphase, pass_eq, Prod.mk.injEq] at hpass
    obtain ⟨rfl, rfl⟩ := hpass
    apply Passed.driveTap
    subst hphase
    rw [produce_toggle]
    split
    case isTrue hrising =>
      rw [hrising] at hedge hclock ⊢
      rw [driveLine_eq_map]
      refine ⟨hedge, hclock, ?_, ?_, rfl, rfl, rfl, rfl, rfl, rfl⟩
      · cases b.line <;> rfl
      · rw [← hdut]
        cases hline : b.line with
        | none => exact .plain fun _ _ => rfl
        | some line => exact .line rfl rfl rfl
    case isFalse hfalling =>
      refine ⟨hedge, hclock, ?_, ?_, rfl, rfl, rfl, rfl, rfl, rfl⟩
      · simp only [if_true]
        congr 1
        funext line
        rw [SerialLine.round, if_neg hfalling]
      · rw [← hdut]
        exact .plain fun _ hrising => absurd hrising hfalling
  · rw [passIn, if_neg hphase, holdToggle, Prod.mk.injEq] at hpass
    obtain ⟨rfl, rfl⟩ := hpass
    refine ⟨hedge, hclock, (if_neg hphase).symm, ?_, (if_neg hphase).symm, rfl, rfl, rfl, rfl, rfl⟩
    rw [← hdut]
    exact .plain fun hrunning => absurd hrunning hphase

variable [Sink κ σ]

omit [Bridge β] in
lemma sample_eq_done {b c : Bench σ κ β} (hsample : b.sample = .done c) :
    ∃ recorder dut, Recorder.sampleTwice (b.recorder, b.dut) = .done (recorder, dut)
      ∧ c = { b with recorder, dut } := by
  obtain ⟨⟨recorder, dut⟩, hwritten, rfl⟩ := Attempt.map_eq_done.mp hsample
  exact ⟨recorder, dut, hwritten, rfl⟩

omit [Bridge β] in
lemma sampleStart_eq_done {b c : Bench σ κ β} (hsample : b.sampleStart = .done c) :
    ∃ recorder dut, Recorder.sampleOnce (b.recorder, b.dut) = .done (recorder, dut)
      ∧ c = { b with recorder, dut } := by
  obtain ⟨⟨recorder, dut⟩, hwritten, rfl⟩ := Attempt.map_eq_done.mp hsample
  exact ⟨recorder, dut, hwritten, rfl⟩

omit [Bridge β] in
lemma view_sample {α : Type} (view : σ → α) [Sink.Keeps κ view] {x : Attempt (Bench σ κ β)}
    (hsample : b.sample = x) : view x.2.dut = view b.dut := by
  rw [← hsample]
  exact Recorder.view_sampleTwice view (b.recorder, b.dut)

omit [Bridge β] in
lemma view_sampleStart {α : Type} (view : σ → α) [Sink.Keeps κ view] {x : Attempt (Bench σ κ β)}
    (hsample : b.sampleStart = x) : view x.2.dut = view b.dut := by
  rw [← hsample]
  exact Recorder.view_sampleOnce view (b.recorder, b.dut)

omit [Dut σ] [Bridge β] in
lemma view_closeRecorder {α : Type} (view : σ → α) [Sink.Keeps κ view]
    {x : Attempt (Bench σ κ β)} (hclose : b.closeRecorder = x) : view x.2.dut = view b.dut := by
  rw [← hclose]
  exact Recorder.view_close view (b.recorder, b.dut)

/-! ## Along the course of a run -/

variable {pace : Pace} {h : History σ κ β}

/-- A run leaves the settings of the bench and its replaced recorders alone. -/
lemma Course.settings_eq (hc : Course pace b phase h c) :
    c.resetToggles = b.resetToggles ∧ c.warmupToggles = b.warmupToggles ∧ c.limit = b.limit
      ∧ c.retired = b.retired := by
  induction hc with
  | powered hsample =>
    obtain ⟨recorder, dut, -, rfl⟩ := sampleStart_eq_done hsample
    exact ⟨rfl, rfl, rfl, rfl⟩
  | released _ _ ih => exact ih
  | started _ _ ih => exact ih
  | toggled _ _ hpass hsample ih =>
    have hpassed := passed_passIn hpass
    obtain ⟨recorder, dut, -, rfl⟩ := sample_eq_done hsample
    exact ⟨hpassed.resetToggles_eq.trans ih.1, hpassed.warmupToggles_eq.trans ih.2.1,
      hpassed.limit_eq.trans ih.2.2.1, hpassed.retired_eq.trans ih.2.2.2⟩

/-- How many toggles there were before the phase. -/
def togglesBefore (b : Bench σ κ β) : Phase → ℕ
  | .resetting => 0
  | .warmingUp => b.resetToggles
  | _ => b.resetToggles + b.warmupToggles

/-- The toggles so far are those of the phases before this one and those of this one. -/
lemma Course.length_eq (hc : Course pace b phase h c) :
    h.length = b.togglesBefore phase + h.inPhase phase := by
  induction hc with
  | powered => rfl
  | released hc hall ih =>
    rw [ih, hall, hc.settings_eq.1, hc.inPhase_warmingUp]
    simp [togglesBefore]
  | started hc hall ih =>
    rw [ih, hall, hc.settings_eq.2.1, hc.inPhase_running (by simp)]
    rfl
  | toggled _ _ _ _ ih => simp [ih, Nat.add_assoc]

/-- The phases of a course are those before the end of the run. -/
lemma Course.phase_ne_finished (hc : Course pace b phase h c) : phase ≠ .finished := by
  induction hc with
  | toggled _ _ _ _ ih => exact ih
  | _ => simp

/-- In the main loop the bench knows that it is there. -/
lemma Course.phase_eq_running (hc : Course pace b .running h c) : c.phase = .running := by
  generalize hphase : Phase.running = phase at hc
  induction hc with
  | powered => cases hphase
  | released => cases hphase
  | started => rfl
  | toggled _ _ hpass hsample ih =>
    subst hphase
    obtain ⟨recorder, dut, -, rfl⟩ := sample_eq_done hsample
    exact (passed_passIn hpass).phase_eq.trans (by rw [if_pos rfl, ih rfl])

/-- The recorder finds the bench in the phase to which the toggle belongs. -/
lemma Course.found_phase (hc : Course pace b phase h c)
    (hpass : c.passIn phase steps = (edge, found)) : found.phase = phase := by
  rw [(passed_passIn hpass).phase_eq]
  split
  case isTrue hphase =>
    subst hphase
    exact hc.phase_eq_running
  case isFalse => rfl

/-- The clock counts the toggles of the course and its rising edges. -/
lemma Course.clock_eq (hc : Course pace b phase h c) :
    c.clock = ⟨b.clock.toggles + h.length,
      b.clock.risingEdges + h.countP (·.edge = .rising)⟩ := by
  induction hc with
  | powered hsample =>
    obtain ⟨recorder, dut, -, rfl⟩ := sampleStart_eq_done hsample
    rfl
  | released _ _ ih => exact ih
  | started _ _ ih => exact ih
  | toggled _ _ hpass hsample ih =>
    obtain ⟨recorder, dut, -, rfl⟩ := sample_eq_done hsample
    refine (passed_passIn hpass).clock_eq.trans ?_
    simp [ih, List.countP_append, List.countP_cons, Nat.add_assoc]

section Alternation

variable [Dut.HoldsClock σ] [Sink.Keeps κ (Dut.clk (σ := σ))]

omit [Sink κ σ] [Bridge β] [Sink.Keeps κ (Dut.clk (σ := σ))] in
lemma Driven.clk_eq {line : Option SerialLine} {s s' : σ} (h : Driven phase edge line s s') :
    Dut.clk s' = Dut.clk s := by
  induction h with
  | plain => rfl
  | line => simp
  | tap levels _ ih => simpa using ih

/-- The clock pin shows whether the number of toggles is odd. -/
lemma Course.clk_eq (hc : Course pace b phase h c) :
    Dut.clk c.dut = decide (h.length % 2 = 1) := by
  induction hc with
  | powered hsample =>
    have hlow : Dut.clk b.poweredOn.dut = false := by simp [poweredOn, powerOn]
    simpa [hlow, Attempt.done] using view_sampleStart Dut.clk hsample
  | released _ _ ih => simpa using ih
  | started _ _ ih => simpa using ih
  | @toggled _ h c _ found _ _ _ hpass hsample ih =>
    have hfound : Dut.clk found.dut = !Dut.clk c.dut := by
      simpa using (passed_passIn hpass).dut_driven.clk_eq
    refine (view_sample Dut.clk hsample).trans ?_
    rw [hfound, ih, List.length_append, List.length_singleton]
    rcases Nat.mod_two_eq_zero_or_one h.length with hparity | hparity <;>
      simp [Nat.add_mod, hparity]

/-- The toggles of a course are rising and falling edges in turn. -/
lemma Course.edge_eq (hc : Course pace b phase h c) (hpass : c.passIn phase steps = (edge, found)) :
    edge = edgeAt h.length := by
  rw [(passed_passIn hpass).edge_eq, hc.clk_eq, edgeAt]
  rcases Nat.mod_two_eq_zero_or_one h.length with hparity | hparity <;> simp [hparity]

lemma edgeAt_eq_rising (i : ℕ) : edgeAt i = .rising ↔ i % 2 = 0 := by
  simp [edgeAt]

/-- The clock has risen on every other toggle, from the first one on. -/
lemma Course.rises_eq (hc : Course pace b phase h c) :
    h.countP (·.edge = .rising) = (h.length + 1) / 2 := by
  induction hc with
  | powered => simp
  | released _ _ ih => exact ih
  | started _ _ ih => exact ih
  | toggled hc _ hpass _ ih =>
    rw [List.countP_append, ih, hc.edge_eq hpass]
    simp only [List.countP_cons, List.countP_nil, edgeAt_eq_rising, List.length_append,
      List.length_singleton, decide_eq_true_eq]
    split <;> omega

/-- The edges of the main loop are those that came after the launch. -/
lemma Course.edges_eq (hc : Course pace b .running h c) :
    h.edges + (b.resetToggles + b.warmupToggles + 1) / 2 = (h.length + 1) / 2 := by
  generalize hphase : Phase.running = phase at hc
  induction hc with
  | powered => cases hphase
  | released => cases hphase
  | @started h c hc hall _ =>
    have hnone : h.edges = 0 :=
      Nat.eq_zero_of_le_zero (hc.inPhase_running (by simp) ▸ h.edges_le)
    have hlength : h.length = b.resetToggles + b.warmupToggles := by
      rw [hc.length_eq, hall, hc.settings_eq.2.1]
      rfl
    rw [hnone, hlength, Nat.zero_add]
  | toggled hc _ hpass _ ih =>
    have ih := ih hphase
    rw [History.edges_append, hc.edge_eq hpass]
    simp only [← hphase, edgeAt_eq_rising, true_and, List.length_append, List.length_singleton]
    split <;> omega

/-- What a toggle does to a line that has gone through the rounds so far. -/
lemma Course.found_line (hc : Course pace b phase h c)
    (hpass : c.passIn phase (pace (h.inPhase .running)) = (edge, found))
    (hline : c.line = b.line.map fun line =>
      line.after pace (b.resetToggles + b.warmupToggles) (h.inPhase .running)) :
    found.line = b.line.map fun line => line.after pace (b.resetToggles + b.warmupToggles)
      (h.inPhase .running + if phase = .running then 1 else 0) := by
  rw [(passed_passIn hpass).line_eq, hline]
  by_cases hphase : phase = .running
  · subst hphase
    have hedge : edge = edgeAt (b.resetToggles + b.warmupToggles + h.inPhase .running) := by
      rw [hc.edge_eq hpass, hc.length_eq]
      rfl
    rw [if_pos rfl, hedge]
    cases b.line <;> simp [SerialLine.after]
  · simp [hphase]

/-- The line of a bench has gone through the rounds of its main loop, and nothing else. -/
lemma Course.line_eq (hc : Course pace b phase h c) :
    c.line = b.line.map fun line =>
      line.after pace (b.resetToggles + b.warmupToggles) (h.inPhase .running) := by
  have hid : b.line = b.line.map fun line =>
      line.after pace (b.resetToggles + b.warmupToggles) 0 := by
    cases b.line <;> rfl
  induction hc with
  | powered hsample =>
    obtain ⟨recorder, dut, -, rfl⟩ := sampleStart_eq_done hsample
    exact hid
  | released _ _ ih => exact ih
  | started _ _ ih => exact ih
  | @toggled phase h c _ found edge hc _ hpass hsample ih =>
    obtain ⟨recorder, dut, -, rfl⟩ := sample_eq_done hsample
    have hfound := hc.found_line hpass ih
    rw [History.inPhase_append]
    exact hfound

end Alternation

end Bench

end SocBench
