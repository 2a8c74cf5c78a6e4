import SocBench.Proofs.ClockAlternation
import SocBench.Proofs.SocEdges

/-!
# The reference system on a bench

What a round of the main loop does to the reference system and its serial line.  The bench comes
with recorders and bridges, but neither gets in the way: the recorders that a bench makes for itself
only look at the device (`Recorder.BuiltIn`), and a bridge only moves the pins of the tap.

`Bench.OnLine` is a bench with the system out of reset and a line into it.  Main results: a round of
it is a tick of the line and an edge of the reception (`Bench.OnLine.round_rising`), or, when the
clock falls, nothing at all (`Bench.OnLine.round_falling`), and that is how every launch leaves a
new system, whatever the number of toggles it is held in reset (`Bench.onLine_launch`).
-/

namespace SocBench

variable {κ β : Type} [Sink κ Soc]

/-! ## Recorders that only look -/

/-- The sinks a bench makes for itself. -/
def TraceSink.IsBuiltIn : TraceSink κ → Prop
  | .custom _ => False
  | _ => True

/-- Whatever the recorder still writes to was made by a bench. -/
def Recorder.BuiltIn (r : Recorder (TraceSink κ)) : Prop :=
  ∀ sink, r.slot = .active sink → sink.IsBuiltIn

/-- They only look, because the reference system has no tracer of its own. -/
lemma TraceSink.onlyLook_isBuiltIn : Sink.OnlyLook (TraceSink.IsBuiltIn (κ := κ)) Soc where
  dump {k} h tick s := by
    cases k with
    | vcd path sink => exact ⟨_, _, rfl, trivial⟩
    | native => exact ⟨_, _, rfl, trivial⟩
    | custom sink => exact h.elim
  close {k} h s := by
    cases k with
    | vcd path sink => exact ⟨_, _, rfl⟩
    | native => exact ⟨_, _, rfl⟩
    | custom sink => exact h.elim

omit [Sink κ Soc] in
/-- For the same reason, what is started is a file. -/
lemma TraceSink.start_eq_ok {trace : TraceSettings} {host host' : Host} {s s' : Soc}
    {k : TraceSink κ} (h : TraceSink.start trace host s = (.ok k, host', s')) :
    k.IsBuiltIn ∧ s' = s := by
  rw [TraceSink.start] at h
  cases hformat : trace.format with
  | vcd =>
    simp only [hformat] at h
    split at h
    case h_1 => cases h; exact ⟨trivial, rfl⟩
    case h_2 => cases h
  | native =>
    simp only [hformat] at h
    cases h

namespace Recorder

variable {r : Recorder (TraceSink κ)}

omit [Sink κ Soc] in
lemma builtIn_disabled : (disabled : Recorder (TraceSink κ)).BuiltIn := by
  intro sink h
  cases h

omit [Sink κ Soc] in
lemma builtIn_ofSink {k : TraceSink κ} (h : k.IsBuiltIn) : (ofSink k).BuiltIn := by
  rintro sink ⟨⟩
  exact h

lemma BuiltIn.sampleOnce (h : r.BuiltIn) (s : Soc) :
    ∃ outcome r', Recorder.sampleOnce (r, s) = (outcome, r', s) ∧ r'.BuiltIn :=
  WritesTo.sampleOnce TraceSink.onlyLook_isBuiltIn h s

lemma BuiltIn.sampleTwice (h : r.BuiltIn) (s : Soc) :
    ∃ outcome r', Recorder.sampleTwice (r, s) = (outcome, r', s) ∧ r'.BuiltIn :=
  WritesTo.sampleTwice TraceSink.onlyLook_isBuiltIn h s

lemma BuiltIn.close (h : r.BuiltIn) (s : Soc) :
    ∃ outcome r', Recorder.close (r, s) = (outcome, r', s) :=
  WritesTo.close TraceSink.onlyLook_isBuiltIn h s

end Recorder

/-! ## Rounds -/

namespace Bench

/-- A bench with the system out of reset and a line into it, between two toggles of the clock. -/
structure OnLine (settings : SocSettings) (b : Bench Soc (TraceSink κ) β) (line : SerialLine) :
    Prop where
  line_eq : b.line = some line
  builtIn : b.recorder.BuiltIn
  poised : b.dut.Poised settings
  released : b.dut.rstN = true

variable {settings : SocSettings} {b b' : Bench Soc (TraceSink κ) β} {line : SerialLine}

omit [Sink κ Soc] in
/-- What arrives at the queue does not touch the system. -/
lemma OnLine.arrive (h : b.OnLine settings line) (line' : SerialLine) :
    ({ b with line := some line' } : Bench Soc (TraceSink κ) β).OnLine settings line' :=
  ⟨rfl, h.builtIn, h.poised, h.released⟩

omit [Sink κ Soc] in
/-- A bridge only moves the pins of the tap. -/
lemma driveTap_eq [Bridge β] (b : Bench Soc (TraceSink κ) β) :
    ∃ bridge tap, b.driveTap = { b with bridge, dut := { b.dut with tap } } := by
  rw [driveTap]
  split
  case h_1 => exact ⟨b.bridge, b.dut.tap, rfl⟩
  case h_2 bridge _ => exact ⟨_, _, rfl⟩

lemma sample_eq (h : b.recorder.BuiltIn) :
    ∃ outcome recorder, b.sample = (outcome, { b with recorder }) ∧ recorder.BuiltIn := by
  obtain ⟨outcome, recorder, hsample, hbuiltIn⟩ := h.sampleTwice b.dut
  exact ⟨outcome, recorder, by rw [sample, hsample]; rfl, hbuiltIn⟩

lemma closeRecorder_eq (h : b.recorder.BuiltIn) (hclose : b.closeRecorder = .done b') :
    ∃ recorder, b' = { b with recorder } := by
  obtain ⟨outcome, recorder, hclosed⟩ := h.close b.dut
  rw [closeRecorder, hclosed] at hclose
  cases hclose
  exact ⟨recorder, rfl⟩

/-- The end of every round: the bridge is called and samples are taken. -/
lemma driveTap_sample [Bridge β] (h : b.recorder.BuiltIn) :
    ∃ outcome bridge tap recorder,
      b.driveTap.sample = (outcome, { b with bridge, dut := { b.dut with tap }, recorder })
        ∧ recorder.BuiltIn := by
  obtain ⟨bridge, tap, hdrive⟩ := b.driveTap_eq
  have hdriven : b.driveTap.recorder.BuiltIn := by
    rw [hdrive]
    exact h
  obtain ⟨outcome, recorder, hsample, hbuiltIn⟩ := sample_eq hdriven
  exact ⟨outcome, bridge, tap, recorder, by rw [hsample, hdrive], hbuiltIn⟩

omit [Sink κ Soc] in
lemma toggle_of_low (hclk : b.dut.clk = false) :
    b.toggle = (.rising, { b with
      clock := ⟨b.clock.toggles + 1, b.clock.risingEdges + 1⟩
      dut := Soc.eval { b.dut with clk := true } }) := by
  have hlevel : (!Dut.clk b.dut) = true := by
    rw [Bool.not_eq_true']
    exact hclk
  simp only [toggle, Clock.step, hlevel, if_true]
  rfl

omit [Sink κ Soc] in
lemma toggle_of_high (hclk : b.dut.clk = true) :
    b.toggle = (.falling, { b with
      clock := { b.clock with toggles := b.clock.toggles + 1 }
      dut := Soc.eval { b.dut with clk := false } }) := by
  have hlevel : (!Dut.clk b.dut) = false := by
    rw [Bool.not_eq_false']
    exact hclk
  simp only [toggle, Clock.step, hlevel, Bool.false_eq_true, if_false]
  rfl

omit [Sink κ Soc] in
lemma driveLine_eq (hline : b.line = some line) :
    b.driveLine = { b with
      line := some { line with
        encoder := (line.encoder.tickFrom line.queue).1
        queue := (line.encoder.tickFrom line.queue).2 }
      dut := { b.dut with uartRx := (line.encoder.tickFrom line.queue).1.level } } := by
  rw [driveLine, hline]
  rfl

variable [Bridge β]

/-- A round with a rising clock: the system sees the level that the line has shown, and then the
line moves on by one tick. -/
lemma OnLine.round_rising (h : b.OnLine settings line) (hclk : b.dut.clk = false) :
    ∃ outcome b', b.round 0 = (.rising, outcome, b')
      ∧ b'.OnLine settings { line with
          encoder := (line.encoder.tickFrom line.queue).1
          queue := (line.encoder.tickFrom line.queue).2 }
      ∧ b'.dut.view = {
          clk := true
          rstN := true
          uartRx := (line.encoder.tickFrom line.queue).1.level
          reception := b.dut.reception.edge (Soc.divisorFor settings) settings.terminator
            b.dut.uartRx }
      ∧ b'.limit = b.limit := by
  obtain ⟨hpoised, hview⟩ := h.poised.rise hclk h.released
  obtain ⟨s, hs⟩ : ∃ s, Soc.eval { b.dut with clk := true } = s := ⟨_, rfl⟩
  rw [hs] at hpoised hview
  obtain ⟨t, ht, htoggle⟩ : ∃ t, ({ b with
      clock := ⟨b.clock.toggles + 1, b.clock.risingEdges + 1⟩, dut := s } :
      Bench Soc (TraceSink κ) β) = t ∧ b.toggle = (.rising, t) :=
    ⟨_, rfl, by rw [toggle_of_low hclk, hs]⟩
  have hline : t.line = some line := by
    rw [← ht]
    exact h.line_eq
  have hbuiltIn : t.driveLine.recorder.BuiltIn := by
    rw [driveLine_eq hline, ← ht]
    exact h.builtIn
  obtain ⟨outcome, bridge, tap, recorder, hsample, hrecorder⟩ := driveTap_sample hbuiltIn
  refine ⟨outcome, _, by rw [round, produce_zero, htoggle, ← hsample], ?_⟩
  rw [driveLine_eq hline, ← ht]
  refine ⟨⟨rfl, hrecorder, hpoised.withPins _ _ _, ?_⟩, ?_, rfl⟩
  · exact (congrArg Soc.View.rstN hview).trans h.released
  · show ({ s.view with uartRx := _ } : Soc.View) = _
    rw [hview]
    simp only [Soc.view, h.released]

/-- A round with a falling clock: nothing happens. -/
lemma OnLine.round_falling (h : b.OnLine settings line) (hclk : b.dut.clk = true) :
    ∃ outcome b', b.round 0 = (.falling, outcome, b') ∧ b'.OnLine settings line
      ∧ b'.dut.view = { b.dut.view with clk := false } ∧ b'.limit = b.limit := by
  obtain ⟨hpoised, hview⟩ := h.poised.fall
  obtain ⟨s, hs⟩ : ∃ s, Soc.eval { b.dut with clk := false } = s := ⟨_, rfl⟩
  rw [hs] at hpoised hview
  obtain ⟨t, ht, htoggle⟩ : ∃ t, ({ b with
      clock := { b.clock with toggles := b.clock.toggles + 1 }, dut := s } :
      Bench Soc (TraceSink κ) β) = t ∧ b.toggle = (.falling, t) :=
    ⟨_, rfl, by rw [toggle_of_high hclk, hs]⟩
  have hbuiltIn : t.recorder.BuiltIn := by
    rw [← ht]
    exact h.builtIn
  obtain ⟨outcome, bridge, tap, recorder, hsample, hrecorder⟩ := driveTap_sample hbuiltIn
  refine ⟨outcome, _, by rw [round, produce_zero, htoggle, ← hsample], ?_⟩
  rw [← ht]
  refine ⟨⟨h.line_eq, hrecorder, hpoised.withPins _ _ _, ?_⟩, hview, rfl⟩
  exact (congrArg Soc.View.rstN hview).trans h.released

end Bench

/-! ## Launch -/

/-- Nothing has come over the line. -/
def Reception.nothing : Reception :=
  ⟨.idle, [], 0, false⟩

lemma Reception.edge_high {x : Reception} (hidle : x.receiver = .idle) (divisor : ℕ)
    (terminator : Option UInt8) : x.edge divisor terminator true = x := by
  have hstep : x.receiver.stepFor divisor true = (x.receiver, none) := by
    rw [hidle, Receiver.stepFor]
    split <;> rfl
  rw [edge, hstep]

namespace Soc

/-- The line is high and nothing has come over it; `level` is the reset pin. -/
structure Resting (settings : SocSettings) (level : Bool) (s : Soc) : Prop where
  poised : s.Poised settings
  rstN_eq : s.rstN = level
  uartRx_eq : s.uartRx = true
  reception_eq : s.reception = .nothing

variable {settings : SocSettings} {level : Bool} {s : Soc}

lemma resting_of_view (clk : Bool) (hpoised : s.Poised settings)
    (hview : s.view = ⟨clk, level, true, .nothing⟩) : s.Resting settings level :=
  ⟨hpoised, congrArg View.rstN hview, congrArg View.uartRx hview, congrArg View.reception hview⟩

lemma Resting.view_eq (h : s.Resting settings level) : s.view = ⟨s.clk, level, true, .nothing⟩ := by
  rw [view, h.rstN_eq, h.uartRx_eq, h.reception_eq]

/-- Any toggle keeps it so, in reset or out of it. -/
lemma Resting.toggle (h : s.Resting settings level) :
    (Soc.eval { s with clk := !s.clk }).Resting settings level := by
  cases hclk : s.clk with
  | true =>
    obtain ⟨hpoised, hview⟩ := h.poised.fall
    refine resting_of_view false hpoised (hview.trans ?_)
    rw [h.view_eq]
  | false =>
    cases level with
    | true =>
      obtain ⟨hpoised, hview⟩ := h.poised.rise hclk h.rstN_eq
      refine resting_of_view true hpoised (hview.trans ?_)
      rw [h.view_eq, h.uartRx_eq, h.reception_eq, Reception.edge_high rfl]
    | false =>
      obtain ⟨hpoised, hview⟩ := h.poised.rise_reset hclk h.rstN_eq
      refine resting_of_view true hpoised (hview.trans ?_)
      rw [h.view_eq, h.reception_eq]
      rfl

/-- The reset pin takes effect at the next edge only. -/
lemma Resting.withReset (h : s.Resting settings level) (level' : Bool) :
    ({ s with rstN := level' } : Soc).Resting settings level' :=
  ⟨h.poised.withPins level' s.uartRx s.tap, rfl, h.uartRx_eq, h.reception_eq⟩

lemma Resting.withLine (h : s.Resting settings level) :
    ({ s with uartRx := true } : Soc).Resting settings level :=
  ⟨h.poised.withPins s.rstN true s.tap, h.rstN_eq, rfl, h.reception_eq⟩

lemma Resting.eval (h : s.Resting settings level) : s.eval.Resting settings level := by
  obtain ⟨hpoised, hview⟩ := h.poised.eval
  exact resting_of_view s.clk hpoised (hview.trans h.view_eq)

/-- A new system after power-on. -/
lemma resting_powerOn (settings : SocSettings) :
    (powerOn (new settings)).Resting settings false := by
  obtain ⟨hpoised, hview⟩ := (poised_new settings).eval
  exact resting_of_view false hpoised hview

end Soc

namespace Bench

variable {settings : SocSettings} {b start : Bench Soc (TraceSink κ) β} {line : SerialLine}

/-- A launch leaves a new system out of reset with the line high, having received nothing. -/
lemma onLine_launch (hdut : b.dut = Soc.new settings) (hline : b.line = some line)
    (hbuiltIn : b.recorder.BuiltIn) (hlaunch : b.launch = .done start) :
    start.OnLine settings line ∧ start.dut.Resting settings true ∧ start.limit = b.limit := by
  obtain ⟨recorder, dut, clock, dut', recorder', phase', hsample, hreset, rfl⟩ :=
    launch_eq_done_iff.mp hlaunch
  rw [hdut] at hsample
  obtain ⟨outcome, on, hon, hrecorder⟩ := hbuiltIn.sampleOnce (powerOn (Soc.new settings))
  rw [hon] at hsample
  cases hsample
  -- in reset and during warm-up alike the recorder looks and the system rests
  let Rests (level : Bool) (x : Soc × Recorder (TraceSink κ) × Phase) : Prop :=
    x.1.Resting settings level ∧ x.2.1.BuiltIn
  have htoggle (level : Bool) : ∀ s r, Rests level (s, r) →
      Rests level (Dut.eval (Dut.setClk (!Dut.clk s) s), r) :=
    fun s r h => ⟨h.1.toggle, h.2⟩
  have hwatch (level : Bool) : ∀ phase x, Rests level x → Rests level (watchReset phase x).2 := by
    rintro phase ⟨s, recorder, last⟩ ⟨hrests, hbuiltIn⟩
    obtain ⟨outcome, recorder', hsample, hbuiltIn'⟩ := hbuiltIn.sampleTwice s
    rw [watchReset, hsample]
    exact ⟨hrests, hbuiltIn'⟩
  have hreleased : ∀ s r, Rests false (s, r) → Rests true (Dut.eval (Dut.setRstN true s), r) :=
    fun s r h => ⟨(h.1.withReset true).eval, h.2⟩
  obtain ⟨hrests, hbuiltIn'⟩ : Rests true (dut', recorder', phase') :=
    Clock.resetSequence_invariant (htoggle false) (htoggle true) (hwatch false) (hwatch true)
      hreleased ⟨(Soc.resting_powerOn settings).withReset false, hrecorder⟩ hreset
  exact ⟨⟨hline, hbuiltIn', hrests.withLine.poised, hrests.rstN_eq⟩, hrests.withLine, rfl⟩

omit [Sink κ Soc] in
/-- A bench for the reference system and a queue: the parts it is made of.  It is only refused for
its rates or its trace. -/
lemma create_eq_ok {bench : BenchSettings} {queue : ByteQueue} {producer : Producer}
    {host host' : Host} {dut : Soc}
    (h : create bench (some queue) producer host dut = (.ok b, host')) :
    ∃ period recorder, BitPeriod.ofRates bench.clock bench.baud = .ok period ∧ recorder.BuiltIn
      ∧ b = assemble bench (some { encoder := { period }, queue, producer }) recorder dut := by
  rw [create, lineFor] at h
  cases hperiod : BitPeriod.ofRates bench.clock bench.baud with
  | error e =>
    rw [hperiod] at h
    cases h
  | ok period =>
    rw [hperiod] at h
    cases htrace : bench.trace with
    | none =>
      rw [htrace] at h
      cases h
      exact ⟨period, .disabled, rfl, Recorder.builtIn_disabled, rfl⟩
    | some trace =>
      rw [htrace] at h
      simp only [Except.map] at h
      split at h
      case h_1 sink host'' dut' hstart =>
        obtain ⟨hbuiltIn, rfl⟩ := TraceSink.start_eq_ok hstart
        cases h
        exact ⟨period, .ofSink sink, rfl, Recorder.builtIn_ofSink hbuiltIn, rfl⟩
      case h_2 => cases h

omit [Sink κ Soc] in
/-- Without a trace only the rates count. -/
lemma create_untraced {bench : BenchSettings} {period : BitPeriod}
    (hperiod : BitPeriod.ofRates bench.clock bench.baud = .ok period) (htrace : bench.trace = none)
    (queue : ByteQueue) (producer : Producer) (host : Host) (dut : Soc) :
    (create bench (some queue) producer host dut :
        Except (BenchError × Soc) (Bench Soc (TraceSink κ) β) × Host)
      = (.ok (assemble bench (some { encoder := { period }, queue, producer }) .disabled dut),
          host) := by
  rw [create, lineFor, hperiod, htrace]
  rfl

end Bench

end SocBench
