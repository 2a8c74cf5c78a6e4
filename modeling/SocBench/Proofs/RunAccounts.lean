import SocBench.Bench.Session
import SocBench.Proofs.ClockAlternation
import SocBench.Sample.Counter
import SocBench.Sample.LogSink

/-!
# The account of a run

The summary of a run is put together from counters that four parts of the bench keep: the clock
counts toggles, the recorder samples, the encoder frames, and the main loop its rising edges.  Here
they are all read off the course of the run.  What it takes is one lemma for each counter that says
what a toggle adds to it; the rest is arithmetic of alternating edges.

The main result is `Bench.summary_accounts`, for every bench as it is set up and every device that
holds its clock.
-/

namespace SocBench

/-! ## The recorder -/

namespace Recorder

variable {κ σ : Type}

/-- A recorder that has not been used yet. -/
def IsNew (r : Recorder κ) : Prop :=
  r = .disabled ∨ ∃ sink, r = .ofSink sink

/-- The sink has taken this many samples, and that is also the number of the next one. -/
structure Counts (r : Recorder κ) (n : ℕ) : Prop where
  samples_eq : r.samples = n
  tick_eq : r.tick.value.toNat = n

lemma IsNew.counts {r : Recorder κ} (h : r.IsNew) : r.Counts 0 := by
  rcases h with rfl | ⟨sink, rfl⟩ <;> exact ⟨rfl, rfl⟩

variable [Sink κ σ] {r r' : Recorder κ} {s s' : σ} {n : ℕ}

/-- A sample that the sink takes is counted. -/
lemma Counts.writeOne (h : r.Counts n) (henabled : r.isEnabled = true)
    (hwrite : writeOne (r, s) = .done (r', s')) : r'.Counts (n + 1) ∧ r'.isEnabled = true := by
  obtain ⟨slot, tick, samples⟩ := r
  cases slot with
  | active sink =>
    rcases writeOne_cases sink tick samples s with
      hcase | ⟨next, hnext, ⟨sink', s', -, hcase⟩ | ⟨e, sink', s', -, hcase⟩⟩
    · rw [hcase] at hwrite
      cases hwrite
    · rw [hcase] at hwrite
      cases hwrite
      exact ⟨⟨congrArg (· + 1) h.samples_eq, hnext.trans (congrArg (· + 1) h.tick_eq)⟩, rfl⟩
    · rw [hcase] at hwrite
      cases hwrite
  | _ => cases henabled

variable [Dut σ]

lemma Counts.sampleOnce (h : r.Counts n) (hsample : sampleOnce (r, s) = .done (r', s')) :
    r'.Counts (n + if r.wants s then 1 else 0) := by
  rw [Recorder.sampleOnce] at hsample
  split at hsample
  case isTrue hwants =>
    rw [if_pos hwants]
    exact (h.writeOne (Bool.and_eq_true_iff.mp hwants).1 hsample).1
  case isFalse hwants =>
    cases hsample
    rwa [if_neg hwants]

lemma Counts.sampleTwice (h : r.Counts n) (hsample : sampleTwice (r, s) = .done (r', s')) :
    r'.Counts (n + 2 * if r.wants s then 1 else 0) := by
  rw [Recorder.sampleTwice] at hsample
  split at hsample
  case isTrue hwants =>
    rw [if_pos hwants]
    obtain ⟨⟨between, t⟩, hfirst, hsecond⟩ := Attempt.andThen_eq_done.mp hsample
    obtain ⟨hcounts, henabled⟩ := h.writeOne (Bool.and_eq_true_iff.mp hwants).1 hfirst
    exact (hcounts.writeOne henabled hsecond).1
  case isFalse hwants =>
    cases hsample
    rwa [if_neg hwants]

omit [Dut σ] in
lemma Counts.close (h : r.Counts n) (s : σ) : (close (r, s)).2.1.Counts n := by
  obtain ⟨slot, tick, samples⟩ := r
  cases slot <;> exact ⟨h.samples_eq, h.tick_eq⟩

end Recorder

/-! ## The encoder and its queue -/

namespace FrameEncoder

/-- Every frame that was started is completed, apart from the one on the line. -/
def Balanced (e : FrameEncoder) : Prop :=
  e.started = e.completed + if e.isIdle then 0 else 1

variable {e : FrameEncoder}

lemma balanced_new (period : BitPeriod) : Balanced { period } :=
  rfl

lemma Balanced.bounds (h : e.Balanced) :
    e.completed ≤ e.started ∧ e.started ≤ e.completed + 1 := by
  rw [Balanced] at h
  split at h <;> omega

lemma Balanced.shift (h : e.Balanced) : e.shift.Balanced ∧ e.shift.started = e.started := by
  rw [FrameEncoder.shift]
  split
  case h_1 => exact ⟨h, rfl⟩
  case h_2 frame bit tick hstate =>
    have hcount : e.started = e.completed + 1 := by simpa [Balanced, isIdle, hstate] using h
    dsimp only
    split
    · exact ⟨by simp [Balanced, isIdle, hcount], rfl⟩
    · split
      · exact ⟨by simp [Balanced, isIdle, hcount], rfl⟩
      · exact ⟨by simp [Balanced, isIdle, hcount], rfl⟩

/-- A byte on offer starts a frame if there is none on the line. -/
lemma Balanced.tick (h : e.Balanced) (offer : Option UInt8) :
    (e.tick offer).Balanced
      ∧ (e.tick offer).started = e.started + if e.isIdle then offer.toList.length else 0 := by
  have hload : (e.load offer).Balanced
      ∧ (e.load offer).started = e.started + if e.isIdle then offer.toList.length else 0 := by
    cases hstate : e.state with
    | idle =>
      cases offer with
      | none => simpa [load, isIdle, hstate] using h
      | some byte =>
        have hcount : e.started = e.completed := by simpa [Balanced, isIdle, hstate] using h
        simp [load, Balanced, isIdle, hstate, hcount]
    | sending frame bit tick => simpa [load, isIdle, hstate] using h
  obtain ⟨hbalanced, hstarted⟩ := hload.1.shift
  exact ⟨hbalanced, hstarted.trans hload.2⟩

/-- A tick starts as many frames as it takes bytes off the queue. -/
lemma Balanced.tickFrom (h : e.Balanced) (q : ByteQueue) :
    (e.tickFrom q).1.Balanced ∧ ∃ removed, q.contents = removed ++ (e.tickFrom q).2.contents
      ∧ (e.tickFrom q).1.started = e.started + removed.length := by
  rw [FrameEncoder.tickFrom_eq]
  split
  case isTrue hidle =>
    obtain ⟨hbalanced, hstarted⟩ := h.tick q.pop.1
    rw [if_pos hidle] at hstarted
    exact ⟨hbalanced, q.pop.1.toList, (q.contents_pop).symm, hstarted⟩
  case isFalse hbusy =>
    obtain ⟨hbalanced, hstarted⟩ := h.tick none
    exact ⟨hbalanced, [], rfl, by simpa [hbusy] using hstarted⟩

end FrameEncoder

namespace SerialLine

/-- Between two moments the queue of a line has taken in some bytes and given away others, and a
frame was started for each of the latter. -/
structure Account (line line' : SerialLine) (bytes removed : List UInt8) : Prop where
  balanced : line'.encoder.Balanced
  gave : line.producer.Gave bytes line'.producer
  contents_eq : line.queue.contents ++ bytes = removed ++ line'.queue.contents
  started_eq : line'.encoder.started = line.encoder.started + removed.length

variable {line line' : SerialLine} {bytes removed : List UInt8}

lemma Account.produce (h : Account line line' bytes removed) (steps : ℕ) :
    ∃ bytes, Account line (line'.produce steps) bytes removed := by
  obtain ⟨more, haccepts, hgave⟩ := line'.producer.advance_accepts steps line'.queue
  refine ⟨bytes ++ more, h.balanced, h.gave.trans hgave, ?_, h.started_eq⟩
  show _ = removed ++ (line'.producer.advance steps line'.queue).2.contents
  rw [haccepts.contents_eq, ← List.append_assoc, ← List.append_assoc, h.contents_eq]

lemma Account.tick (h : Account line line' bytes removed) :
    ∃ removed, Account line line'.tick bytes removed := by
  obtain ⟨hbalanced, more, hcontents, hstarted⟩ := h.balanced.tickFrom line'.queue
  refine ⟨removed ++ more, hbalanced, h.gave, ?_, ?_⟩
  · rw [h.contents_eq, hcontents, List.append_assoc]
    rfl
  · rw [List.length_append, ← Nat.add_assoc, ← h.started_eq]
    exact hstarted

/-- The account of a line over the rounds of a main loop. -/
lemma account_after (line : SerialLine) (hbalanced : line.encoder.Balanced) (pace : Pace)
    (before n : ℕ) :
    ∃ bytes removed, Account line (line.after pace before n) bytes removed := by
  induction n with
  | zero => exact ⟨[], [], hbalanced, .refl _, by simp [after], rfl⟩
  | succ n ih =>
    obtain ⟨bytes, removed, h⟩ := ih
    obtain ⟨bytes, h⟩ := h.produce (pace n)
    rw [after, round]
    split
    · obtain ⟨removed, h⟩ := h.tick
      exact ⟨bytes, removed, h⟩
    · exact ⟨bytes, removed, h⟩

end SerialLine

/-! ## A bench that was set up -/

namespace Bench

variable {σ κ β : Type}

/-- A bench that was set up as the settings say and has not run yet. -/
structure IsSetUp (settings : BenchSettings) (queue : Option ByteQueue) (producer : Producer)
    (b : Bench σ κ β) : Prop where
  clock_eq : b.clock = {}
  recorder_new : b.recorder.IsNew
  line_eq : ∃ period : BitPeriod,
    b.line = queue.map fun queue => { encoder := { period }, queue, producer }
  resetToggles_eq : b.resetToggles = settings.resetToggles
  warmupToggles_eq : b.warmupToggles = settings.warmupToggles
  limit_eq : b.limit = settings.maxCycles.filter (0 < ·)
  phase_eq : b.phase = .resetting

variable {settings : BenchSettings} {queue : Option ByteQueue} {producer : Producer}
  {b : Bench σ κ β}

lemma isSetUp_assemble {line : Option SerialLine} {recorder : Recorder κ} (dut : σ)
    (hline : lineFor settings queue producer = .ok line) (hrecorder : recorder.IsNew) :
    (assemble settings line recorder dut : Bench σ κ β).IsSetUp settings queue producer := by
  refine ⟨rfl, hrecorder, ?_, rfl, rfl, rfl, rfl⟩
  cases queue with
  | none =>
    cases hline
    exact ⟨⟨1, Nat.one_pos⟩, rfl⟩
  | some queue =>
    rw [lineFor] at hline
    cases hperiod : BitPeriod.ofRates settings.clock settings.baud with
    | error e =>
      rw [hperiod] at hline
      cases hline
    | ok period =>
      rw [hperiod] at hline
      cases hline
      exact ⟨period, rfl⟩

lemma isSetUp_create [Dut σ] {host host' : Host} {dut : σ} {made : Bench σ (TraceSink κ) β}
    (hmade : create settings queue producer host dut = (.ok made, host')) :
    made.IsSetUp settings queue producer := by
  rw [create] at hmade
  split at hmade
  case h_1 => cases hmade
  case h_2 line hline =>
    split at hmade
    case h_1 =>
      cases hmade
      exact isSetUp_assemble dut hline (Or.inl rfl)
    case h_2 trace _ =>
      split at hmade
      case h_1 sink host'' dut' _ =>
        cases hmade
        exact isSetUp_assemble dut' hline (Or.inr ⟨sink, rfl⟩)
      case h_2 => cases hmade

lemma IsSetUp.withBridge (h : b.IsSetUp settings queue producer) (bridge : Option β) :
    ({ b with bridge } : Bench σ κ β).IsSetUp settings queue producer :=
  ⟨h.clock_eq, h.recorder_new, h.line_eq, h.resetToggles_eq, h.warmupToggles_eq, h.limit_eq,
    h.phase_eq⟩

lemma IsSetUp.withRecorders [Sink κ σ] {recorders : List (Recorder κ)} {b' : Bench σ κ β}
    (h : b.IsSetUp settings queue producer) (hnew : ∀ r ∈ recorders, r.IsNew)
    (hattached : b.withRecorders recorders = .done b') : b'.IsSetUp settings queue producer := by
  induction recorders generalizing b with
  | nil =>
    cases hattached
    exact h
  | cons recorder rest ih =>
    obtain ⟨next, hnext, hrest⟩ := Attempt.andThen_eq_done.mp hattached
    obtain ⟨closed, hclosed, hreplaced⟩ := Attempt.andThen_eq_done.mp hnext
    obtain ⟨⟨old, dut⟩, -, rfl⟩ := Attempt.map_eq_done.mp hclosed
    cases hreplaced
    refine ih ?_ (fun r hr => hnew r (by simp [hr])) hrest
    exact ⟨h.clock_eq, hnew recorder (by simp), h.line_eq, h.resetToggles_eq, h.warmupToggles_eq,
      h.limit_eq, h.phase_eq⟩

/-! ## Along the course of a run -/

variable [Dut σ] [Sink κ σ] [Bridge β] {pace : Pace} {c : Bench σ κ β} {phase : Phase}
  {h : History σ κ β}

/-- How often the recorder found the device wanting a sample after a toggle. -/
def wantedAfterToggles (h : History σ κ β) : ℕ :=
  h.countP fun t => t.found.recorder.wants t.found.dut

/-- Whether the recorder finds the device wanting a sample after power-on. -/
def wantedAtStart (b : Bench σ κ β) : ℕ :=
  if b.recorder.wants b.poweredOn.dut then 1 else 0

lemma Course.counts (hnew : b.recorder.IsNew) (hc : Course pace b phase h c) :
    c.recorder.Counts (b.wantedAtStart + 2 * wantedAfterToggles h) := by
  induction hc with
  | powered hsample =>
    obtain ⟨recorder, dut, hwritten, rfl⟩ := sampleStart_eq_done hsample
    have hcounts := hnew.counts.sampleOnce hwritten
    rw [Nat.zero_add] at hcounts
    exact hcounts
  | released _ _ ih => exact ih
  | started _ _ ih => exact ih
  | @toggled _ h c _ found _ _ _ hpass hsample ih =>
    obtain ⟨recorder, dut, hwritten, rfl⟩ := sample_eq_done hsample
    rw [← (passed_passIn hpass).recorder_eq] at ih
    have hcounts := ih.sampleTwice hwritten
    rw [Nat.add_assoc, ← Nat.mul_add] at hcounts
    simpa [wantedAfterToggles, List.countP_append, List.countP_cons] using hcounts

/-- Before each round of the main loop the device had not finished and the limit was not
reached. -/
lemma Course.going (hc : Course pace b phase h c) :
    ∀ t ∈ h, t.phase = .running → Dut.finished t.before.dut = false := by
  induction hc with
  | powered => simp
  | released _ _ ih => exact ih
  | started _ _ ih => exact ih
  | toggled _ hdue _ _ ih =>
    intro t ht hrunning
    rcases List.mem_append.mp ht with hmem | hmem
    · exact ih t hmem hrunning
    · rw [List.mem_singleton] at hmem
      subst hmem
      cases hrunning
      exact hdue.1

/-- The main loop never sees more rising edges than the limit, nor more than twice as many
toggles. -/
lemma Course.within_limit [Dut.HoldsClock σ] [Sink.Keeps κ (Dut.clk (σ := σ))] {n : ℕ}
    (hlimit : b.limit = some n) (hc : Course pace b .running h c) :
    h.edges ≤ n ∧ h.inPhase .running ≤ 2 * n := by
  generalize hphase : Phase.running = phase at hc
  induction hc with
  | powered => cases hphase
  | released => cases hphase
  | started hc _ _ =>
    have hnone := hc.inPhase_running (by simp)
    rw [hnone]
    exact ⟨(History.edges_le _).trans (by omega), Nat.zero_le _⟩
  | @toggled _ h c _ _ edge hc hdue _ _ ih =>
    subst hphase
    -- before this toggle there was an edge to spare, and the edges are every other toggle
    have hspare : h.edges < n := by
      have hdue := hdue.2
      rw [hc.settings_eq.2.2.1, hlimit] at hdue
      simpa [limitReached] using hdue
    have hedges := hc.edges_eq
    have hlength := hc.length_eq
    simp only [togglesBefore] at hlength
    rw [History.edges_append, History.inPhase_append]
    constructor
    · split <;> omega
    · simp only [if_true]
      omega

/-- Where no round is due any more, the device has finished or the edges have used up the limit. -/
lemma IsSetUp.edges_at_end [Dut.HoldsClock σ] [Sink.Keeps κ (Dut.clk (σ := σ))]
    (hsetUp : b.IsSetUp settings queue producer) (hc : Course pace b .running h c)
    (hover : ¬ c.Due .running h) :
    (∀ n, settings.maxCycles = some n → 0 < n →
        h.edges ≤ n ∧ h.inPhase .running ≤ 2 * n ∧ (Dut.finished c.dut = false → h.edges = n))
      ∧ (settings.maxCycles = none ∨ settings.maxCycles = some 0 →
          Dut.finished c.dut = true) := by
  have hreached : Dut.finished c.dut = false → limitReached b.limit h.edges = true := by
    rw [← hc.settings_eq.2.2.1]
    simpa [Due] using hover
  refine ⟨fun n hmax hpos => ?_, fun hmax => ?_⟩
  · have hlimit : b.limit = some n := by
      rw [hsetUp.limit_eq, hmax]
      simp [hpos]
    obtain ⟨hedges, hrounds⟩ := hc.within_limit hlimit
    refine ⟨hedges, hrounds, fun hgoing => ?_⟩
    have hle : n ≤ h.edges := by simpa [hlimit, limitReached] using hreached hgoing
    omega
  · have hlimit : b.limit = none := by
      rw [hsetUp.limit_eq]
      rcases hmax with hmax | hmax <;> simp [hmax]
    by_contra hgoing
    simpa [hlimit, limitReached] using hreached (Bool.eq_false_of_not_eq_true hgoing)

/-! ## The summary -/

/-- What the summary of a run says about the serial line.  The bytes that left the queue were in it
at first or were pushed by the producer; without a queue there are none. -/
def LineAccount (queue : Option ByteQueue) (producer : Producer) (b : Bench σ κ β)
    (summary : Summary) : Prop :=
  match queue with
  | none => b.line = none ∧ summary.bytesInjected = 0 ∧ summary.framesCompleted = 0
  | some queue =>
    ∃ line removed, b.line = some line
      ∧ queue.contents ++ producer.pending.take (line.producer.pushed - producer.pushed)
          = removed ++ line.queue.contents
      ∧ summary.bytesInjected = removed.length
      ∧ summary.framesCompleted ≤ summary.bytesInjected
      ∧ summary.bytesInjected ≤ summary.framesCompleted + 1

omit [Dut σ] [Sink κ σ] [Bridge β] in
lemma IsSetUp.lineAccount {finished : Bool} {b' : Bench σ κ β} {before n : ℕ}
    (hsetUp : b.IsSetUp settings queue producer)
    (hline : b'.line = b.line.map fun line => line.after pace before n) :
    b'.LineAccount queue producer (b'.summary finished) := by
  obtain ⟨period, hset⟩ := hsetUp.line_eq
  rw [hset, Option.map_map] at hline
  cases queue with
  | none =>
    have hnone : b'.line = none := hline
    exact ⟨hnone, by simp [summary, hnone], by simp [summary, hnone]⟩
  | some queue =>
    obtain ⟨bytes, removed, h⟩ :=
      SerialLine.account_after { encoder := { period }, queue, producer }
      (FrameEncoder.balanced_new period) pace before n
    have hbounds := h.balanced.bounds
    have hstarted := h.started_eq
    have hcontents := h.contents_eq
    rw [h.gave.eq_take] at hcontents
    have hsome : b'.line = some _ := hline
    refine ⟨_, removed, hsome, hcontents, ?_, ?_, ?_⟩
    · simpa [summary, hsome] using hstarted
    · simpa [summary, hsome] using hbounds.1
    · simpa [summary, hsome] using hbounds.2

/-- **The summary of a run says what happened.**  Take a bench as it is set up, with any recorders
handed to it one after the other and any bridge, for a device that holds its clock.  If a run ends
well, it has gone through a course of toggles in which the device was found not finished before
every round of the main loop.  The summary counts all these toggles, and the clock rose on every
other one; there was a sample after power-on and two after each toggle, if the recorder was open and
the device wanted them; a frame was started for every byte that left the queue; and the run says it
was finished by the device exactly if the device had finished when the main loop was left.  With a
limit there are no more rising edges than it allows and no more than twice as many rounds, and only
at the limit the run ends without the device; without one it never does. -/
theorem summary_accounts [Dut.HoldsClock σ] [Sink.Keeps κ (Dut.clk (σ := σ))]
    {recorders : List (Recorder (TraceSink κ))} {host host' : Host} {dut : σ}
    {made attached b' : Bench σ (TraceSink κ) β} {summary : Summary}
    (hmade : create settings queue producer host dut = (.ok made, host'))
    (hnew : ∀ r ∈ recorders, r.IsNew)
    (hattached : made.withRecorders recorders = .done attached) (bridge : Option β)
    (hrun : ({ attached with bridge } : Bench σ (TraceSink κ) β).run pace = (.ok summary, b')) :
    ∃ h last, Course pace { attached with bridge } .running h last ∧ ¬ last.Due .running h
      ∧ ({ last with phase := .finished } : Bench σ (TraceSink κ) β).closeRecorder = .done b'
      ∧ (∀ t ∈ h, t.phase = .running → Dut.finished t.before.dut = false)
      ∧ summary.toggles
          = settings.resetToggles + settings.warmupToggles + h.inPhase .running
      ∧ summary.risingEdges
          = (settings.resetToggles + settings.warmupToggles + h.inPhase .running + 1) / 2
      ∧ summary.phase = .finished
      ∧ summary.samples
          = wantedAtStart ({ attached with bridge } : Bench σ (TraceSink κ) β)
            + 2 * wantedAfterToggles h
      ∧ summary.finalTick = summary.samples
      ∧ b'.LineAccount queue producer summary
      ∧ (summary.finishedByModel = true ↔ Dut.finished last.dut = true)
      ∧ (∀ n, settings.maxCycles = some n → 0 < n →
          h.edges ≤ n ∧ h.inPhase .running ≤ 2 * n
            ∧ (summary.finishedByModel = false → h.edges = n))
      ∧ (settings.maxCycles = none ∨ settings.maxCycles = some 0 →
          summary.finishedByModel = true) := by
  have hsetUp := ((isSetUp_create hmade).withRecorders hnew hattached).withBridge bridge
  generalize ({ attached with bridge } : Bench σ (TraceSink κ) β) = b at hsetUp hrun ⊢
  have hending := run_ending pace b
  simp only [hrun] at hending
  cases hending with
  | @completed h last _ hc hover hclose =>
    obtain ⟨⟨recorder, dut'⟩, hclosed, rfl⟩ := Attempt.map_eq_done.mp hclose
    have hcounts := (hc.counts hsetUp.recorder_new).close last.dut
    rw [show Recorder.close (last.recorder, last.dut) = _ from hclosed] at hcounts
    have hclock := hc.clock_eq
    have hlength := hc.length_eq
    simp only [togglesBefore, hsetUp.resetToggles_eq, hsetUp.warmupToggles_eq] at hlength
    rw [hsetUp.clock_eq, hc.rises_eq, hlength] at hclock
    obtain ⟨hbounded, hunbounded⟩ := hsetUp.edges_at_end hc hover
    refine ⟨h, last, hc, hover, hclose, hc.going, ?_, ?_, rfl, hcounts.samples_eq,
      hcounts.tick_eq.trans hcounts.samples_eq.symm, hsetUp.lineAccount hc.line_eq, Iff.rfl,
      hbounded, hunbounded⟩
    · simp [summary, hclock]
    · simp [summary, hclock]

end Bench

instance : Dut.HoldsClock Sample.Counter where
  clk_setClk _ _ := rfl
  clk_setRstN _ _ := rfl
  clk_setUartRx _ _ := rfl
  clk_eval _ := rfl
  clk_driveTap _ _ := rfl
  clk_traceDump _ _ := rfl
  clk_traceClose _ := rfl

instance {σ α : Type} (view : σ → α) : Sink.Keeps Sample.LogSink view where
  dump_eq _ _ _ := rfl
  close_eq _ _ := rfl

/-- Settings for a short run: three toggles before the main loop, so that it begins with a falling
edge, two edges to a bit, and at most four edges. -/
def Sample.shortRun : BenchSettings :=
  { clock := ⟨2⟩, baud := 1, resetToggles := 1, warmupToggles := 2, maxCycles := some 4 }

/-- A bench for a counter with these settings, and two bytes in its queue. -/
def Sample.counterBench (dut : Sample.Counter) :
    Bench Sample.Counter (TraceSink Sample.LogSink) RemoteBitbang :=
  let queue : ByteQueue := { contents := [0x41, 0x42] }
  .assemble Sample.shortRun
    (some { encoder := { period := ⟨2, by decide⟩ }, queue, producer := .silent }) .disabled dut

/-- A counter wants every third of its evaluations recorded and does not finish.  Its recorder was
replaced before the run, and the limit of four edges lets it have eight rounds. -/
theorem Bench.summary_accounts_shortRun :
    let made := Sample.counterBench { dump := true, dumpEvery := 3 }
    let recorders : List (Recorder (TraceSink Sample.LogSink)) :=
      [.ofSink (.custom { name := "first" }), .ofSink (.custom { name := "second" })]
    let attached := (made.withRecorders recorders).2
    create Sample.shortRun (some { contents := [0x41, 0x42] }) .silent {}
        { dump := true, dumpEvery := 3 } = (.ok made, {})
      ∧ made.withRecorders recorders = .done attached
      ∧ ∃ (summary : Summary) (b' : Bench Sample.Counter (TraceSink Sample.LogSink) RemoteBitbang)
          (h : History Sample.Counter (TraceSink Sample.LogSink) RemoteBitbang),
        attached.run (fun _ => 0) = (.ok summary, b')
        ∧ summary.toggles = 11 ∧ summary.risingEdges = 6 ∧ summary.samples = 6
        ∧ h.inPhase .running = 8 ∧ h.edges = 4
        ∧ attached.wantedAtStart + 2 * wantedAfterToggles h = 6 := by
  intro made recorders attached
  have hmade : create Sample.shortRun (some { contents := [0x41, 0x42] }) .silent {}
      { dump := true, dumpEvery := 3 } = (.ok made, {}) := rfl
  have hnew : ∀ r ∈ recorders, r.IsNew := by
    simp [recorders, Recorder.IsNew]
  have hattached : made.withRecorders recorders = .done attached := rfl
  have hbridge : ({ attached with bridge := none } : Bench _ _ _) = attached := rfl
  have hfields : (attached.run (fun _ => 0)).1.toOption.map (fun s =>
      (s.toggles, s.risingEdges, s.samples, s.finishedByModel)) = some (11, 6, 6, false) := by
    decide +kernel
  -- the benches are large, and from here on nothing needs to look into them
  clear_value made recorders attached
  obtain ⟨summary, hsummary, hfields⟩ := Option.map_eq_some_iff.mp hfields
  obtain ⟨htoggles, hrises, hsamples, hfinished⟩ : summary.toggles = 11 ∧ summary.risingEdges = 6
      ∧ summary.samples = 6 ∧ summary.finishedByModel = false := by
    simpa using hfields
  have hrun : attached.run (fun _ => 0) = (.ok summary, (attached.run fun _ => 0).2) := by
    refine Prod.ext ?_ rfl
    cases hresult : (attached.run fun _ => 0).1 with
    | error e => simp [hresult, Except.toOption] at hsummary
    | ok s => simpa [hresult, Except.toOption] using hsummary
  have haccounts := summary_accounts hmade hnew hattached none (hbridge ▸ hrun)
  rw [hbridge] at haccounts
  obtain ⟨h, last, -, -, -, -, hall, -, -, hwanted, -, -, -, hlimit, -⟩ := haccounts
  refine ⟨hmade, hattached, summary, _, h, hrun, htoggles, hrises, hsamples, ?_,
    (hlimit 4 rfl (by decide)).2.2 hfinished, ?_⟩
  · rw [htoggles] at hall
    have hlaunch : Sample.shortRun.resetToggles + Sample.shortRun.warmupToggles = 3 := rfl
    omega
  · rw [hsamples] at hwanted
    exact hwanted.symm

end SocBench
