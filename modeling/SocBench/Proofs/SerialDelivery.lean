import SocBench.Bench.Simulate
import SocBench.Proofs.LineRates
import SocBench.Proofs.SocRounds

/-!
# No byte is lost on the way

A byte that the queue has taken in is in one of three places: it still waits in the queue, its frame
is on the line, or the system has received it.  `InTransit` says how the encoder, the line and the
receiver stand to each other at any moment of a frame, one edge apart because the system sees a
level only on the edge after the encoder has chosen it; the list it carries is the byte on the line
that was not received yet.  One tick of the line and one edge of the receiver keep it
(`InTransit.tick`), and whatever leaves the queue comes out of the receiver.

The rest follows along the boundaries of the main loop, for any schedule of arrivals.  Main result:
what was received, the byte on the line and the queue are always the bytes that were taken in, in
their order; no line error is flagged; and a run that the system ends has received everything up to
the first terminator and nothing after it (`Bench.delivers_in_order`).
-/

namespace SocBench

/-! ## Encoder and receiver -/

section InTransit

open Receiver

variable {n hold : ℕ} {e : FrameEncoder} {rx : Bool} {r : Receiver} {inflight : List UInt8}

/-- How an encoder with bits of `hold` edges, the line, and a receiver with bits of `n` edges stand
to each other: either all is quiet, or the line shows tick `m` of a frame, the encoder has put that
tick out, and the receiver has not seen it.  The byte is on its way until its stop bit is
sampled. -/
inductive InTransit (n hold : ℕ) (e : FrameEncoder) (rx : Bool) (r : Receiver) :
    List UInt8 → Prop where
  | quiet (idle : e.state = .idle) (level : e.level = true) (line : rx = true)
      (receiver : r = .idle) : InTransit n hold e rx r []
  | frame (byte : UInt8) (m : ℕ) (bound : m < 10 * hold) (sent : e.Sent byte (m + 1))
      (line : rx = frameLevel hold byte m) (receiver : r = during n hold byte m) :
      InTransit n hold e rx r (if m ≤ sampleEdge n 9 then [byte] else [])

/-- The byte on the line is one whose frame the encoder is sending and the line is showing. -/
lemma InTransit.inflight_cases (h : InTransit n hold e rx r inflight)
    (hperiod : e.period.edges = hold) :
    inflight = [] ∨ ∃ byte m, inflight = [byte] ∧ m < 10 * hold
      ∧ e.state = frameState hold byte (m + 1) ∧ rx = frameLevel hold byte m := by
  cases h with
  | quiet => exact Or.inl rfl
  | frame byte m bound sent line receiver =>
    split
    · exact Or.inr ⟨byte, m, rfl, bound, by rw [sent.state, hperiod], line⟩
    · exact Or.inl rfl

/-- Between two frames a tick takes the next byte off the queue and puts it on the line. -/
lemma inTransit_of_idle (hidle : e.state = .idle) (hlevel : e.level = true)
    (hperiod : e.period.edges = hold) (q : ByteQueue) :
    ∃ inflight, InTransit n hold (e.tickFrom q).1 (e.tickFrom q).1.level .idle inflight
      ∧ (e.tickFrom q).1.period = e.period
      ∧ inflight ++ (e.tickFrom q).2.contents = q.contents := by
  cases hq : q.contents with
  | nil =>
    rw [FrameEncoder.tickFrom_of_empty hidle hq]
    exact ⟨[], .quiet hidle hlevel hlevel rfl, rfl, hq⟩
  | cons byte rest =>
    obtain ⟨e', htick, hsent, hperiod', -, -⟩ := FrameEncoder.tickFrom_of_cons hidle hq
    have hpos := e.period.pos
    rw [htick]
    refine ⟨_, .frame byte 0 (by omega) hsent ?_ ?_, hperiod', ?_⟩
    · rw [hsent.level Nat.one_pos, hperiod', hperiod]
    · rw [during_zero]
    · rw [if_pos (Nat.zero_le _)]
      rfl

/-- **One edge.**  The receiver looks at the line and the line moves on.  What the receiver gives
out had been on the line, and what is on the line now was there before or comes from the queue. -/
lemma InTransit.tick (h : InTransit n hold e rx r inflight) (htol : Tolerates n hold) (hn : 2 ≤ n)
    (hperiod : e.period.edges = hold) (q : ByteQueue) :
    ∃ r' outcome inflight', r.step n rx = (r', outcome) ∧ (∀ byte, outcome ≠ some (byte, false))
      ∧ InTransit n hold (e.tickFrom q).1 (e.tickFrom q).1.level r' inflight'
      ∧ (e.tickFrom q).1.period = e.period
      ∧ Uart.waitingAfter outcome ++ (inflight' ++ (e.tickFrom q).2.contents)
          = inflight ++ q.contents := by
  cases h with
  | quiet idle level line receiver =>
    obtain ⟨inflight', htransit, hperiod', hqueue⟩ := inTransit_of_idle idle level hperiod q
    refine ⟨.idle, none, inflight', ?_, by simp, htransit, hperiod', hqueue⟩
    rw [receiver, line]
    rfl
  | frame byte m bound sent line receiver =>
    have hend := htol.end_lt hn
    have hstep := step_during htol hn byte bound
    rw [← receiver, ← line] at hstep
    obtain ⟨outcome, houtcome⟩ : ∃ outcome : Option (UInt8 × Bool),
        (if m = sampleEdge n 9 then some (byte, true) else none) = outcome := ⟨_, rfl⟩
    rw [houtcome] at hstep
    have hstop : ∀ other, outcome ≠ some (other, false) := by
      rw [← houtcome]
      split <;> simp
    -- the byte is given out on the one edge between on its way and received
    have hsplit : Uart.waitingAfter outcome ++ (if m + 1 ≤ sampleEdge n 9 then [byte] else [])
        = if m ≤ sampleEdge n 9 then [byte] else [] := by
      rw [← houtcome]
      rcases Nat.lt_trichotomy m (sampleEdge n 9) with hlt | heq | hgt
      · rw [if_neg (by omega), if_pos (by omega), if_pos (by omega)]
        rfl
      · rw [if_pos heq, if_neg (by omega), if_pos (by omega)]
        rfl
      · rw [if_neg (by omega), if_neg (by omega), if_neg (by omega)]
        rfl
    rcases Nat.lt_or_ge (m + 1) (10 * hold) with hmore | hlast
    · have hm : m + 1 < 10 * e.period.edges := by rwa [hperiod]
      obtain ⟨hsent, hperiod', -, -⟩ := sent.shift hm
      rw [sent.tickFrom hm q]
      refine ⟨_, outcome, _, hstep, hstop, .frame byte (m + 1) hmore hsent ?_ rfl, hperiod', ?_⟩
      · rw [hsent.level (Nat.succ_pos _), hperiod', hperiod, Nat.add_sub_cancel]
      · rw [← List.append_assoc, hsplit]
    · -- the last tick of the stop bit: the next frame may begin at once
      have hm : m + 1 = 10 * hold := by omega
      have hidle : e.state = .idle := by
        rw [sent.state, hperiod, frameState_of_le byte hlast]
      have hlevel : e.level = true := by
        rw [sent.level (Nat.succ_pos _), hm, ← hperiod, frameLevel_last byte e.period.pos]
      obtain ⟨inflight', htransit, hperiod', hqueue⟩ := inTransit_of_idle hidle hlevel hperiod q
      rw [hm, during_end htol hn] at hstep
      refine ⟨.idle, outcome, inflight', hstep, hstop, htransit, hperiod', ?_⟩
      rw [if_neg (by omega), List.append_nil] at hsplit
      rw [hsplit, hqueue]

end InTransit

/-! ## What the firmware counts -/

/-- The shortest of the first parts of a list that end with `t`. -/
def IsShortestEndingWith (t : UInt8) (all first : List UInt8) : Prop :=
  first <+: all ∧ first.getLast? = some t
    ∧ ∀ other, other <+: all → other.getLast? = some t → first.length ≤ other.length

/-- It is the one that has `t` at its end and nowhere else. -/
lemma isShortestEndingWith_iff {t : UInt8} {all first : List UInt8} (hfirst : first <+: all)
    (hbefore : t ∉ first.dropLast) : IsShortestEndingWith t all first ↔ t ∈ first := by
  constructor
  · rintro ⟨-, hlast, -⟩
    exact List.mem_of_getLast? hlast
  · intro hmem
    have hne : first ≠ [] := List.ne_nil_of_mem hmem
    have hsplit := List.dropLast_append_getLast hne
    have hlast : first.getLast hne = t := by
      rw [← hsplit] at hmem
      rcases List.mem_append.mp hmem with h | h
      · exact absurd h hbefore
      · exact (List.mem_singleton.mp h).symm
    refine ⟨hfirst, by rw [List.getLast?_eq_some_getLast hne, hlast], fun other hother hend => ?_⟩
    by_contra hshorter
    -- a shorter one would have its end among the bytes before
    have hinside : other <+: first.dropLast :=
      List.prefix_of_prefix_length_le hother ((List.dropLast_prefix first).trans hfirst)
        (by rw [List.length_dropLast]; omega)
    exact hbefore (hinside.subset (List.mem_of_getLast? hend))

namespace Reception

/-- The counts of a reception without line errors: an interrupt for each byte, and finished when the
terminator has come, which is then the last byte. -/
structure Tallies (terminator : Option UInt8) (x : Reception) : Prop where
  interrupts_eq : x.interrupts = x.received.length
  finished_iff : x.finished = true ↔ ∃ t, terminator = some t ∧ t ∈ x.received
  before : ∀ t, terminator = some t → t ∉ x.received.dropLast

variable {terminator : Option UInt8} {x : Reception} {d : ℕ} {rx : Bool} {r : Receiver}
  {outcome : Option (UInt8 × Bool)}

lemma tallies_nothing (terminator : Option UInt8) : nothing.Tallies terminator :=
  ⟨rfl, by simp [nothing], by simp [nothing]⟩

/-- An edge before the end that meets no line error. -/
lemma Tallies.edge (h : x.Tallies terminator) (hgoing : x.finished = false)
    (hstep : x.receiver.stepFor d rx = (r, outcome))
    (hstop : ∀ byte, outcome ≠ some (byte, false)) :
    (x.edge d terminator rx).Tallies terminator ∧ (x.edge d terminator rx).receiver = r
      ∧ (x.edge d terminator rx).received = x.received ++ Uart.waitingAfter outcome := by
  -- the terminator has not come yet, so the byte that comes is the first that can be it
  have hnone : ∀ t, terminator = some t → t ∉ x.received := by
    intro t ht hmem
    have hfinished := h.finished_iff.mpr ⟨t, ht, hmem⟩
    rw [hgoing] at hfinished
    cases hfinished
  simp only [Reception.edge, hstep]
  rcases outcome with _ | ⟨byte, _ | _⟩
  · exact ⟨⟨h.interrupts_eq, h.finished_iff, h.before⟩, rfl, (List.append_nil _).symm⟩
  · exact absurd rfl (hstop byte)
  · refine ⟨⟨?_, ?_, ?_⟩, rfl, rfl⟩
    · simp [h.interrupts_eq]
    · simp only [hgoing, Bool.false_or, beq_iff_eq, List.mem_append, List.mem_singleton]
      constructor
      · exact fun ht => ⟨byte, ht, Or.inr rfl⟩
      · rintro ⟨t, ht, hmem | rfl⟩
        · exact absurd hmem (hnone t ht)
        · exact ht
    · intro t ht
      simpa using hnone t ht

end Reception

/-! ## Along the main loop -/

namespace Bench

variable {κ β : Type} [Sink κ Soc] {settings : SocSettings} {hold : ℕ}
  {accepted inflight : List UInt8} {line : SerialLine} {b b' start : Bench Soc (TraceSink κ) β}

/-- All bytes that were taken in are accounted for: received, on the line, or in the queue. -/
structure Delivering (settings : SocSettings) (hold : ℕ) (accepted : List UInt8)
    (line : SerialLine) (inflight : List UInt8) (b : Bench Soc (TraceSink κ) β) : Prop where
  onLine : b.OnLine settings line
  period_eq : line.encoder.period.edges = hold
  transit : InTransit (Soc.divisorFor settings + 1) hold line.encoder b.dut.uartRx
    b.dut.reception.receiver inflight
  accepted_eq : accepted = b.dut.reception.received ++ (inflight ++ line.queue.contents)
  tallies : b.dut.reception.Tallies settings.terminator

omit [Sink κ Soc] in
lemma Delivering.arrive (h : b.Delivering settings hold accepted line inflight)
    {bytes : List UInt8} {queue : ByteQueue} (producer : Producer)
    (haccepts : line.queue.Accepts bytes queue) :
    ({ b with line := some { line with queue, producer } } : Bench Soc (TraceSink κ) β).Delivering
      settings hold (accepted ++ bytes) { line with queue, producer } inflight := by
  refine ⟨h.onLine.arrive _, h.period_eq, h.transit, ?_, h.tallies⟩
  rw [h.accepted_eq, haccepts.contents_eq]
  simp only [List.append_assoc]

section Round

variable [Bridge β] (htol : Tolerates (Soc.divisorFor settings + 1) hold)
  (hdivisor : 1 ≤ Soc.divisorFor settings)
include htol hdivisor

/-- A round, unless the system has finished. -/
lemma Delivering.round (h : b.Delivering settings hold accepted line inflight)
    (hgoing : b.dut.finished = false) {edge : Edge} (hround : b.round 0 = (edge, .done b')) :
    ∃ line' inflight', b'.Delivering settings hold accepted line' inflight' := by
  obtain ⟨honLine, hperiod, htransit, haccepted, htallies⟩ := h
  cases hclk : b.dut.clk with
  | true =>
    -- a falling clock moves neither the line nor the receiver
    obtain ⟨outcome, c, hc, honLine', hview, -⟩ := honLine.round_falling hclk
    rw [hround] at hc
    cases hc
    have hrx : b'.dut.uartRx = b.dut.uartRx := congrArg Soc.View.uartRx hview
    have hreception : b'.dut.reception = b.dut.reception := congrArg Soc.View.reception hview
    exact ⟨line, inflight, honLine', hperiod, by rwa [hrx, hreception], by rwa [hreception],
      by rwa [hreception]⟩
  | false =>
    obtain ⟨outcome, c, hc, honLine', hview, -⟩ := honLine.round_rising hclk
    rw [hround] at hc
    cases hc
    obtain ⟨r, outcome, inflight', hstep, hstop, htransit', hperiod', hqueue⟩ :=
      htransit.tick htol (by omega) hperiod line.queue
    have hstepFor : b.dut.reception.receiver.stepFor (Soc.divisorFor settings) b.dut.uartRx
        = (r, outcome) := by
      rw [Receiver.stepFor, if_neg (by omega), hstep]
    obtain ⟨htallies', hreceiver, hreceived⟩ := htallies.edge hgoing hstepFor hstop
    have hrx : b'.dut.uartRx = (line.encoder.tickFrom line.queue).1.level :=
      congrArg Soc.View.uartRx hview
    have hreception : b'.dut.reception = b.dut.reception.edge (Soc.divisorFor settings)
        settings.terminator b.dut.uartRx := congrArg Soc.View.reception hview
    refine ⟨_, inflight', honLine', by rw [hperiod', hperiod], ?_, ?_, by rwa [hreception]⟩
    · rwa [hrx, hreception, hreceiver]
    · rw [hreception, hreceived, haccepted, ← hqueue]
      simp only [List.append_assoc]

/-- Every boundary, whatever arrives and when. -/
lemma Delivering.boundary
    (hstart : start.Delivering settings hold line.queue.contents line inflight) {edges : ℕ}
    (hboundary : Boundary start accepted edges b) :
    ∃ line inflight, b.Delivering settings hold accepted line inflight := by
  induction hboundary with
  | start hline =>
    obtain rfl : line = _ := Option.some.inj (hstart.onLine.line_eq.symm.trans hline)
    exact ⟨line, inflight, hstart⟩
  | arrive producer _ hline haccepts ih =>
    obtain ⟨line, inflight, h⟩ := ih
    obtain rfl : line = _ := Option.some.inj (h.onLine.line_eq.symm.trans hline)
    exact ⟨_, inflight, h.arrive producer haccepts⟩
  | round _ hgoing _ hround ih =>
    obtain ⟨line, inflight, h⟩ := ih
    exact h.round htol hdivisor hgoing hround

end Round

/-! ## What can be said of every boundary -/

omit [Sink κ Soc] in
/-- No line error is flagged on the next edge either. -/
lemma Delivering.samplesCleanly (htol : Tolerates (Soc.divisorFor settings + 1) hold)
    (hdivisor : 1 ≤ Soc.divisorFor settings)
    (h : b.Delivering settings hold accepted line inflight) : b.dut.SamplesCleanly := by
  obtain ⟨r, outcome, -, hstep, hstop, -⟩ :=
    h.transit.tick htol (by omega) h.period_eq line.queue
  refine h.onLine.poised.calm.samplesCleanly (r := r) ?_ hstop
  rw [h.onLine.poised.divisor_eq, Receiver.stepFor, if_neg (by omega)]
  exact hstep

/-- The bytes `accepted` by the queue have all been received, are on the line or wait, in this
order.  The one byte on the line is being sent: the encoder has put out some ticks of its frame, and
the line shows the last of them.  No line error is flagged, now or on the next edge, and every
interrupt so far was for a byte.  The system has finished exactly if it has received all bytes up to
the first terminator and no more. -/
structure InOrder (hold : ℕ) (terminator : Option UInt8) (accepted : List UInt8)
    (b : Bench Soc (TraceSink κ) β) : Prop where
  account : ∃ line inflight, b.line = some line
    ∧ accepted = b.dut.received ++ inflight ++ line.queue.contents
    ∧ (inflight = [] ∨ ∃ byte m, inflight = [byte] ∧ m < 10 * hold
      ∧ line.encoder.state = frameState hold byte (m + 1) ∧ b.dut.uartRx = frameLevel hold byte m)
  clean : b.dut.uart.status &&& Uart.lineErrors = 0
  cleanNext : b.dut.SamplesCleanly
  interrupts_eq : b.dut.interrupts = b.dut.received.length
  finished_iff : b.dut.finished = true
    ↔ ∃ t, terminator = some t ∧ IsShortestEndingWith t accepted b.dut.received

omit [Sink κ Soc] in
lemma Delivering.inOrder (htol : Tolerates (Soc.divisorFor settings + 1) hold)
    (hdivisor : 1 ≤ Soc.divisorFor settings)
    (h : b.Delivering settings hold accepted line inflight) :
    b.InOrder hold settings.terminator accepted := by
  have haccepted : accepted = b.dut.received ++ (inflight ++ line.queue.contents) := h.accepted_eq
  refine ⟨⟨line, inflight, h.onLine.line_eq, by rw [haccepted, List.append_assoc],
    h.transit.inflight_cases h.period_eq⟩, h.onLine.poised.calm.clean,
    h.samplesCleanly htol hdivisor, h.tallies.interrupts_eq, ?_⟩
  have hprefix : b.dut.received <+: accepted := ⟨_, haccepted.symm⟩
  refine h.tallies.finished_iff.trans (exists_congr fun t => and_congr_right fun ht => ?_)
  exact (isShortestEndingWith_iff hprefix (h.tallies.before t ht)).symm

/-! ## From the launch on -/

section Launched

variable {period : BitPeriod} (hdut : b.dut = Soc.new settings) (hline : b.line = some line)
  (hencoder : line.encoder = { period }) (hbuiltIn : b.recorder.BuiltIn)
include hdut hline hencoder hbuiltIn

/-- At the start of the main loop nothing has left the queue. -/
lemma delivering_launch (hlaunch : b.launch = .done start) :
    start.Delivering settings period.edges line.queue.contents line [] := by
  obtain ⟨honLine, hresting, -⟩ := onLine_launch hdut hline hbuiltIn hlaunch
  have hreception := hresting.reception_eq
  refine ⟨honLine, by rw [hencoder], .quiet (by rw [hencoder]) (by rw [hencoder])
    hresting.uartRx_eq ?_, ?_, ?_⟩
  · rw [hreception]
    rfl
  · rw [hreception]
    rfl
  · rw [hreception]
    exact Reception.tallies_nothing settings.terminator

variable [Bridge β] (htol : Tolerates (Soc.divisorFor settings + 1) period.edges)
  (hdivisor : 1 ≤ Soc.divisorFor settings)
include htol hdivisor

lemma inOrder_boundary {edges : ℕ} (hlaunch : b.launch = .done start)
    (hboundary : Boundary start accepted edges b') :
    b'.recorder.BuiltIn ∧ b'.InOrder period.edges settings.terminator accepted := by
  have hstart := delivering_launch hdut hline hencoder hbuiltIn hlaunch
  obtain ⟨line, inflight, h⟩ := hstart.boundary htol hdivisor hboundary
  exact ⟨h.onLine.builtIn, h.inOrder htol hdivisor⟩

/-- What a run has accepted is known from the producer it leaves. -/
lemma inOrder_run {pace : Pace} {summary : Summary} (hrun : b.run pace = (.ok summary, b')) :
    ∃ line', b'.line = some line'
      ∧ b'.InOrder period.edges settings.terminator (line.queue.contents
          ++ line.producer.pending.take (line'.producer.pushed - line.producer.pushed))
      ∧ summary.finishedByModel = b'.dut.finished := by
  obtain ⟨start, bytes, edges, last, line', hlaunch, hboundary, hline', hgave, hfinished, -,
    hclose⟩ := run_boundary hrun hline
  obtain ⟨hrecorder, hinOrder⟩ :=
    inOrder_boundary hdut hline hencoder hbuiltIn htol hdivisor hlaunch hboundary
  obtain ⟨recorder, rfl⟩ :=
    closeRecorder_eq (b := { last with phase := .finished }) hrecorder hclose
  refine ⟨line', hline', ?_, hfinished.symm⟩
  rw [← hgave.eq_take]
  exact ⟨hinOrder.account, hinOrder.clean, hinOrder.cleanNext, hinOrder.interrupts_eq,
    hinOrder.finished_iff⟩

end Launched

/-- **Nothing is lost, doubled or reordered.**  Take a bench made for a new system of the same clock
and line rate, at one of the lossless rates, with any queue, any producer and any bridge.  At every
boundary of its main loop, whatever arrives at the queue and when, the bytes are in order.  So they
are at the end of every run, where the bytes accepted by the queue are those it held at first and
those the producer has pushed; and the run is ended by the system if and only if the system has
received the shortest part of them that ends with the terminator. -/
theorem delivers_in_order [Bridge β] {settings : BenchSettings} {terminator : Option UInt8}
    {dumpEnabled : Bool} {queue : ByteQueue} {producer : Producer} {host host' : Host}
    {made : Bench Soc (TraceSink κ) β} (hrates : LosslessRates settings.clock settings.baud)
    (hmade : create settings (some queue) producer host (Soc.new {
        clock := settings.clock, baud := settings.baud, terminator, dumpEnabled })
      = (.ok made, host')) (bridge : Option β) :
    (∀ start accepted edges b, ({ made with bridge } : Bench Soc (TraceSink κ) β).launch
          = .done start → Boundary start accepted edges b →
        b.InOrder (bitHold settings.clock settings.baud) terminator accepted)
      ∧ ∀ pace summary b, ({ made with bridge } : Bench Soc (TraceSink κ) β).run pace
          = (.ok summary, b) →
        ∃ line accepted, b.line = some line
          ∧ accepted = queue.contents
              ++ producer.pending.take (line.producer.pushed - producer.pushed)
          ∧ b.InOrder (bitHold settings.clock settings.baud) terminator accepted
          ∧ (summary.finishedByModel = true
              ↔ ∃ t, terminator = some t ∧ IsShortestEndingWith t accepted b.dut.received) := by
  obtain ⟨period, recorder, hperiod, hbuiltIn, rfl⟩ := create_eq_ok hmade
  let soc : SocSettings :=
    { clock := settings.clock, baud := settings.baud, terminator, dumpEnabled }
  have htol : Tolerates (Soc.divisorFor soc + 1) (bitHold settings.clock settings.baud) :=
    (tolerates_iff soc hrates.1).mpr hrates
  have hdivisor : 1 ≤ Soc.divisorFor soc := LosslessRates.divisor_pos hrates
  rw [← hrates.period_eq hperiod] at htol ⊢
  refine ⟨fun start accepted edges b hlaunch hboundary => ?_, fun pace summary b hrun => ?_⟩
  · exact (inOrder_boundary rfl rfl rfl hbuiltIn htol hdivisor hlaunch hboundary).2
  · obtain ⟨line, hline, hinOrder, hfinished⟩ :=
      inOrder_run rfl rfl rfl hbuiltIn htol hdivisor hrun
    exact ⟨line, _, hline, rfl, hinOrder, hfinished ▸ hinOrder.finished_iff⟩

/-- At 242 MHz and 115200 baud a bit is held one edge longer than the receiver counts.  The queue
has room for one byte, a second one waits for it, and the third comes after the terminator. -/
theorem delivers_in_order_board :
    ∃ made : SimulationBench Soc,
      LosslessRates ⟨242000000⟩ 115200
      ∧ create {} (some (.bounded 1)) (.ofBytes [0x68, 0x04, 0x69]) {} (Soc.new {})
          = (.ok made, {})
      ∧ (∀ start accepted edges b, made.launch = .done start →
          Boundary start accepted edges b → b.InOrder 2101 (some 4) accepted)
      ∧ ∀ pace summary b, made.run pace = (.ok summary, b) →
          ∃ line accepted, b.line = some line
            ∧ accepted = [0x68, 0x04, 0x69].take line.producer.pushed
            ∧ b.InOrder 2101 (some 4) accepted
            ∧ (summary.finishedByModel = true
                ↔ ∃ t, some 4 = some t ∧ IsShortestEndingWith t accepted b.dut.received) := by
  have hmade : (create {} (some (.bounded 1)) (.ofBytes [0x68, 0x04, 0x69]) {} (Soc.new {}) :
      Except (BenchError × Soc) (SimulationBench Soc) × Host) = (.ok _, {}) :=
    create_untraced (ofRates_eq (by decide) (by decide)) rfl _ _ _ _
  exact ⟨_, by decide, hmade, delivers_in_order (by decide) hmade none⟩

end Bench

end SocBench
