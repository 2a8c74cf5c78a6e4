import SocBench.Proofs.SerialDelivery

/-!
# At which rates every byte arrives

A queue that is filled before the run makes the line play one frame after the other, without a gap.
The system sees a high line on the first edge, because the encoder chooses its first level on that
edge too, and from then on this waveform.  So all that a run does is known in advance:
`Bench.run_filled` says that it ends well, with the reception of that waveform.

Main result: the run delivers every list of bytes, each with one interrupt, if and only if the rates
are lossless (`Bench.delivers_all_iff`).  At any other rate the byte zero does not get through: its
last data bit is still low when the stop bit is sampled, or there is no divisor at all.
-/

namespace SocBench

/-! ## The waveform of a filled queue -/

namespace Generator

variable {period : BitPeriod} {g : Generator}

lemma run_append (period : BitPeriod) (g : Generator) (first rest : List LineEvent) :
    g.run period (first ++ rest) = (g.run period first).run period rest :=
  List.foldl_append

/-- As long as there are levels left, ticks only play them. -/
lemma run_left {k : ℕ} (hk : k ≤ g.left.length) :
    g.run period (List.replicate k .tick)
      = { g with left := g.left.drop k, levels := g.levels ++ g.left.take k } := by
  induction k generalizing g with
  | zero => simp [run]
  | succ k ih =>
    obtain ⟨left, queue, levels, taken⟩ := g
    cases left with
    | nil => simp at hk
    | cons level left =>
      have hstep : Generator.step period ⟨level :: left, queue, levels, taken⟩ .tick
          = ⟨left, queue, levels ++ [level], taken⟩ := rfl
      rw [List.replicate_succ, run, List.foldl_cons, hstep]
      refine (ih (by simpa using hk)).trans ?_
      simp

/-- A whole frame. -/
lemma run_frame {byte : UInt8} {rest : List UInt8} (hleft : g.left = [])
    (hqueue : g.queue.contents = byte :: rest) :
    g.run period (List.replicate (10 * period.edges) .tick)
      = { left := []
          queue := { g.queue with contents := rest }
          levels := g.levels ++ frameWave period.edges byte
          taken := g.taken ++ [byte] } := by
  have hpos := period.pos
  obtain ⟨k, hk⟩ : ∃ k, 10 * period.edges = k + 1 := ⟨10 * period.edges - 1, by omega⟩
  have hlength : ((frameWave period.edges byte).drop 1).length = k := by
    rw [List.length_drop, length_frameWave, hk, Nat.add_sub_cancel]
  obtain ⟨started, hstarted⟩ : ∃ started, g.step period .tick = started := ⟨_, rfl⟩
  have hstep : started = {
      left := (frameWave period.edges byte).drop 1
      queue := { g.queue with contents := rest }
      levels := g.levels ++ (frameWave period.edges byte).take 1
      taken := g.taken ++ [byte] } := by
    rw [← hstarted]
    simp only [step, hleft, hqueue]
  rw [hk, List.replicate_succ, run, List.foldl_cons, hstarted]
  refine (run_left (by rw [hstep]; exact hlength.ge)).trans ?_
  rw [hstep]
  simp only [List.append_assoc]
  rw [List.drop_of_length_le hlength.le, List.take_of_length_le hlength.le, List.take_append_drop]

/-- All frames of a filled queue. -/
lemma levels_filled (hleft : g.left = []) {w : List UInt8} (hqueue : g.queue.contents = w) :
    (g.run period (List.replicate (10 * period.edges * w.length) .tick)).levels
      = g.levels ++ w.flatMap (frameWave period.edges) := by
  induction w generalizing g with
  | nil => simp [run]
  | cons byte rest ih =>
    rw [List.length_cons, Nat.mul_succ, Nat.add_comm, List.replicate_add, run_append,
      run_frame hleft hqueue, ih rfl rfl, List.flatMap_cons, List.append_assoc]

end Generator

/-! ## The reception of a waveform -/

namespace Reception

variable {d hold : ℕ} {t : Option UInt8} {x : Reception}

/-- The reception after the edges that see the given levels. -/
def along (d : ℕ) (t : Option UInt8) (x : Reception) (levels : List Bool) : Reception :=
  levels.foldl (edge d t) x

lemma along_append (d : ℕ) (t : Option UInt8) (x : Reception) (first rest : List Bool) :
    x.along d t (first ++ rest) = (x.along d t first).along d t rest :=
  List.foldl_append

lemma along_range_succ (d : ℕ) (t : Option UInt8) (x : Reception) (s : ℕ → Bool) (m : ℕ) :
    x.along d t ((List.range (m + 1)).map s)
      = (x.along d t ((List.range m).map s)).edge d t (s m) := by
  rw [List.range_succ, List.map_append, along_append]
  rfl

/-- The reception with one more byte. -/
def took (t : Option UInt8) (x : Reception) (byte : UInt8) : Reception :=
  { x with
    received := x.received ++ [byte]
    interrupts := x.interrupts + 1
    finished := x.finished || t == some byte }

section Edge

variable {rx : Bool} {r : Receiver} {byte : UInt8}

lemma edge_of_none (hstep : x.receiver.stepFor d rx = (r, none)) :
    x.edge d t rx = { x with receiver := r } := by
  rw [edge, hstep]

lemma edge_of_byte (hstep : x.receiver.stepFor d rx = (r, some (byte, true))) :
    x.edge d t rx = { x.took t byte with receiver := r } := by
  rw [edge, hstep]
  rfl

lemma edge_of_error (hstep : x.receiver.stepFor d rx = (r, some (byte, false))) :
    x.edge d t rx = { x with receiver := r, interrupts := x.interrupts + 1 } := by
  rw [edge, hstep]

/-- What one edge can do. -/
lemma edge_cases (d : ℕ) (t : Option UInt8) (x : Reception) (rx : Bool) :
    ∃ r, x.edge d t rx = { x with receiver := r }
      ∨ (∃ byte, x.edge d t rx = { x.took t byte with receiver := r })
      ∨ x.edge d t rx = { x with receiver := r, interrupts := x.interrupts + 1 } := by
  obtain ⟨r, outcome, hstep⟩ : ∃ r outcome, x.receiver.stepFor d rx = (r, outcome) :=
    ⟨_, _, rfl⟩
  rcases outcome with _ | ⟨byte, _ | _⟩
  · exact ⟨r, Or.inl (edge_of_none hstep)⟩
  · exact ⟨r, Or.inr (Or.inr (edge_of_error hstep))⟩
  · exact ⟨r, Or.inr (Or.inl ⟨byte, edge_of_byte hstep⟩)⟩

end Edge

lemma along_high (hidle : x.receiver = .idle) (levels : List Bool) :
    x.along d t (true :: levels) = x.along d t levels := by
  rw [along, List.foldl_cons, edge_high hidle]
  rfl

/-- Without a divisor nothing is ever received. -/
lemma along_unconfigured (t : Option UInt8) (x : Reception) (levels : List Bool) :
    x.along 0 t levels = x := by
  induction levels generalizing x with
  | nil => rfl
  | cons level rest ih =>
    have hedge : x.edge 0 t level = x := edge_of_none rfl
    rw [along, List.foldl_cons, hedge]
    exact ih x

/-- Without a terminator the system never finishes. -/
lemma finished_along (d : ℕ) (x : Reception) (levels : List Bool) :
    (x.along d none levels).finished = x.finished := by
  induction levels generalizing x with
  | nil => rfl
  | cons level rest ih =>
    refine (ih (x.edge d none level)).trans ?_
    obtain ⟨r, h | ⟨byte, h⟩ | h⟩ := edge_cases d none x level <;> rw [h]
    simp [took]

/-- A line error is never made up for: an interrupt without a byte stays one too many. -/
lemma lost_along (d : ℕ) (t : Option UInt8) (hlost : x.received.length < x.interrupts)
    (levels : List Bool) :
    (x.along d t levels).received.length < (x.along d t levels).interrupts := by
  induction levels generalizing x with
  | nil => exact hlost
  | cons level rest ih =>
    refine ih ?_
    obtain ⟨r, h | ⟨byte, h⟩ | h⟩ := edge_cases d t x level <;> rw [h]
    · exact hlost
    · simpa [took] using hlost
    · exact Nat.lt_succ_of_lt hlost

section Configured

open Receiver

variable (hd : 1 ≤ d)
include hd

lemma stepFor_of_configured (r : Receiver) (rx : Bool) : r.stepFor d rx = r.step (d + 1) rx := by
  rw [stepFor, if_neg (by omega)]

/-- A frame that is understood, up to any of its edges. -/
lemma along_frame_upto (htol : Tolerates (d + 1) hold) (hidle : x.receiver = .idle) (byte : UInt8)
    {m : ℕ} (hm : m ≤ 10 * hold) :
    x.along d t ((List.range m).map (frameLevel hold byte))
      = { (if sampleEdge (d + 1) 9 < m then x.took t byte else x) with
          receiver := during (d + 1) hold byte m } := by
  induction m with
  | zero =>
    rw [if_neg (Nat.not_lt_zero _), during_zero, ← hidle]
    rfl
  | succ m ih =>
    have hstep := step_during htol (by omega) byte (by omega : m < 10 * hold)
    rw [← stepFor_of_configured hd] at hstep
    rw [along_range_succ, ih (by omega)]
    rcases Nat.lt_trichotomy m (sampleEdge (d + 1) 9) with hlt | heq | hgt
    · rw [if_neg (by omega)] at hstep
      rw [if_neg (by omega), if_neg (by omega), edge_of_none hstep]
    · rw [if_pos heq] at hstep
      rw [if_neg (by omega), if_pos (by omega), edge_of_byte hstep]
      rfl
    · rw [if_neg (by omega)] at hstep
      rw [if_pos (by omega), if_pos (by omega), edge_of_none hstep]

/-- Frames that are understood are received one after the other. -/
lemma along_frames (htol : Tolerates (d + 1) hold) (hidle : x.receiver = .idle) (w : List UInt8) :
    (x.along d t (w.flatMap (frameWave hold))).received = x.received ++ w
      ∧ (x.along d t (w.flatMap (frameWave hold))).interrupts = x.interrupts + w.length := by
  induction w generalizing x with
  | nil => simp [along]
  | cons byte rest ih =>
    have hframe : x.along d t (frameWave hold byte) = { x.took t byte with receiver := .idle } := by
      rw [frameWave_eq_map, along_frame_upto hd htol hidle byte le_rfl,
        if_pos (htol.end_lt (by omega)), during_end htol (by omega)]
    obtain ⟨hreceived, hinterrupts⟩ := ih (x := { x.took t byte with receiver := .idle }) rfl
    rw [List.flatMap_cons, along_append, hframe, hreceived, hinterrupts]
    simp only [took, List.length_cons, List.append_assoc, List.singleton_append]
    exact ⟨trivial, by omega⟩

/-- Up to the last sample of any waveform nothing happens but in the receiver. -/
lemma along_within {s : ℕ → Bool} (hidle : x.receiver = .idle) (hlow : s 0 = false)
    (hstart : s (sampleEdge (d + 1) 0) = false) {m : ℕ} (hm : m ≤ sampleEdge (d + 1) 9) :
    x.along d t ((List.range m).map s) = { x with receiver := within (d + 1) s m } := by
  induction m with
  | zero =>
    rw [within_zero, ← hidle]
    rfl
  | succ m ih =>
    have hstep := step_within (by omega : 2 ≤ d + 1) hlow (fun _ => hstart) (by omega : m < _)
    rw [← stepFor_of_configured hd] at hstep
    rw [along_range_succ, ih (by omega), edge_of_none hstep]

/-- A slow sender: the stop bit of a zero is sampled while its last data bit is on the line, and an
interrupt is served for nothing. -/
lemma lost_zero (hidle : x.receiver = .idle) (hcount : x.received.length ≤ x.interrupts)
    (hslow : sampleEdge (d + 1) 9 < 9 * hold) :
    (x.along d t (frameWave hold 0)).received.length
      < (x.along d t (frameWave hold 0)).interrupts := by
  have hle : sampleEdge (d + 1) 0 ≤ sampleEdge (d + 1) 9 := by simp [sampleEdge]
  have hlow {m : ℕ} (hm : m ≤ sampleEdge (d + 1) 9) : frameLevel hold 0 m = false := by
    rw [Uart.frameLevel_zero (by omega), decide_eq_false (by omega)]
  have hstep := step_within_end (s := frameLevel hold 0) (by omega : 2 ≤ d + 1) false
  rw [← stepFor_of_configured hd] at hstep
  -- the error comes with the sample of the stop bit, and the rest of the frame cannot undo it
  have hsplit : 10 * hold
      = sampleEdge (d + 1) 9 + 1 + (10 * hold - (sampleEdge (d + 1) 9 + 1)) := by omega
  rw [frameWave_eq_map, hsplit, List.range_add, List.map_append, along_append]
  refine lost_along d t ?_ _
  rw [along_range_succ, along_within hd hidle (hlow (Nat.zero_le _)) (hlow hle) le_rfl, hlow le_rfl,
    edge_of_error hstep]
  exact Nat.lt_succ_of_le hcount

end Configured

end Reception

/-! ## A run with a queue that is filled before -/

/-- An encoder and its queue after some ticks, if nothing arrives. -/
def played (period : BitPeriod) (queue : ByteQueue) (ticks : ℕ) : EncoderRun :=
  (EncoderRun.start period queue).run (List.replicate ticks .tick)

/-- The levels that the system has seen after some edges: one edge behind the encoder, and a high
line at first. -/
def seen (period : BitPeriod) (queue : ByteQueue) : ℕ → List Bool
  | 0 => []
  | edges + 1 => true :: (played period queue edges).levels

lemma played_succ (period : BitPeriod) (queue : ByteQueue) (ticks : ℕ) :
    played period queue (ticks + 1) = (played period queue ticks).step .tick := by
  rw [played, List.replicate_succ', EncoderRun.run, List.foldl_append]
  rfl

lemma seen_succ (period : BitPeriod) (queue : ByteQueue) (edges : ℕ) :
    seen period queue (edges + 1)
      = seen period queue edges ++ [(played period queue edges).encoder.level] := by
  cases edges with
  | zero => rfl
  | succ edges =>
    rw [seen, seen, played_succ]
    rfl

/-- Once its bytes have been sent, the levels of a filled queue are its frames. -/
lemma levels_played (period : BitPeriod) (queue : ByteQueue) :
    (played period queue (10 * period.edges * queue.contents.length)).levels
      = queue.contents.flatMap (frameWave period.edges) := by
  rw [played, ((follows_start period queue).run _).levels_eq]
  exact Generator.levels_filled rfl rfl

namespace Bench

variable {κ β : Type} [Sink κ Soc] [Bridge β] {settings : SocSettings} {period : BitPeriod}
  {queue : ByteQueue} {limit n edges : ℕ} {b b' start : Bench Soc (TraceSink κ) β}

/-- A bench without a recorder or a producer after some rising edges of its main loop, with the
number of toggles that it is still away from its limit. -/
structure Playing (settings : SocSettings) (period : BitPeriod) (queue : ByteQueue)
    (limit n edges : ℕ) (b : Bench Soc (TraceSink κ) β) : Prop where
  onLine : b.OnLine settings {
    encoder := (played period queue edges).encoder
    queue := (played period queue edges).queue
    producer := .silent }
  recorder_eq : b.recorder = .disabled
  limit_eq : b.limit = some limit
  edges_le : edges ≤ limit
  uartRx_eq : b.dut.uartRx = (played period queue edges).encoder.level
  reception_eq : b.dut.reception
    = Reception.along (Soc.divisorFor settings) settings.terminator .nothing
        (seen period queue edges)
  toggles_eq : n = 2 * (limit - edges) - if b.dut.clk then 0 else 1

/-- A round before the limit. -/
lemma Playing.round (h : b.Playing settings period queue limit n edges) (steps : ℕ)
    (hlimit : limitReached b.limit edges = false) :
    ∃ m edge b', n = m + 1 ∧ b.round steps = (edge, .done b')
      ∧ b'.Playing settings period queue limit m (if edge = .rising then edges + 1 else edges) := by
  obtain ⟨edge, b', hround, hrecorder⟩ := round_of_disabled h.recorder_eq steps
  have hlt : edges < limit := by
    rw [h.limit_eq] at hlimit
    simpa [limitReached] using hlimit
  have hround' := hround
  rw [round_eq, produce_of_done h.onLine.line_eq rfl] at hround'
  have htoggles := h.toggles_eq
  cases hclk : b.dut.clk with
  | false =>
    obtain ⟨outcome, c, hc, honLine, hview, hlimit'⟩ := h.onLine.round_rising hclk
    rw [hround'] at hc
    cases hc
    have hclk' : b'.dut.clk = true := congrArg Soc.View.clk hview
    have hreception := congrArg Soc.View.reception hview
    rw [hclk, if_neg Bool.false_ne_true] at htoggles
    refine ⟨n - 1, .rising, b', by omega, hround, ?_, hrecorder, hlimit'.trans h.limit_eq, hlt, ?_,
      ?_, ?_⟩
    · rw [if_pos rfl, played_succ]
      exact honLine
    · rw [if_pos rfl, played_succ]
      exact congrArg Soc.View.uartRx hview
    · rw [if_pos rfl, seen_succ, Reception.along_append, ← h.reception_eq, ← h.uartRx_eq]
      exact hreception
    · rw [if_pos rfl, hclk', if_pos rfl]
      omega
  | true =>
    obtain ⟨outcome, c, hc, honLine, hview, hlimit'⟩ := h.onLine.round_falling hclk
    rw [hround'] at hc
    cases hc
    have hclk' : b'.dut.clk = false := congrArg Soc.View.clk hview
    have hrx : b'.dut.uartRx = b.dut.uartRx := congrArg Soc.View.uartRx hview
    have hreception : b'.dut.reception = b.dut.reception := congrArg Soc.View.reception hview
    rw [hclk, if_pos rfl] at htoggles
    refine ⟨n - 1, .falling, b', by omega, hround, honLine, hrecorder, hlimit'.trans h.limit_eq,
      h.edges_le, hrx.trans h.uartRx_eq, hreception.trans h.reception_eq, ?_⟩
    rw [hclk', if_neg Bool.false_ne_true]
    show n - 1 = 2 * (limit - edges) - 1
    omega

omit [Bridge β] in
/-- A launch of a bench without a recorder leaves it at the start of its queue. -/
lemma playing_launch (hdut : b.dut = Soc.new settings)
    (hline : b.line = some { encoder := { period }, queue, producer := .silent })
    (hlimit : b.limit = some limit) (hlaunch : b.launch = .done start)
    (hdisabled : b.recorder = .disabled) (hstart : start.recorder = .disabled) :
    start.Playing settings period queue limit
      (2 * limit - if start.dut.clk then 0 else 1) 0 := by
  have hbuiltIn : b.recorder.BuiltIn := by
    rw [hdisabled]
    exact Recorder.builtIn_disabled
  obtain ⟨honLine, hresting, hlimit'⟩ := onLine_launch hdut hline hbuiltIn hlaunch
  exact ⟨honLine, hstart, hlimit'.trans hlimit, Nat.zero_le _, hresting.uartRx_eq,
    hresting.reception_eq, rfl⟩

/-- **A run with a filled queue.**  With an edge for each tick of its frames and one more, and as
long as all toggles can be counted, it ends well, and the system has seen all frames. -/
lemma run_filled (hdut : b.dut = Soc.new settings) (hterminator : settings.terminator = none)
    (hline : b.line = some { encoder := { period }, queue, producer := .silent })
    (hlimit : b.limit = some (10 * period.edges * queue.contents.length + 1))
    (hdisabled : b.recorder = .disabled) (hclock : b.clock.toggles = 0)
    (hbudget : b.resetToggles + b.warmupToggles + 20 * period.edges * queue.contents.length + 2
      < UInt64.size) (pace : Pace) :
    ∃ summary b', b.run pace = (.ok summary, b')
      ∧ b'.dut.reception = Reception.along (Soc.divisorFor settings) none .nothing
          (true :: queue.contents.flatMap (frameWave period.edges)) := by
  obtain ⟨start, hlaunch, hrecorder, htoggles⟩ := launch_of_disabled hdisabled
  have hplaying := playing_launch hdut hline hlimit hlaunch hdisabled hrecorder
  have hleft : start.togglesLeft = UInt64.size - 1 - start.clock.toggles := rfl
  have hdouble : 20 * period.edges * queue.contents.length
      = 2 * (10 * period.edges * queue.contents.length) := by
    rw [← Nat.mul_assoc, ← Nat.mul_assoc]
  have hbudget' : 2 * (10 * period.edges * queue.contents.length + 1)
      - (if start.dut.clk then 0 else 1) ≤ start.togglesLeft := by omega
  obtain ⟨finished, last, m, edges, hloop, hlast, hfinished, hreached⟩ :=
    mainLoop_ok (Playing settings period queue _) (fun steps h _ hlimit => h.round steps hlimit)
      pace 0 hplaying hbudget'
  obtain ⟨-, hrecorder', hlimit', hle, -, hreception, -⟩ := hlast
  rw [hterminator] at hreception
  -- without a terminator only the limit can have ended the loop
  have hgoing : last.dut.reception.finished = false := by
    rw [hreception, Reception.finished_along]
    rfl
  obtain rfl : finished = false := hfinished.symm.trans hgoing
  have hedges : edges = 10 * period.edges * queue.contents.length + 1 := by
    have hreached' := hreached rfl
    rw [hlimit'] at hreached'
    have hge := of_decide_eq_true hreached'
    omega
  rw [hedges, seen, levels_played] at hreception
  exact ⟨_, _, run_eq_ok_iff.mpr ⟨start, false, last, hlaunch, hloop,
    closeRecorder_of_disabled (b := { last with phase := .finished }) hrecorder', rfl⟩, hreception⟩

end Bench

/-! ## The rates that deliver -/

section Rates

variable (settings : SocSettings)

lemma along_filled_of_lossless (h : LosslessRates settings.clock settings.baud) (w : List UInt8) :
    (Reception.along (Soc.divisorFor settings) none .nothing
        (true :: w.flatMap (frameWave (bitHold settings.clock settings.baud)))).received = w
      ∧ (Reception.along (Soc.divisorFor settings) none .nothing
        (true :: w.flatMap (frameWave (bitHold settings.clock settings.baud)))).interrupts
          = w.length := by
  have htol := (tolerates_iff settings h.1).mpr h
  have hframes := Reception.along_frames (t := none) h.divisor_pos htol
    (rfl : Reception.nothing.receiver = .idle) w
  rw [Reception.along_high rfl, hframes.1, hframes.2]
  exact ⟨rfl, Nat.zero_add _⟩

/-- A zero gets through only at the lossless rates. -/
lemma lossless_of_zero (hbaud : 0 < settings.baud.toNat)
    (hreceived : (Reception.along (Soc.divisorFor settings) none .nothing
      (true :: frameWave (bitHold settings.clock settings.baud) 0)).received = [0])
    (hinterrupts : (Reception.along (Soc.divisorFor settings) none .nothing
      (true :: frameWave (bitHold settings.clock settings.baud) 0)).interrupts = 1) :
    LosslessRates settings.clock settings.baud := by
  rcases Nat.lt_or_ge (bitFloor settings.clock settings.baud) 2 with hsmall | hfloor
  · have hdivisor : Soc.divisorFor settings = 0 := by
      rw [divisorFor_eq]
      omega
    rw [hdivisor, Reception.along_unconfigured] at hreceived
    cases hreceived
  · by_contra hlossy
    have hhold := bitHold_eq_or settings.clock hbaud
    have htol := mt (tolerates_iff settings hfloor).mp hlossy
    have hdivisor : 1 ≤ Soc.divisorFor settings := by
      rw [divisorFor_eq]
      omega
    -- the bench never holds a bit for less than the firmware counts
    have hslow : Receiver.sampleEdge (Soc.divisorFor settings + 1) 9
        < 9 * bitHold settings.clock settings.baud := by
      rw [Tolerates] at htol
      rw [divisorFor_eq] at htol ⊢
      rw [Receiver.sampleEdge]
      omega
    have hlost := Reception.lost_zero (x := .nothing) (t := none) hdivisor rfl le_rfl hslow
    rw [Reception.along_high rfl] at hreceived hinterrupts
    rw [hreceived, hinterrupts] at hlost
    exact lt_irrefl 1 hlost

end Rates

namespace ByteQueue

/-- A queue without a bound takes everything. -/
lemma contents_pushAll (w : List UInt8) : (unbounded.pushAll w).contents = w := by
  have hall (q : ByteQueue) (hopen : q.closed = false) (hbound : q.capacity = none) :
      (q.pushAll w).contents = q.contents ++ w := by
    induction w generalizing q with
    | nil => simp [pushAll]
    | cons byte rest ih =>
      have hpush : q.push byte = .accepted { q with contents := q.contents ++ [byte] } := by
        simp [push, hopen, isFull, hbound]
      rw [pushAll, List.foldl_cons, hpush]
      refine (ih { q with contents := q.contents ++ [byte] } hopen hbound).trans ?_
      simp
  exact hall unbounded rfl rfl

end ByteQueue

namespace Bench

variable {κ β : Type} [Sink κ Soc] [Bridge β]

/-- What every run with a filled queue comes to, at any rates that give a bit at least one edge. -/
lemma created_run_filled {clock : Frequency} {baud : UInt32} (hbaud : 0 < baud.toNat)
    (hpos : 0 < bitHold clock baud) (dumpEnabled : Bool) (host : Host) (pace : Pace)
    (resets warmups : ℕ) {w : List UInt8} {queue : ByteQueue} (hqueue : queue.contents = w)
    (hbudget : resets + warmups + 20 * bitHold clock baud * w.length + 2 < UInt64.size) :
    ∃ (made : Bench Soc (TraceSink κ) β) (summary : Summary) (b : Bench Soc (TraceSink κ) β),
      create {
          clock, baud, resetToggles := resets, warmupToggles := warmups
          maxCycles := some (10 * bitHold clock baud * w.length + 1) }
        (some queue) .silent host (Soc.new { clock, baud, terminator := none, dumpEnabled })
          = (.ok made, host)
      ∧ made.run pace = (.ok summary, b)
      ∧ b.dut.reception
          = Reception.along (Soc.divisorFor { clock, baud, terminator := none, dumpEnabled }) none
              .nothing (true :: w.flatMap (frameWave (bitHold clock baud))) := by
  subst hqueue
  let settings : BenchSettings := {
    clock, baud, resetToggles := resets, warmupToggles := warmups
    maxCycles := some (10 * bitHold clock baud * queue.contents.length + 1) }
  let made : Bench Soc (TraceSink κ) β := assemble settings
    (some { encoder := { period := ⟨bitHold clock baud, hpos⟩ }, queue, producer := .silent })
    .disabled (Soc.new { clock, baud, terminator := none, dumpEnabled })
  have hlimit : made.limit = some (10 * bitHold clock baud * queue.contents.length + 1) := by
    simp [made, assemble, settings]
  obtain ⟨summary, b, hrun, hreception⟩ :=
    run_filled (b := made) rfl rfl rfl hlimit rfl rfl hbudget pace
  exact ⟨made, summary, b, create_untraced (ofRates_eq hbaud hpos) rfl _ _ _ _, hrun, hreception⟩

/-- **At which rates every byte arrives.**  For a clock and a line rate that give a bit at least one
edge, take a bench for a new system without a terminator, with the queue filled before the run and
an edge for each tick of the frames and one more.  However long it is held in reset and warms up, as
long as the toggles can be counted, the run ends well with exactly the bytes of the queue received
and an interrupt for each: this holds for all bytes if and only if the ratio of the rates is at
least two, is not rounded up or at least 18, and is not too large for the divisor. -/
theorem delivers_all_iff (clock : Frequency) (baud : UInt32) (hbaud : 1 ≤ baud.toNat)
    (hrate : baud.toNat ≤ 2 * clock.hz.toNat)
    (hsize : 10 * roundHalfUp clock.hz.toNat baud.toNat < 2 ^ 62) (dumpEnabled : Bool)
    (host : Host) (pace : Pace) :
    let hold := roundHalfUp clock.hz.toNat baud.toNat
    let whole := clock.hz.toNat / baud.toNat
    (∀ (resets warmups : ℕ) (w : List UInt8),
        resets + warmups + 20 * hold * w.length + 2 < 2 ^ 64 →
        ∃ (made : Bench Soc (TraceSink κ) β) (summary : Summary)
          (b : Bench Soc (TraceSink κ) β),
          create {
              clock, baud, resetToggles := resets, warmupToggles := warmups
              maxCycles := some (10 * hold * w.length + 1) }
            (some (ByteQueue.unbounded.pushAll w)) .silent host
            (Soc.new { clock, baud, terminator := none, dumpEnabled }) = (.ok made, host)
          ∧ made.run pace = (.ok summary, b)
          ∧ b.dut.received = w ∧ b.dut.interrupts = w.length)
      ↔ 2 ≤ whole ∧ (hold = whole ∨ 18 ≤ whole) ∧ hold ≤ 69176 := by
  have hpos : 0 < bitHold clock baud := Nat.div_pos (by omega) (by omega)
  have hfilled (resets warmups : ℕ) (w : List UInt8) := created_run_filled (κ := κ) (β := β) hbaud
    hpos dumpEnabled host pace resets warmups (ByteQueue.contents_pushAll w)
  intro hold whole
  constructor
  · intro hall
    -- a single zero decides, in a run without reset and warm-up
    have hbudget : 0 + 0 + 20 * hold * [(0 : UInt8)].length + 2 < 2 ^ 64 := by
      rw [List.length_singleton]
      omega
    obtain ⟨made, summary, b, hmade, hrun, hreceived, hinterrupts⟩ := hall 0 0 [0] hbudget
    obtain ⟨made', summary', b', hmade', hrun', hreception⟩ := hfilled 0 0 [0] hbudget
    cases hmade.symm.trans hmade'
    cases hrun.symm.trans hrun'
    rw [List.flatMap_singleton] at hreception
    exact lossless_of_zero { clock, baud, terminator := none, dumpEnabled } hbaud
      ((congrArg Reception.received hreception).symm.trans hreceived)
      ((congrArg Reception.interrupts hreception).symm.trans hinterrupts)
  · intro hrates resets warmups w hbudget
    obtain ⟨made, summary, b, hmade, hrun, hreception⟩ := hfilled resets warmups w hbudget
    obtain ⟨hreceived, hinterrupts⟩ :=
      along_filled_of_lossless { clock, baud, terminator := none, dumpEnabled } hrates w
    exact ⟨made, summary, b, hmade, hrun,
      (congrArg Reception.received hreception).trans hreceived,
      (congrArg Reception.interrupts hreception).trans hinterrupts⟩

/-- At 242 MHz and 115200 baud, where 2100.69 edges of a bit are rounded up, everything arrives. -/
theorem delivers_all_board :
    roundHalfUp 242000000 115200 = 2101 ∧ 10 * 2101 < 2 ^ 62
      ∧ ∀ (resets warmups : ℕ) (w : List UInt8),
        resets + warmups + 20 * 2101 * w.length + 2 < 2 ^ 64 →
        ∃ (made : SimulationBench Soc) (summary : Summary) (b : SimulationBench Soc),
          create {
              resetToggles := resets, warmupToggles := warmups
              maxCycles := some (10 * 2101 * w.length + 1) }
            (some (ByteQueue.unbounded.pushAll w)) .silent {} (Soc.new { terminator := none })
              = (.ok made, {})
          ∧ made.run (fun _ => 0) = (.ok summary, b)
          ∧ b.dut.received = w ∧ b.dut.interrupts = w.length :=
  ⟨by decide, by decide,
    (delivers_all_iff ⟨242000000⟩ 115200 (by decide) (by decide) (by decide) true {}
      fun _ => 0).mpr (by decide)⟩

end Bench

end SocBench
