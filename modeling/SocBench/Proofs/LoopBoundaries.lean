import Mathlib.Tactic
import SocBench.Bench.Run

/-!
# The boundaries of the main loop

Between two rounds of the main loop anyone may push bytes into the queue, or close it.  This file
says what such a boundary is without saying who pushes: `Bench.Boundary` is reached from the start
of the loop by rounds and by arrivals in any order, and it keeps the list of all bytes that the
queue has taken in.  The loop itself pushes through its producer, at the pace it is given, so every
state it stops in is such a boundary (`Bench.Boundary.mainLoop`), and a run is a launch, a boundary,
and the closing of the recorder (`Bench.run_boundary`).

Nothing here depends on the device.  What a property of all boundaries needs is one lemma about a
round and one about an arrival.
-/

namespace SocBench

namespace Attempt

variable {α β : Type}

lemma andThen_eq_done {x : Attempt α} {f : α → Attempt α} {c : α} :
    x.andThen f = .done c ↔ ∃ a, x = .done a ∧ f a = .done c := by
  rcases x.eq_done_or_failed with hx | ⟨e, hx⟩
  · rw [hx, done_andThen]
    constructor
    · exact fun h => ⟨_, rfl, h⟩
    · rintro ⟨a, ha, h⟩
      cases ha
      exact h
  · rw [hx, failed_andThen]
    simp [failed, done]

lemma map_eq_done {x : Attempt α} {f : α → β} {c : β} :
    x.map f = .done c ↔ ∃ a, x = .done a ∧ f a = c := by
  obtain ⟨outcome, a⟩ := x
  simp [map, done]

end Attempt

/-! ## What a queue takes in -/

namespace ByteQueue

/-- Pushes and closings, in any number and order, take the queue `q` to another one.  The bytes are
those that were not turned away. -/
inductive Accepts (q : ByteQueue) : List UInt8 → ByteQueue → Prop where
  | refl : Accepts q [] q
  | push {bytes : List UInt8} {r r' : ByteQueue} {byte : UInt8} (h : Accepts q bytes r)
      (hpush : r.push byte = .accepted r') : Accepts q (bytes ++ [byte]) r'
  | close {bytes : List UInt8} {r : ByteQueue} (h : Accepts q bytes r) : Accepts q bytes r.close

variable {q r : ByteQueue} {bytes : List UInt8}

/-- What is taken in stands behind what was there. -/
lemma Accepts.contents_eq (h : q.Accepts bytes r) : r.contents = q.contents ++ bytes := by
  induction h with
  | refl => rw [List.append_nil]
  | push _ hpush ih => rw [contents_of_push hpush, ih, List.append_assoc]
  | close _ ih => rw [contents_close, ih]

lemma Accepts.trans {s : ByteQueue} {more : List UInt8} (h : q.Accepts bytes r)
    (h' : r.Accepts more s) : q.Accepts (bytes ++ more) s := by
  induction h' with
  | refl => rwa [List.append_nil]
  | push _ hpush ih =>
    rw [← List.append_assoc]
    exact ih.push hpush
  | close _ ih => exact ih.close

end ByteQueue

/-! ## What a producer gives -/

namespace Producer

/-- The bytes that the reads still to come would give. -/
def pending (p : Producer) : List UInt8 :=
  p.script.filterMap fun
    | .byte value => some value
    | _ => none

/-- Between two moments the queue has taken these bytes from the producer. -/
structure Gave (p : Producer) (bytes : List UInt8) (p' : Producer) : Prop where
  pending_eq : p.pending = bytes ++ p'.pending
  pushed_eq : p'.pushed = p.pushed + bytes.length

variable {p p' : Producer} {bytes : List UInt8}

lemma Gave.refl (p : Producer) : p.Gave [] p :=
  ⟨rfl, rfl⟩

lemma Gave.trans {p'' : Producer} {more : List UInt8} (h : p.Gave bytes p')
    (h' : p'.Gave more p'') : p.Gave (bytes ++ more) p'' := by
  refine ⟨?_, ?_⟩
  · rw [h.pending_eq, h'.pending_eq, List.append_assoc]
  · rw [h'.pushed_eq, h.pushed_eq, List.length_append, Nat.add_assoc]

/-- So the bytes are known from the number that was pushed. -/
lemma Gave.eq_take (h : p.Gave bytes p') : bytes = p.pending.take (p'.pushed - p.pushed) := by
  rw [h.pushed_eq, h.pending_eq, Nat.add_sub_cancel_left, List.take_left']
  rfl

lemma finish_accepts (p : Producer) (q : ByteQueue) :
    q.Accepts [] (p.finish q).2 ∧ p.Gave [] (p.finish q).1 :=
  ⟨.close .refl, ⟨rfl, rfl⟩⟩

/-- One step takes at most one byte from the script into the queue. -/
lemma step_accepts (p : Producer) (q : ByteQueue) :
    ∃ bytes, q.Accepts bytes (p.step q).2 ∧ p.Gave bytes (p.step q).1 := by
  unfold step
  split
  case isTrue => exact ⟨[], .refl, .refl p⟩
  case isFalse =>
    split
    case h_1 value rest hscript =>
      split
      case h_1 r hpush =>
        refine ⟨[value], .push .refl hpush, ?_, rfl⟩
        simp [pending, hscript]
      case h_2 => exact ⟨[], p.finish_accepts q⟩
      case h_3 => exact ⟨[], .refl, .refl p⟩
    case h_2 rest hscript =>
      refine ⟨[], .refl, ?_, rfl⟩
      simp [pending, hscript]
    all_goals exact ⟨[], p.finish_accepts q⟩

lemma advance_accepts (n : ℕ) (p : Producer) (q : ByteQueue) :
    ∃ bytes, q.Accepts bytes (p.advance n q).2 ∧ p.Gave bytes (p.advance n q).1 := by
  induction n generalizing p q with
  | zero => exact ⟨[], .refl, .refl p⟩
  | succ n ih =>
    rw [advance]
    split
    case isTrue => exact ⟨[], .refl, .refl p⟩
    case isFalse =>
      obtain ⟨first, hfirst, hgave⟩ := p.step_accepts q
      obtain ⟨rest, hrest, hgave'⟩ := ih (p.step q).1 (p.step q).2
      exact ⟨first ++ rest, hfirst.trans hrest, hgave.trans hgave'⟩

end Producer

/-! ## The reset sequence -/

namespace Clock

variable {σ ρ : Type} [Dut σ] {watch : Phase → σ × ρ → Attempt (σ × ρ)} {phase : Phase}
  {I J : σ × ρ → Prop}

lemma step_dut (c : Clock) (s : σ) :
    (c.step s).2.2 = Dut.eval (Dut.setClk (!Dut.clk s) s) := by
  rw [step]
  split <;> rfl

lemma step_toggles (c : Clock) (s : σ) : (c.step s).2.1.toggles = c.toggles + 1 := by
  rw [step]
  split <;> rfl

/-- What a toggle and the watcher both keep is kept by any number of toggles. -/
lemma hold_invariant (htoggle : ∀ s r, I (s, r) → I (Dut.eval (Dut.setClk (!Dut.clk s) s), r))
    (hwatch : ∀ x, I x → I (watch phase x).2) (n : ℕ) (c : Clock) {x : σ × ρ} (h : I x) :
    I (hold watch phase n c x).2.2 := by
  induction n generalizing c x with
  | zero => exact h
  | succ n ih =>
    have hnext := hwatch _ (htoggle x.1 x.2 h)
    obtain ⟨edge, c', s, hstep⟩ : ∃ edge c' s, c.step x.1 = (edge, c', s) := ⟨_, _, _, rfl⟩
    simp only [← step_dut c, hstep] at hnext
    simp only [hold, hstep]
    -- a watcher that fails ends the sequence, but not before it has been asked to keep `I`
    generalize watch phase (s, x.2) = attempt at hnext ⊢
    obtain ⟨outcome, y⟩ := attempt
    cases outcome with
    | ok => exact ih c' hnext
    | error e => exact hnext

/-- A watcher that is always content lets all toggles happen. -/
lemma hold_done {P : ρ → Prop}
    (hwatch : ∀ s r, P r → ∃ r', watch phase (s, r) = .done (s, r') ∧ P r') (n : ℕ) (c : Clock)
    {x : σ × ρ} (h : P x.2) :
    ∃ c' x', hold watch phase n c x = .done (c', x') ∧ c'.toggles = c.toggles + n ∧ P x'.2 := by
  induction n generalizing c x with
  | zero => exact ⟨c, x, rfl, rfl, h⟩
  | succ n ih =>
    obtain ⟨r', hr', hP⟩ := hwatch (c.step x.1).2.2 x.2 h
    obtain ⟨c', x', hhold, htoggles, hx'⟩ := ih (c.step x.1).2.1 (x := ((c.step x.1).2.2, r')) hP
    refine ⟨c', x', ?_, ?_, hx'⟩
    · rw [hold]
      simp only [hr', Attempt.done]
      exact hhold
    · rw [htoggles, step_toggles]
      omega

/-- The reset sequence: `I` is what holds in reset and `J` what holds after the release. -/
lemma resetSequence_invariant
    (hI : ∀ s r, I (s, r) → I (Dut.eval (Dut.setClk (!Dut.clk s) s), r))
    (hJ : ∀ s r, J (s, r) → J (Dut.eval (Dut.setClk (!Dut.clk s) s), r))
    (hwatchI : ∀ phase x, I x → I (watch phase x).2)
    (hwatchJ : ∀ phase x, J x → J (watch phase x).2)
    (hrelease : ∀ s r, I (s, r) → J (Dut.eval (Dut.setRstN true s), r))
    {resets warmups : ℕ} {c c' : Clock} {x x' : σ × ρ} (h : I (Dut.setRstN false x.1, x.2))
    (hdone : resetSequence watch resets warmups c x = .done (c', x')) : J x' := by
  rw [resetSequence] at hdone
  split at hdone
  case h_1 c₁ s r hhold =>
    have hheld := hold_invariant hI (hwatchI .resetting) resets c h
    rw [hhold] at hheld
    have hwarm := hold_invariant hJ (hwatchJ .warmingUp) warmups c₁ (hrelease s r hheld)
    rw [hdone] at hwarm
    exact hwarm
  case h_2 => cases hdone

lemma resetSequence_done {P : ρ → Prop}
    (hwatch : ∀ phase s r, P r → ∃ r', watch phase (s, r) = .done (s, r') ∧ P r')
    (resets warmups : ℕ) (c : Clock) {x : σ × ρ} (h : P x.2) :
    ∃ c' x', resetSequence watch resets warmups c x = .done (c', x')
      ∧ c'.toggles = c.toggles + resets + warmups ∧ P x'.2 := by
  obtain ⟨c₁, ⟨s, r⟩, hhold, htoggles, hr⟩ :=
    hold_done (hwatch .resetting) resets c (x := (Dut.setRstN false x.1, x.2)) h
  obtain ⟨c', x', hwarm, htoggles', hx'⟩ :=
    hold_done (hwatch .warmingUp) warmups c₁ (x := (Dut.eval (Dut.setRstN true s), r)) hr
  refine ⟨c', x', ?_, by omega, hx'⟩
  rw [resetSequence, hhold]
  exact hwarm

end Clock

namespace Bench

variable {σ κ β : Type}

/-! ## Rounds and arrivals -/

section Produce

variable {b : Bench σ κ β}

@[simp] lemma produce_zero (b : Bench σ κ β) : b.produce 0 = b := by
  obtain ⟨dut, clock, recorder, retired, line, bridge, resets, warmups, limit, phase⟩ := b
  cases line <;> rfl

lemma recorder_produce (steps : ℕ) (b : Bench σ κ β) : (b.produce steps).recorder = b.recorder := by
  rw [produce]
  split <;> rfl

lemma produce_of_done {line : SerialLine} (hline : b.line = some line)
    (hdone : line.producer.done = true) (steps : ℕ) : b.produce steps = b := by
  have hadvance : line.producer.advance steps line.queue = (line.producer, line.queue) := by
    cases steps with
    | zero => rfl
    | succ steps => rw [Producer.advance, hdone, Bool.true_or, if_pos rfl]
  simp only [produce, hline, hadvance]
  rw [← hline]

/-- Steps of the producer are an arrival. -/
lemma produce_accepts {line : SerialLine} (hline : b.line = some line) (steps : ℕ) :
    ∃ bytes queue producer, line.queue.Accepts bytes queue ∧ line.producer.Gave bytes producer
      ∧ b.produce steps = { b with line := some { line with queue, producer } } := by
  obtain ⟨bytes, haccepts, hgave⟩ := line.producer.advance_accepts steps line.queue
  refine ⟨bytes, _, _, haccepts, hgave, ?_⟩
  rw [produce, hline]

end Produce

variable [Dut σ]

section Parts

variable {b : Bench σ κ β} {line : SerialLine}

lemma line_toggle (b : Bench σ κ β) : b.toggle.2.line = b.line :=
  rfl

lemma line_driveLine (hline : b.line = some line) :
    ∃ line', b.driveLine.line = some line' ∧ line'.producer = line.producer := by
  rw [driveLine, hline]
  exact ⟨_, rfl, rfl⟩

lemma line_driveTap [Bridge β] (b : Bench σ κ β) : b.driveTap.line = b.line := by
  rw [driveTap]
  split <;> rfl

lemma recorder_toggle (b : Bench σ κ β) : b.toggle.2.recorder = b.recorder :=
  rfl

lemma recorder_driveLine (b : Bench σ κ β) : b.driveLine.recorder = b.recorder := by
  rw [driveLine]
  split <;> rfl

lemma recorder_driveTap [Bridge β] (b : Bench σ κ β) : b.driveTap.recorder = b.recorder := by
  rw [driveTap]
  split <;> rfl

lemma line_sample [Sink κ σ] (b : Bench σ κ β) : b.sample.2.line = b.line :=
  rfl

end Parts

variable [Sink κ σ] [Bridge β] {b start : Bench σ κ β} {line : SerialLine}

/-- A round is an arrival and then a round in which nothing arrives. -/
lemma round_eq (steps : ℕ) (b : Bench σ κ β) : b.round steps = (b.produce steps).round 0 := by
  rw [round, round, produce_zero]

/-- A round leaves the producer alone, apart from its own steps. -/
lemma line_round (hline : b.line = some line) :
    ∃ line', (b.round 0).2.2.line = some line' ∧ line'.producer = line.producer := by
  rw [round, produce_zero]
  split
  case h_1 c htoggle =>
    have hc : c.line = some line := by
      rw [← hline, ← line_toggle b, htoggle]
    obtain ⟨line', hline', hproducer⟩ := line_driveLine hc
    exact ⟨line', by rw [line_sample, line_driveTap, hline'], hproducer⟩
  case h_2 c htoggle =>
    have hc : c.line = some line := by
      rw [← hline, ← line_toggle b, htoggle]
    exact ⟨line, by rw [line_sample, line_driveTap, hc], rfl⟩

/-- The states of a bench between two rounds of its main loop, for any schedule of arrivals, with
all bytes its queue has taken in since it was made and the number of rising edges so far.  No round
is begun once the device has finished or the limit is reached. -/
inductive Boundary (start : Bench σ κ β) : List UInt8 → ℕ → Bench σ κ β → Prop where
  | start {line : SerialLine} (hline : start.line = some line) :
      Boundary start line.queue.contents 0 start
  | arrive {accepted bytes : List UInt8} {edges : ℕ} {b : Bench σ κ β} {line : SerialLine}
      {queue : ByteQueue} (producer : Producer) (h : Boundary start accepted edges b)
      (hline : b.line = some line) (haccepts : line.queue.Accepts bytes queue) :
      Boundary start (accepted ++ bytes) edges
        { b with line := some { line with queue, producer } }
  | round {accepted : List UInt8} {edges : ℕ} {b b' : Bench σ κ β} {edge : Edge}
      (h : Boundary start accepted edges b) (hgoing : Dut.finished b.dut = false)
      (hlimit : limitReached b.limit edges = false) (hround : b.round 0 = (edge, .done b')) :
      Boundary start accepted (if edge = .rising then edges + 1 else edges) b'

/-! ## The main loop -/

section MainLoop

variable {pace : Pace} {budget rounds edges : ℕ} {finished : Bool} {last b' : Bench σ κ β}

lemma mainLoop_of_finished (hfinished : Dut.finished b.dut = true) :
    b.mainLoop pace budget rounds edges = (.ok true, b) := by
  rw [mainLoop.eq_def, if_pos hfinished]

lemma mainLoop_of_limit (hgoing : Dut.finished b.dut = false)
    (hlimit : limitReached b.limit edges = true) :
    b.mainLoop pace budget rounds edges = (.ok false, b) := by
  rw [mainLoop.eq_def, hgoing, if_neg Bool.false_ne_true, if_pos hlimit]

lemma mainLoop_of_stop
    (hstop : Dut.finished b.dut = true ∨ limitReached b.limit edges = true) :
    ∃ finished, b.mainLoop pace budget rounds edges = (.ok finished, b)
      ∧ Dut.finished b.dut = finished
      ∧ (finished = false → limitReached b.limit edges = true) := by
  cases hgoing : Dut.finished b.dut with
  | true => exact ⟨true, mainLoop_of_finished hgoing, rfl, fun h => absurd h (by simp)⟩
  | false =>
    have hlimit : limitReached b.limit edges = true := by simpa [hgoing] using hstop
    exact ⟨false, mainLoop_of_limit hgoing hlimit, rfl, fun _ => hlimit⟩

lemma mainLoop_zero (hgoing : Dut.finished b.dut = false)
    (hlimit : limitReached b.limit edges = false) :
    b.mainLoop pace 0 rounds edges = (.error (.fault .addOverflow), b) := by
  rw [mainLoop.eq_def, hgoing, if_neg Bool.false_ne_true, hlimit, if_neg Bool.false_ne_true]

lemma mainLoop_succ (hgoing : Dut.finished b.dut = false)
    (hlimit : limitReached b.limit edges = false) {edge : Edge}
    (hround : b.round (pace rounds) = (edge, .done b')) :
    b.mainLoop pace (budget + 1) rounds edges
      = b'.mainLoop pace budget (rounds + 1) (if edge = .rising then edges + 1 else edges) := by
  rw [mainLoop.eq_def, hgoing, if_neg Bool.false_ne_true, hlimit, if_neg Bool.false_ne_true]
  simp only [hround, Attempt.done]

/-- What a main loop that ends well has done: it stopped at once, or it went through a round. -/
lemma mainLoop_cases (hrun : b.mainLoop pace budget rounds edges = (.ok finished, last)) :
    (last = b ∧ Dut.finished b.dut = finished
        ∧ (finished = false → limitReached b.limit edges = true)) ∨
      ∃ less edge b', budget = less + 1 ∧ Dut.finished b.dut = false
        ∧ limitReached b.limit edges = false ∧ b.round (pace rounds) = (edge, .done b')
        ∧ b'.mainLoop pace less (rounds + 1) (if edge = .rising then edges + 1 else edges)
            = (.ok finished, last) := by
  by_cases hstop : Dut.finished b.dut = true ∨ limitReached b.limit edges = true
  · obtain ⟨stopped, hloop, hfinished, hlimit⟩ := mainLoop_of_stop hstop
    rw [hloop] at hrun
    cases hrun
    exact Or.inl ⟨rfl, hfinished, hlimit⟩
  · obtain ⟨hgoing, hlimit⟩ : Dut.finished b.dut = false
        ∧ limitReached b.limit edges = false := by
      simpa using hstop
    cases budget with
    | zero =>
      rw [mainLoop_zero hgoing hlimit] at hrun
      cases hrun
    | succ less =>
      obtain ⟨edge, attempt, hround⟩ : ∃ edge attempt, b.round (pace rounds) = (edge, attempt) :=
        ⟨_, _, rfl⟩
      rcases attempt.eq_done_or_failed with hdone | ⟨e, hfailed⟩
      · rw [hdone] at hround
        rw [mainLoop_succ hgoing hlimit hround] at hrun
        exact Or.inr ⟨less, edge, _, rfl, hgoing, hlimit, hround, hrun⟩
      · rw [hfailed] at hround
        rw [mainLoop.eq_def, hgoing, if_neg Bool.false_ne_true, hlimit,
          if_neg Bool.false_ne_true] at hrun
        simp only [hround, Attempt.failed] at hrun
        cases hrun

/-- The main loop stops at a boundary, and only because the device has finished or the limit is
reached. -/
lemma Boundary.mainLoop {accepted : List UInt8} (h : Boundary start accepted edges b)
    (hline : b.line = some line)
    (hrun : b.mainLoop pace budget rounds edges = (.ok finished, last)) :
    ∃ bytes edges' line', Boundary start (accepted ++ bytes) edges' last
      ∧ last.line = some line' ∧ line.producer.Gave bytes line'.producer
      ∧ Dut.finished last.dut = finished
      ∧ (finished = false → limitReached last.limit edges' = true) := by
  induction budget using Nat.strong_induction_on generalizing accepted edges b line rounds with
  | _ budget ih =>
    rcases mainLoop_cases hrun with
      ⟨rfl, hfinished, hlimit⟩ | ⟨less, edge, b', hbudget, hgoing, hlimit, hround, hrest⟩
    · exact ⟨[], edges, line, by rwa [List.append_nil], hline, .refl _, hfinished, hlimit⟩
    · -- the producer's steps are an arrival, and then the round is one in which nothing arrives
      obtain ⟨bytes, queue, producer, haccepts, hgave, hproduce⟩ :=
        produce_accepts hline (pace rounds)
      rw [round_eq, hproduce] at hround
      have hboundary := (h.arrive producer hline haccepts).round hgoing hlimit hround
      obtain ⟨line', hline', hproducer⟩ := line_round (b := { b with
        line := some { line with queue, producer } }) rfl
      rw [hround] at hline'
      obtain ⟨more, edges', line'', hlast, hline'', hgave', hstop⟩ :=
        ih less (by omega) hboundary hline' hrest
      rw [hproducer] at hgave'
      refine ⟨bytes ++ more, edges', line'', ?_, hline'', hgave.trans hgave', hstop⟩
      rwa [← List.append_assoc]

/-- A main loop ends well if every round does and a potential bounds how many rounds there are.
What the rounds keep still holds at its end. -/
lemma mainLoop_ok (P : ℕ → ℕ → Bench σ κ β → Prop)
    (hround : ∀ {n edges b} steps, P n edges b → Dut.finished b.dut = false →
      limitReached b.limit edges = false → ∃ m edge b', n = m + 1
        ∧ b.round steps = (edge, .done b') ∧ P m (if edge = .rising then edges + 1 else edges) b')
    (pace : Pace) (rounds : ℕ) {n : ℕ} (h : P n edges b) (hn : n ≤ budget) :
    ∃ finished last m edges', b.mainLoop pace budget rounds edges = (.ok finished, last)
      ∧ P m edges' last ∧ Dut.finished last.dut = finished
      ∧ (finished = false → limitReached last.limit edges' = true) := by
  induction n using Nat.strong_induction_on generalizing budget edges b rounds with
  | _ n ih =>
    by_cases hstop : Dut.finished b.dut = true ∨ limitReached b.limit edges = true
    · obtain ⟨finished, hloop, hfinished, hlimit⟩ := mainLoop_of_stop hstop
      exact ⟨finished, b, n, edges, hloop, h, hfinished, hlimit⟩
    · obtain ⟨hgoing, hlimit⟩ : Dut.finished b.dut = false
          ∧ limitReached b.limit edges = false := by
        simpa using hstop
      obtain ⟨m, edge, b', hm, hstep, hnext⟩ := hround (pace rounds) h hgoing hlimit
      -- the potential was not yet used up, so neither is the budget
      obtain ⟨less, rfl⟩ : ∃ less, budget = less + 1 := ⟨budget - 1, by omega⟩
      rw [mainLoop_succ hgoing hlimit hstep]
      exact ih m (by omega) (rounds + 1) hnext (by omega)

end MainLoop

/-! ## Launch and run -/

/-- The part of a run before its main loop: power-on, reset and warm-up. -/
def launch (b : Bench σ κ β) : Attempt (Bench σ κ β) :=
  (({ b with dut := powerOn b.dut } : Bench σ κ β).sampleStart.andThen fun b =>
      resetAndWarmUp { b with phase := .resetting }).andThen fun b =>
    .done { b with dut := Dut.setUartRx true b.dut, phase := .running }

lemma run_eq (pace : Pace) (b : Bench σ κ β) :
    b.run pace = match b.launch with
      | (.error e, b) => (.error e, b)
      | (.ok _, b) =>
        match b.mainLoop pace b.togglesLeft 0 0 with
        | (.error e, b) => (.error e, b)
        | (.ok finished, b) =>
          match ({ b with phase := .finished } : Bench σ κ β).closeRecorder with
          | (.error e, b) => (.error e, b)
          | (.ok _, b) => (.ok (b.summary finished), b) := by
  unfold run launch
  dsimp only
  generalize ({ b with dut := powerOn b.dut } : Bench σ κ β).sampleStart.andThen
    (fun b => resetAndWarmUp { b with phase := .resetting }) = prepared
  rcases prepared with ⟨_ | _, c⟩ <;> rfl

/-- A run that ends well is a launch, a main loop and the closing of the recorder. -/
lemma run_eq_ok_iff {pace : Pace} {summary : Summary} {b' : Bench σ κ β} :
    b.run pace = (.ok summary, b') ↔
      ∃ start finished last, b.launch = .done start
        ∧ start.mainLoop pace start.togglesLeft 0 0 = (.ok finished, last)
        ∧ ({ last with phase := .finished } : Bench σ κ β).closeRecorder = .done b'
        ∧ summary = b'.summary finished := by
  constructor
  · intro hrun
    rw [run_eq] at hrun
    split at hrun
    case h_1 => cases hrun
    case h_2 ok start hlaunch =>
      split at hrun
      case h_1 => cases hrun
      case h_2 finished last hloop =>
        split at hrun
        case h_1 => cases hrun
        case h_2 ok' closed hclose =>
          cases hrun
          exact ⟨start, finished, last, hlaunch, hloop, hclose, rfl⟩
  · rintro ⟨start, finished, last, hlaunch, hloop, hclose, rfl⟩
    rw [run_eq, hlaunch]
    simp only [Attempt.done, hloop, hclose]

omit [Bridge β] in
/-- What a launch goes through, and what it leaves alone. -/
lemma launch_eq_done_iff :
    b.launch = .done start ↔
      ∃ recorder dut clock dut' recorder' phase',
        Recorder.sampleOnce (b.recorder, powerOn b.dut) = .done (recorder, dut)
        ∧ b.clock.resetSequence watchReset b.resetToggles b.warmupToggles
            (dut, recorder, .resetting) = .done (clock, dut', recorder', phase')
        ∧ start = { b with
            clock, dut := Dut.setUartRx true dut', recorder := recorder', phase := .running } := by
  rw [launch]
  constructor
  · intro h
    obtain ⟨warmed, hprepared, hstart⟩ := Attempt.andThen_eq_done.mp h
    obtain ⟨on, hon, hwarm⟩ := Attempt.andThen_eq_done.mp hprepared
    obtain ⟨⟨recorder, dut⟩, hsample, rfl⟩ := Attempt.map_eq_done.mp hon
    obtain ⟨⟨clock, dut', recorder', phase'⟩, hreset, rfl⟩ := Attempt.map_eq_done.mp hwarm
    cases hstart
    exact ⟨recorder, dut, clock, dut', recorder', phase', hsample, hreset, rfl⟩
  · rintro ⟨recorder, dut, clock, dut', recorder', phase', hsample, hreset, rfl⟩
    simp only [sampleStart, hsample, Attempt.map_done, Attempt.done_andThen, resetAndWarmUp, hreset]

/-- A run that ends well has stopped at a boundary. -/
lemma run_boundary {pace : Pace} {summary : Summary} {b' : Bench σ κ β}
    (hrun : b.run pace = (.ok summary, b')) (hline : b.line = some line) :
    ∃ start bytes edges last line', b.launch = .done start
      ∧ Boundary start (line.queue.contents ++ bytes) edges last
      ∧ last.line = some line' ∧ line.producer.Gave bytes line'.producer
      ∧ Dut.finished last.dut = summary.finishedByModel
      ∧ (summary.finishedByModel = false → limitReached last.limit edges = true)
      ∧ ({ last with phase := .finished } : Bench σ κ β).closeRecorder = .done b' := by
  obtain ⟨start, finished, last, hlaunch, hloop, hclose, rfl⟩ := run_eq_ok_iff.mp hrun
  have hstart : start.line = some line := by
    obtain ⟨-, -, -, -, -, -, -, -, rfl⟩ := launch_eq_done_iff.mp hlaunch
    exact hline
  obtain ⟨bytes, edges, line', hboundary, hline', hgave, hfinished, hlimit⟩ :=
    (Boundary.start hstart).mainLoop hstart hloop
  exact ⟨start, bytes, edges, last, line', hlaunch, hboundary, hline', hgave, hfinished, hlimit,
    hclose⟩

/-! ## Without a recorder -/

section Disabled

variable (hdisabled : b.recorder = .disabled)
include hdisabled

omit [Bridge β] in
lemma sample_of_disabled : b.sample = .done b := by
  have hsample : Recorder.sampleTwice (b.recorder, b.dut) = .done (b.recorder, b.dut) := by
    rw [hdisabled]
    rfl
  rw [sample, hsample]
  rfl

omit [Dut σ] [Bridge β] in
lemma closeRecorder_of_disabled : b.closeRecorder = .done b := by
  have hclose : Recorder.close (b.recorder, b.dut) = .done (b.recorder, b.dut) := by
    rw [hdisabled]
    rfl
  rw [closeRecorder, hclose]
  rfl

/-- Without a recorder no round fails. -/
lemma round_of_disabled (steps : ℕ) :
    ∃ edge b', b.round steps = (edge, .done b') ∧ b'.recorder = .disabled := by
  have hproduced : (b.produce steps).recorder = .disabled := by
    rw [recorder_produce, hdisabled]
  rw [round]
  split
  case h_1 c htoggle =>
    have hc : c.driveLine.driveTap.recorder = .disabled := by
      rw [recorder_driveTap, recorder_driveLine, ← hproduced, ← recorder_toggle (b.produce steps),
        htoggle]
    exact ⟨_, _, by rw [sample_of_disabled hc], hc⟩
  case h_2 c htoggle =>
    have hc : c.driveTap.recorder = .disabled := by
      rw [recorder_driveTap, ← hproduced, ← recorder_toggle (b.produce steps),
        htoggle]
    exact ⟨_, _, by rw [sample_of_disabled hc], hc⟩

omit [Bridge β] in
/-- Without a recorder no launch fails. -/
lemma launch_of_disabled :
    ∃ start, b.launch = .done start ∧ start.recorder = .disabled
      ∧ start.clock.toggles = b.clock.toggles + b.resetToggles + b.warmupToggles := by
  have hwatch : ∀ (phase : Phase) (s : σ) (r : Recorder κ × Phase), r.1 = .disabled →
      ∃ r', watchReset phase (s, r) = .done (s, r') ∧ r'.1 = .disabled := by
    rintro phase s ⟨recorder, last⟩ rfl
    exact ⟨(.disabled, phase), rfl, rfl⟩
  obtain ⟨clock, ⟨dut, recorder, phase⟩, hreset, htoggles, hrecorder⟩ :=
    Clock.resetSequence_done hwatch b.resetToggles b.warmupToggles b.clock
      (x := (powerOn b.dut, b.recorder, .resetting)) hdisabled
  have hsample : Recorder.sampleOnce (b.recorder, powerOn b.dut)
      = .done (b.recorder, powerOn b.dut) := by
    rw [hdisabled]
    rfl
  exact ⟨_, launch_eq_done_iff.mpr ⟨_, _, clock, dut, recorder, phase, hsample, hreset, rfl⟩,
    hrecorder, htoggles⟩

end Disabled

end Bench

end SocBench
