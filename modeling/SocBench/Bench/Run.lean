import SocBench.Bench.Basic

/-!
# Running a bench

A run powers the device on, takes it through reset and warm-up, and then toggles its clock until
the device finishes or the limit of rising edges is reached.  On every rising edge the serial line
moves on by one tick; after every toggle the bridge is called and the recorder samples.

Bytes reach the queue while the run goes on.  How fast is a parameter: a pace says how many steps
the producer takes before each toggle.
-/

namespace SocBench

/-- How many steps the producer takes before each toggle of the main loop. -/
abbrev Pace : Type :=
  Nat → Nat

namespace Bench

variable {σ κ β : Type}

/-- Lets the producer take some steps. -/
def produce (steps : Nat) (b : Bench σ κ β) : Bench σ κ β :=
  match b.line with
  | none => b
  | some line =>
    let (producer, queue) := line.producer.advance steps line.queue
    { b with line := some { line with producer, queue } }

/-- A pace at which the producer never waits longer than the queue makes it. -/
def eagerPace (b : Bench σ κ β) : Pace :=
  let steps := b.line.elim 0 fun line => line.producer.steps
  fun _ => steps

/-- What a run has come to so far. -/
def summary (b : Bench σ κ β) (finishedByModel : Bool) : Summary where
  toggles := b.clock.toggles
  risingEdges := b.clock.risingEdges
  samples := b.recorder.samples
  finalTick := b.recorder.tick.value.toNat
  bytesInjected := b.line.elim 0 fun line => line.encoder.started
  framesCompleted := b.line.elim 0 fun line => line.encoder.completed
  finishedByModel
  phase := b.phase

variable [Dut σ]

/-- Moves the serial line on by one tick. -/
def driveLine (b : Bench σ κ β) : Bench σ κ β :=
  match b.line with
  | none => b
  | some line =>
    let (encoder, queue) := line.encoder.tickFrom line.queue
    { b with line := some { line with encoder, queue }, dut := Dut.setUartRx encoder.level b.dut }

/-- Calls the bridge and drives the tap as it says. -/
def driveTap [Bridge β] (b : Bench σ κ β) : Bench σ κ β :=
  match b.bridge with
  | none => b
  | some bridge =>
    let (bridge, levels) := Bridge.onTick bridge b.recorder.tick (Dut.tap b.dut) (Dut.tdo b.dut)
    { b with bridge := some bridge, dut := Dut.driveTap levels b.dut }

/-- Toggles the clock. -/
def toggle (b : Bench σ κ β) : Edge × Bench σ κ β :=
  let (edge, clock, dut) := b.clock.step b.dut
  (edge, { b with clock, dut })

variable [Sink κ σ]

/-- Takes the samples that follow a toggle. -/
def sample (b : Bench σ κ β) : Attempt (Bench σ κ β) :=
  (Recorder.sampleTwice (b.recorder, b.dut)).map fun (recorder, dut) => { b with recorder, dut }

/-- Takes the sample that follows power-on. -/
def sampleStart (b : Bench σ κ β) : Attempt (Bench σ κ β) :=
  (Recorder.sampleOnce (b.recorder, b.dut)).map fun (recorder, dut) => { b with recorder, dut }

/-- What is done after each toggle of the reset sequence: the phase is noted and samples are
taken. -/
def watchReset (phase : Phase) (x : σ × Recorder κ × Phase) : Attempt (σ × Recorder κ × Phase) :=
  (Recorder.sampleTwice (x.2.1, x.1)).map fun (recorder, dut) => (dut, recorder, phase)

/-- Takes the device through reset and warm-up. -/
def resetAndWarmUp (b : Bench σ κ β) : Attempt (Bench σ κ β) :=
  (b.clock.resetSequence watchReset b.resetToggles b.warmupToggles
      (b.dut, b.recorder, b.phase)).map
    fun (clock, dut, recorder, phase) => { b with clock, dut, recorder, phase }

/-- Whether the limit of rising edges is reached. -/
def limitReached (limit : Option Nat) (edges : Nat) : Bool :=
  match limit with
  | some n => n ≤ edges
  | none => false

variable [Bridge β]

/-- One round of the main loop. The result says whether the clock rose. -/
def round (steps : Nat) (b : Bench σ κ β) : Edge × Attempt (Bench σ κ β) :=
  match (b.produce steps).toggle with
  | (.rising, b) => (.rising, b.driveLine.driveTap.sample)
  | (.falling, b) => (.falling, b.driveTap.sample)

/-- Rounds until the device finishes or the limit is reached.  The result says which of the two it
was.  More rounds than the `budget` would overflow the count of toggles. -/
def mainLoop (pace : Pace) (budget rounds edges : Nat) (b : Bench σ κ β) :
    Except BenchError Bool × Bench σ κ β :=
  if Dut.finished b.dut then (.ok true, b)
  else if limitReached b.limit edges then (.ok false, b)
  else
    match budget with
    | 0 => (.error (.fault .addOverflow), b)
    | budget + 1 =>
      match b.round (pace rounds) with
      | (edge, .ok _, b) =>
        let edges := if edge = .rising then edges + 1 else edges
        mainLoop pace budget (rounds + 1) edges b
      | (_, .error e, b) => (.error e, b)

/-- How many toggles can still be counted. -/
def togglesLeft (b : Bench σ κ β) : Nat :=
  UInt64.size - 1 - b.clock.toggles

/-- A whole run. A second run of the same bench goes on counting where the first one stopped. -/
def run (pace : Pace) (b : Bench σ κ β) : Except BenchError Summary × Bench σ κ β :=
  let b := { b with dut := powerOn b.dut }
  match b.sampleStart.andThen fun b => resetAndWarmUp { b with phase := .resetting } with
  | (.error e, b) => (.error e, b)
  | (.ok _, b) =>
    let b := { b with dut := Dut.setUartRx true b.dut, phase := .running }
    match b.mainLoop pace b.togglesLeft 0 0 with
    | (.error e, b) => (.error e, b)
    | (.ok finished, b) =>
      let b := { b with phase := .finished }
      match b.closeRecorder with
      | (.error e, b) => (.error e, b)
      | (.ok _, b) => (.ok (b.summary finished), b)

end Bench

end SocBench
