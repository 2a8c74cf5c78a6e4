import SocBench.Dut.Basic
import SocBench.Host.Place

/-!
# Counting devices

The smallest devices a bench can drive.  A counter counts the rising clock edges it sees outside
reset, remembers the serial level at each, and finishes after a given number of them.  A tapped
counter also has a JTAG tap, a tracer that keeps a log, and probes for its counts.
-/

namespace SocBench.Sample

/-- The levels of the three pins at an evaluation. -/
structure PinSample where
  clk : Bool
  rstN : Bool
  uartRx : Bool

/-- A counter. The levels it has seen stand newest first, and the pins of its first evaluations
oldest first. -/
structure Counter where
  finishAfter : Option Nat := none
  dump : Bool := false
  dumpEvery : Nat := 1
  clk : Bool := false
  lastClk : Bool := false
  rstN : Bool := false
  uartRx : Bool := false
  edges : Nat := 0
  evals : Nat := 0
  levels : List Bool := []
  log : List PinSample := []

namespace Counter

/-- How many evaluations the log shows. -/
def logSize : Nat := 64

/-- Lets the counter react to its pins. -/
def eval (s : Counter) : Counter :=
  let counted := s.clk && !s.lastClk && s.rstN
  let pins : PinSample := ⟨s.clk, s.rstN, s.uartRx⟩
  { s with
    evals := s.evals + 1
    lastClk := s.clk
    edges := if counted then s.edges + 1 else s.edges
    levels := if counted then s.uartRx :: s.levels else s.levels
    log := if s.log.length < logSize then s.log ++ [pins] else s.log }

/-- Whether enough edges were counted. -/
def finished (s : Counter) : Bool :=
  match s.finishAfter with
  | some n => n ≤ s.edges
  | none => false

/-- Whether this evaluation is one that is to be recorded. -/
def dumpEnabled (s : Counter) : Bool :=
  s.dump && s.evals % max 1 s.dumpEvery == 0

end Counter

instance : Dut Counter where
  clk s := s.clk
  setClk level s := { s with clk := level }
  rstN s := s.rstN
  setRstN level s := { s with rstN := level }
  uartRx s := s.uartRx
  setUartRx level s := { s with uartRx := level }
  eval := Counter.eval
  finished := Counter.finished
  dumpEnabled := Counter.dumpEnabled

/-- A counter with a JTAG tap and a tracer. The log of the tracer stands newest first. -/
structure TappedCounter where
  counter : Counter
  tap : TapLevels := {}
  tracer : List String := []

namespace TappedCounter

/-- Adds a line to the log of the tracer. -/
def trace (s : TappedCounter) (line : String) : Attempt TappedCounter :=
  .done { s with tracer := line :: s.tracer }

/-- Changes the counter. -/
def onCounter (s : TappedCounter) (f : Counter → Counter) : TappedCounter :=
  { s with counter := f s.counter }

end TappedCounter

instance : Dut TappedCounter where
  clk s := s.counter.clk
  setClk level s := s.onCounter (Dut.setClk level)
  rstN s := s.counter.rstN
  setRstN level s := s.onCounter (Dut.setRstN level)
  uartRx s := s.counter.uartRx
  setUartRx level s := s.onCounter (Dut.setUartRx level)
  eval s := s.onCounter Counter.eval
  finished s := s.counter.finished
  dumpEnabled s := s.counter.dumpEnabled
  hasTap _ := true
  tap s := s.tap
  driveTap levels s := { s with tap := levels }
  tdo s := s.tap.tms ^^ s.tap.tdi
  traceOpen path depth s :=
    s.trace ("open " ++ (Place.lastName? path).getD "" ++ " " ++ toString depth)
  traceDump tick s := s.trace ("dump " ++ toString tick.value.toNat)
  traceClose s := s.trace "close"
  probes s :=
    [⟨"edges", 4, UInt64.ofNat s.counter.edges⟩, ⟨"evals", 64, UInt64.ofNat s.counter.evals⟩]

end SocBench.Sample
