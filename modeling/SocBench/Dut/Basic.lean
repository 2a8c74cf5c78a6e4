import SocBench.Bench.Attempt
import SocBench.Tick

/-!
# Devices under test

A device is anything with a clock, a reset, and a serial input that can be evaluated after its pins
have changed.  It says when it has finished and whether it wants its waveform recorded.  A JTAG tap,
a tracer of its own and inner values worth recording are optional.
-/

namespace SocBench

/-- The levels of the inputs of a JTAG tap. -/
structure TapLevels where
  tck : Bool := false
  tms : Bool := false
  tdi : Bool := false
  deriving DecidableEq

/-- An inner value of a device: its name, its width in bits, and the value. -/
structure Probe where
  name : String
  width : Nat
  value : UInt64

/-- The value of a probe as its width shows it. -/
def Probe.shown (p : Probe) : Nat :=
  if 64 ≤ p.width then p.value.toNat else p.value.toNat % Nat.pow 2 p.width

/-- What a device without a tracer answers when it is asked to trace. -/
def noTracer : BenchError :=
  .unsupported "model has no native tracer"

/-- Devices that a bench can drive. Reset is active while its pin is low. -/
class Dut (σ : Type) where
  clk : σ → Bool
  setClk : Bool → σ → σ
  rstN : σ → Bool
  setRstN : Bool → σ → σ
  uartRx : σ → Bool
  setUartRx : Bool → σ → σ
  /-- Lets the device react to the levels of its pins. -/
  eval : σ → σ
  finished : σ → Bool
  /-- Whether the device wants its waveform recorded now. -/
  dumpEnabled : σ → Bool
  hasTap : σ → Bool := fun _ => false
  tap : σ → TapLevels := fun _ => {}
  driveTap : TapLevels → σ → σ := fun _ s => s
  tdo : σ → Bool := fun _ => false
  /-- Starts the tracer of the device on a file, down to a depth of its hierarchy. -/
  traceOpen : String → Nat → σ → Attempt σ := fun _ _ s => .failed noTracer s
  traceDump : Tick → σ → Attempt σ := fun _ s => .failed noTracer s
  traceClose : σ → Attempt σ := fun s => .failed noTracer s
  probes : σ → List Probe := fun _ => []

end SocBench
