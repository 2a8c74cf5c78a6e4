import SocBench.Config.Basic

/-!
# The settings of a run

Everything a run needs to know before it starts, apart from the model and its input.
-/

namespace SocBench

/-- Where a waveform goes and who writes it. -/
structure TraceSettings where
  path : String
  depth : Nat
  format : TraceFormat

/-- Where the debug bridge listens, and how many steps lie between two of its commands. -/
structure JtagSettings where
  port : Nat
  tckPeriod : Nat

/-- The settings of a run. A queue depth of zero is no bound, no limit means none. -/
structure BenchSettings where
  clock : Frequency := ⟨242000000⟩
  baud : UInt32 := 115200
  uartEnabled : Bool := true
  queueDepth : Nat := 0
  resetToggles : Nat := 100
  warmupToggles : Nat := 50000
  trace : Option TraceSettings := none
  jtag : Option JtagSettings := none
  maxCycles : Option Nat := none

end SocBench
