import SocBench.Frequency.Basic

/-!
# The configuration of a bench

One record per section of the configuration file, with the values that hold when the file says
nothing.
-/

namespace SocBench

/-- Who writes the waveform: the bench itself, or the model. -/
inductive TraceFormat where
  | vcd
  | native
  deriving DecidableEq

namespace Config

/-- The model under test: a shared library, or the built-in system when there is none, and the byte
that ends a run of the built-in system. -/
structure Model where
  library : Option String := none
  terminator : UInt8 := 4

/-- The clock of the model. -/
structure Clock where
  frequency : Frequency := ⟨242000000⟩

/-- How many clock toggles reset is held and how many follow before the run proper. -/
structure Reset where
  cycles : UInt64 := 100
  warmup : UInt64 := 50000

/-- The serial line into the model. A queue depth of zero is no bound. -/
structure Uart where
  enabled : Bool := true
  baud : UInt32 := 115200
  queueDepth : UInt64 := 0

/-- Where and how a waveform is written. -/
structure Trace where
  path : String := "tb_top.vcd"
  depth : UInt32 := 99
  format : TraceFormat := .vcd

/-- The debug bridge. -/
structure Jtag where
  enabled : Bool := false
  port : UInt16 := 5555
  tckPeriod : UInt32 := 10

/-- The limit of a run in rising edges; zero is no limit. -/
structure Run where
  maxCycles : UInt64 := 0

end Config

/-- A whole configuration. -/
structure Config where
  model : Config.Model := {}
  clock : Config.Clock := {}
  reset : Config.Reset := {}
  uart : Config.Uart := {}
  trace : Config.Trace := {}
  jtag : Config.Jtag := {}
  run : Config.Run := {}

end SocBench
