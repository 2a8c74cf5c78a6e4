import SocBench.Bench.Settings
import SocBench.Cli.Invocation
import SocBench.Config.Validation

/-!
# From configuration and command line to the settings of a run

Options of the command line replace the values of the configuration, and the result is checked
again, so settings that reach a run always have a usable bit period, pace and limit.
-/

namespace SocBench.Cli

/-- The configuration with the options of the command line in place. -/
def Invocation.override (i : Invocation) (c : Config) : Config where
  model := { library := i.model.or c.model.library
             terminator := i.terminator.getD c.model.terminator }
  clock := { frequency := i.clock.getD c.clock.frequency }
  reset := c.reset
  uart := { c.uart with enabled := c.uart.enabled && !i.noUart, baud := i.baud.getD c.uart.baud }
  trace := { c.trace with path := i.traceFile.getD c.trace.path
                          format := i.traceFormat.getD c.trace.format }
  jtag := { c.jtag with enabled := c.jtag.enabled || i.jtag, port := i.jtagPort.getD c.jtag.port }
  run := { maxCycles := i.maxCycles.getD c.run.maxCycles }

/-- The configuration with the options of the command line in place, checked. -/
def Invocation.applyTo (i : Invocation) (c : Config) : Except ConfigError Config :=
  let c := i.override c
  c.validate.map fun _ => c

/-- How a status line names the model. -/
def modelName (c : Config) : String :=
  c.model.library.getD "reference SoC"

/-- The settings of a run.  The section on traces only says where and how; whether there is a trace
is asked for on the command line. -/
def benchSettings (c : Config) (trace : Bool) : BenchSettings where
  clock := c.clock.frequency
  baud := c.uart.baud
  uartEnabled := c.uart.enabled
  queueDepth := c.uart.queueDepth.toNat
  resetToggles := c.reset.cycles.toNat
  warmupToggles := c.reset.warmup.toNat
  trace := if trace then
      some { path := c.trace.path, depth := c.trace.depth.toNat, format := c.trace.format }
    else none
  jtag := if c.jtag.enabled then
      some { port := c.jtag.port.toNat, tckPeriod := c.jtag.tckPeriod.toNat }
    else none
  maxCycles := if c.run.maxCycles = 0 then none else some c.run.maxCycles.toNat

end SocBench.Cli
