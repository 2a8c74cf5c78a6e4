import SocBench.Config.Basic
import SocBench.Config.Error

/-!
# Values that fit together

A configuration can be run when the clock and the line rate are not zero, one bit of the line lasts
at least one clock edge, the waveform has a file to go to, and the debug bridge has a pace.  Of
several faults the first in this order is reported.
-/

namespace SocBench.Config

/-- Checks a configuration. -/
def validate (c : Config) : Except ConfigError Unit :=
  if c.clock.frequency.isZero then .error (.invalid "clock.frequency" "must be non-zero")
  else if c.uart.baud = 0 then .error (.invalid "uart.baud" "must be non-zero")
  else if (c.clock.frequency.cyclesPer ⟨c.uart.baud.toUInt64⟩).getD 0 = 0 then
    .error (.invalid "uart.baud" (toString c.uart.baud.toNat ++ " is too fast for a "
      ++ c.clock.frequency.toText ++ " clock"))
  else if c.trace.path.isEmpty then .error (.invalid "trace.path" "must not be empty")
  else if c.jtag.tckPeriod = 0 then .error (.invalid "jtag.tck_period" "must be at least 1")
  else .ok ()

end SocBench.Config
