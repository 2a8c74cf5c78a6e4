import SocBench.Dut.Basic

/-!
# Sinks for samples

A sink takes the samples of a device one by one and is closed in the end.  Either may fail, and
either may work through the device itself.
-/

namespace SocBench

/-- Sinks `κ` for samples of devices `σ`. -/
class Sink (κ σ : Type) where
  dump : κ → Tick → σ → Attempt (κ × σ)
  close : κ → σ → Attempt (κ × σ)

end SocBench
