import SocBench.Dut.Basic

/-!
# Bridges to a JTAG tap

A bridge is called once after every clock toggle with the number of the next sample, the inputs of
the tap and its output, and may change the inputs.
-/

namespace SocBench

/-- Bridges that drive a JTAG tap. -/
class Bridge (β : Type) where
  onTick : β → Tick → TapLevels → (tdo : Bool) → β × TapLevels

end SocBench
