import SocBench.Dut.Basic

/-!
# Still pictures of a device

A still shows fixed levels and probes and does not react to anything.
-/

namespace SocBench.Sample

/-- The visible state of a device at one moment. -/
structure Still where
  clk : Bool := false
  rstN : Bool := false
  uartRx : Bool := false
  tap : TapLevels := {}
  tdo : Bool := false
  finished : Bool := false
  dumpEnabled : Bool := false
  probes : List Probe := []

instance : Dut Still where
  clk s := s.clk
  setClk level s := { s with clk := level }
  rstN s := s.rstN
  setRstN level s := { s with rstN := level }
  uartRx s := s.uartRx
  setUartRx level s := { s with uartRx := level }
  eval s := s
  finished s := s.finished
  dumpEnabled s := s.dumpEnabled
  tap s := s.tap
  driveTap levels s := { s with tap := levels }
  tdo s := s.tdo
  probes s := s.probes

end SocBench.Sample
