import SocBench.Dut.Basic

/-!
# Commands of the debug bridge

A client drives a JTAG tap with one character per command: a digit sets the three inputs,
`R` asks for the output, and a few letters ask for a reset, blink a lamp, or end the session.
-/

namespace SocBench.Jtag

/-- A command of a client. -/
inductive Command where
  | write (levels : TapLevels)
  | read
  | reset (trst srst : Bool)
  | blink
  | quit
  deriving DecidableEq

/-- The command that a byte stands for, if any. -/
def Command.decode (byte : UInt8) : Option Command :=
  let code := byte.toNat
  if '0'.toNat ≤ code ∧ code ≤ '7'.toNat then
    let bits := code - '0'.toNat
    some (.write { tck := bits.testBit 2, tms := bits.testBit 1, tdi := bits.testBit 0 })
  else if code = 'R'.toNat then some .read
  else if 'r'.toNat ≤ code ∧ code ≤ 'u'.toNat then
    let bits := code - 'r'.toNat
    some (.reset (bits.testBit 1) (bits.testBit 0))
  else if code = 'B'.toNat ∨ code = 'b'.toNat then some .blink
  else if code = 'Q'.toNat then some .quit
  else none

end SocBench.Jtag
