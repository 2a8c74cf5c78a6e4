import SocBench.Text.Quoted

/-!
# Refused bus accesses

A device refuses an access that is not aligned to its width, reaches past the end of the block, or
meets no register.
-/

namespace SocBench

/-- Why an access was refused. -/
inductive BusError where
  | outOfRange (offset width size : Nat)
  | misaligned (offset width : Nat)
  | unmapped (offset : Nat)
  deriving DecidableEq

/-- The wording of the error. -/
def BusError.message : BusError → String
  | .outOfRange offset width size =>
    toString width ++ "-byte access at offset 0x" ++ Text.hex offset ++ " is outside the 0x"
      ++ Text.hex size ++ "-byte block"
  | .misaligned offset width =>
    "misaligned " ++ toString width ++ "-byte access at offset 0x" ++ Text.hex offset
  | .unmapped offset => "no register at offset 0x" ++ Text.hex offset

end SocBench
