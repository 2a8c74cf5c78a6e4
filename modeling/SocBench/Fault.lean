/-!
# Broken preconditions

Words are 64 or 32 bits wide and counting past them is refused, not wrapped.  A fault names the
rule that was broken; it is reported, and the value it happened to is left as it was.
-/

namespace SocBench

/-- A rule that a caller broke. -/
inductive Fault where
  | addOverflow
  | multiplyOverflow
  | fieldTooWide
  deriving DecidableEq

/-- The wording of a fault. -/
def Fault.message : Fault → String
  | .addOverflow => "attempt to add with overflow"
  | .multiplyOverflow => "attempt to multiply with overflow"
  | .fieldTooWide => "field must fit in 32 bits"

end SocBench
