/-!
# The phases of a run

A run holds the model in reset, lets it warm up, drives it until it finishes, and is over.
-/

namespace SocBench

/-- The phases of a run, in order. -/
inductive Phase where
  | resetting
  | warmingUp
  | running
  | finished
  deriving DecidableEq

/-- How a phase is shown. -/
def Phase.name : Phase → String
  | .resetting => "resetting"
  | .warmingUp => "warming up"
  | .running => "running"
  | .finished => "finished"

end SocBench
