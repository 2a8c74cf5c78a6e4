import SocBench.Fault

/-!
# Why a bench gives up

A run ends early when its waveform cannot be written, when the model under test cannot be loaded or
cannot do what is asked of it, or when the settings leave no time for a bit.
-/

namespace SocBench

/-- Why a bench gives up. -/
inductive BenchError where
  | traceOpen (path reason : String)
  | waveform (reason : String)
  | libraryOpen (path : String)
  | modelLoad (path reason : String)
  | missingSymbol (symbol : String)
  | invalidBitPeriod (clockHz baud : Nat)
  | jtagBind (port : Nat)
  | unsupported (reason : String)
  | fault (cause : Fault)
  deriving DecidableEq

/-- The wording of the error. -/
def BenchError.message : BenchError → String
  | .traceOpen path reason => "cannot open trace file " ++ path ++ ": " ++ reason
  | .waveform reason => "waveform I/O error: " ++ reason
  | .libraryOpen path => "cannot load model " ++ path ++ ": it is not a loadable library"
  | .modelLoad path reason => "cannot load model " ++ path ++ ": " ++ reason
  | .missingSymbol symbol => "model library does not export `" ++ symbol ++ "`"
  | .invalidBitPeriod clockHz baud =>
    toString clockHz ++ " Hz clock gives a zero-length bit at " ++ toString baud ++ " baud"
  | .jtagBind port => "cannot listen for JTAG on port " ++ toString port
  | .unsupported reason => "unsupported: " ++ reason
  | .fault cause => cause.message

end SocBench
