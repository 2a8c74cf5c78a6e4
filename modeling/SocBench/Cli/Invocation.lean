import SocBench.Config.Basic

/-!
# What a command line asks for

An invocation is a verb with its options; options that were not given are none, and they override
the configuration file when they were.  A usage error says why a command line asks for nothing.
-/

namespace SocBench.Cli

/-- Whether log output is coloured. -/
inductive ColorChoice where
  | auto
  | always
  | never
  deriving DecidableEq

/-- How a result is reported. -/
inductive ReportFormat where
  | text
  | json
  deriving DecidableEq

/-- What to do: run the model, or only show the settings a run would use. -/
inductive Verb where
  | run
  | check
  deriving DecidableEq

/-- A command line that was understood. -/
structure Invocation where
  verb : Verb
  quiet : Bool := false
  verbose : Bool := false
  color : ColorChoice := .auto
  config : Option String := none
  trace : Bool := false
  traceFile : Option String := none
  traceFormat : Option TraceFormat := none
  model : Option String := none
  clock : Option Frequency := none
  baud : Option UInt32 := none
  noUart : Bool := false
  jtag : Bool := false
  jtagPort : Option UInt16 := none
  maxCycles : Option UInt64 := none
  terminator : Option UInt8 := none
  report : ReportFormat := .text

/-- Why a command line was not carried out: it was malformed, or it asked for help. -/
inductive UsageError where
  | unknownVerb
  | unknownArgument
  | badChoice
  | badValue
  | repeatedArgument
  | missingVerb
  | unwantedValue
  | help
  | version
  | helpForEmpty
  deriving DecidableEq

/-- Help and version are answers that were asked for; everything else is a failure. -/
def UsageError.exitCode : UsageError → Nat
  | .help | .version => 0
  | _ => 2

end SocBench.Cli
