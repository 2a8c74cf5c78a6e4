import SocBench.Cli.Invocation
import SocBench.Frequency.Reading
import SocBench.Numeral.Word

/-!
# Reading a command line

Arguments are read from left to right on two levels: before the verb, and after it.  A value is
taken from the same argument after an equals sign, or from the next argument unless that one starts
with a hyphen.  A value in an argument of its own is checked when the next option begins or the
level ends, so an unknown option is reported before a bad value that stands in front of it, and a
fault after the verb before one in the last value in front of it.
-/

namespace SocBench.Cli

/-- What an option does to the invocation. -/
inductive Effect where
  | flag (set : Invocation → Invocation)
  | value (set : String → Except UsageError (Invocation → Invocation))
  | answer (reply : UsageError)

/-- An option by its long name, and by one letter if it has one. -/
structure OptionSpec where
  name : String
  letter : Option Char := none
  effect : Effect

/-- One of a list of named choices. -/
def choose {α : Type} (choices : List (String × α)) (set : α → Invocation → Invocation) : Effect :=
  .value fun s =>
    match choices.lookup s with
    | some a => .ok (set a)
    | none => .error .badChoice

/-- A value that a reader must accept. -/
def parsed {α : Type} (read : String → Option α) (set : α → Invocation → Invocation) : Effect :=
  .value fun s =>
    match read s with
    | some a => .ok (set a)
    | none => .error .badValue

/-- A path, which may not be empty. -/
def path (set : String → Invocation → Invocation) : Effect :=
  .value fun s => if s.isEmpty then .error .badChoice else .ok (set s)

/-- The options of both levels. -/
def sharedOptions : List OptionSpec :=
  [{ name := "quiet", letter := some 'q', effect := .flag fun i => { i with quiet := true } },
   { name := "verbose", letter := some 'v', effect := .flag fun i => { i with verbose := true } },
   { name := "color"
     effect := choose [("auto", .auto), ("always", .always), ("never", .never)]
       fun c i => { i with color := c } },
   { name := "config", effect := .value fun s => .ok fun i => { i with config := some s } },
   { name := "help", letter := some 'h', effect := .answer .help }]

/-- The options before the verb. -/
def topOptions : List OptionSpec :=
  sharedOptions ++ [{ name := "version", letter := some 'V', effect := .answer .version }]

/-- The options after the verb. -/
def verbOptions : List OptionSpec :=
  sharedOptions ++
  [{ name := "trace", effect := .flag fun i => { i with trace := true } },
   { name := "trace-file", effect := path fun s i => { i with traceFile := some s } },
   { name := "trace-format"
     effect := choose [("vcd", .vcd), ("native", .native)]
       fun f i => { i with traceFormat := some f } },
   { name := "model", effect := path fun s i => { i with model := some s } },
   { name := "clock"
     effect := parsed (fun s => (Frequency.read s).toOption)
       fun f i => { i with clock := some f } },
   { name := "baud"
     effect := parsed (fun s => readSigned? UInt32.size s.toList)
       fun n i => { i with baud := some n.toUInt32 } },
   { name := "no-uart", effect := .flag fun i => { i with noUart := true } },
   { name := "jtag", effect := .flag fun i => { i with jtag := true } },
   { name := "jtag-port"
     effect := parsed (fun s => readSigned? UInt16.size s.toList)
       fun n i => { i with jtagPort := some n.toUInt16 } },
   { name := "max-cycles"
     effect := parsed (fun s => readNatural? UInt64.size s.toList)
       fun n i => { i with maxCycles := some n.toUInt64 } },
   { name := "terminator"
     effect := parsed (fun s => readByte? s.toList) fun b i => { i with terminator := some b } },
   { name := "report"
     effect := choose [("text", .text), ("json", .json)] fun r i => { i with report := r } }]

/-- The verbs. -/
def verbs : List (String × Verb) :=
  [("run", .run), ("check", .check)]

/-- An option whose value is not checked yet. -/
structure Pending where
  option : OptionSpec
  value : Option String := none

/-- How far a level was read: the options seen, what they set, the option that still has to be
checked, and whether a lone `--` ended the options. -/
structure Progress where
  seen : List String := []
  set : Invocation → Invocation := id
  pending : Option Pending := none
  wordsOnly : Bool := false

namespace Progress

/-- Whether the next argument is the value of the last option. -/
def awaitsValue (p : Progress) : Bool :=
  match p.pending with
  | some pending => pending.value.isNone
  | none => false

/-- Carries out one option.  A missing value is reported before a repetition, and that before a
value that does not fit. -/
def carryOut (p : Progress) (option : OptionSpec) (value : Option String) :
    Except UsageError Progress := do
  let record (set : Invocation → Invocation) : Progress :=
    { p with seen := option.name :: p.seen, set := set ∘ p.set }
  match option.effect, value with
  | .answer reply, _ => .error reply
  | .value _, none => .error .badChoice
  | .flag set, _ =>
    if p.seen.contains option.name then .error .repeatedArgument else return record set
  | .value set, some value =>
    if p.seen.contains option.name then .error .repeatedArgument else return record (← set value)

/-- Checks the option that was left pending. -/
def settle (p : Progress) : Except UsageError Progress :=
  match p.pending with
  | none => .ok p
  | some pending => carryOut { p with pending := none } pending.option pending.value

/-- Begins an option, with the value attached to it if there is one. -/
def start (p : Progress) (option : OptionSpec) (attached : Option String) :
    Except UsageError Progress :=
  match option.effect, attached with
  | .value _, none => do
    let p ← p.settle
    return { p with pending := some { option } }
  | .value _, some _ => do (← p.settle).carryOut option attached
  | _, some _ => .error .unwantedValue
  | _, none => do (← p.settle).carryOut option none

/-- Carries out a run of one-letter options. -/
def letters (options : List OptionSpec) : List Char → Progress → Except UsageError Progress
  | [], p => .ok p
  | c :: rest, p =>
    match options.find? (·.letter == some c) with
    | some option => do letters options rest (← p.start option none)
    | none => .error .unknownArgument

/-- Splits a long option at its first equals sign. -/
def splitLong (body : List Char) : String × Option String :=
  (String.ofList (body.takeWhile (· != '=')),
    match body.dropWhile (· != '=') with
    | _ :: value => some (String.ofList value)
    | [] => none)

/-- Reads one argument that is neither a verb nor a lone `--`.  The result is none for a word that
belongs to no option. -/
def argument (options : List OptionSpec) (arg : String) (p : Progress) :
    Except UsageError (Option Progress) :=
  match arg.toList with
  | '-' :: '-' :: body =>
    let (name, attached) := splitLong body
    match options.find? (·.name == name) with
    | some option => do return some (← p.start option attached)
    | none => .error .unknownArgument
  | '-' :: c :: rest => do return some (← letters options (c :: rest) p)
  | _ =>
    match p.pending with
    | some { option, value := none } =>
      .ok (some { p with pending := some { option, value := some arg } })
    | _ => .ok none

end Progress

/-- Reads the arguments after the verb. -/
def readVerbLevel : List String → Progress → Except UsageError Progress
  | [], p => p.settle
  | arg :: rest, p =>
    if p.wordsOnly then .error .unknownArgument
    else if arg == "--" then readVerbLevel rest { p with wordsOnly := true }
    else do
      match ← p.argument verbOptions arg with
      | some p => readVerbLevel rest p
      | none => .error .unknownArgument

/-- Help may be asked for about at most one verb, or about help. -/
def helpAbout : List String → UsageError
  | [] => .help
  | [topic] => if topic == "help" || verbs.any (·.1 == topic) then .help else .unknownVerb
  | _ => .unknownVerb

/-- Reads a whole command line. -/
def readTopLevel : List String → Progress → Except UsageError Invocation
  | [], p => do
    let p ← p.settle
    .error (if p.seen.isEmpty then .helpForEmpty else .missingVerb)
  | arg :: rest, p =>
    if p.wordsOnly then
      .error (if arg == "help" || verbs.any (·.1 == arg) then .unknownArgument else .unknownVerb)
    else if arg == "help" && !p.awaitsValue then .error (helpAbout rest)
    else
      match (if p.awaitsValue then none else verbs.lookup arg) with
      | some verb => do
        let inner ← readVerbLevel rest {}
        let outer ← p.settle
        return inner.set (outer.set { verb })
      | none =>
        if arg == "--" then readTopLevel rest { p with wordsOnly := true }
        else do
          match ← p.argument topOptions arg with
          | some p => readTopLevel rest p
          | none => .error .unknownVerb

/-- Reads the arguments after the program's name. -/
def read (args : List String) : Except UsageError Invocation :=
  readTopLevel args {}

end SocBench.Cli
