import SocBench.Dut.Basic

/-!
# Devices in shared libraries

A device can live in a shared library that exports a handful of entry points: one each to make,
destroy and evaluate it, and three more for its tracer.  The tracer can be used only if all three
are there.
-/

namespace SocBench

/-- The levels of the pins that drive a device. -/
structure PinLevels where
  clk : Bool := false
  rstN : Bool := false
  uartRx : Bool := false
  tap : TapLevels := {}

/-- The levels that a device drives. -/
structure OutputLevels where
  finished : Bool := false
  dumpEnabled : Bool := false
  tdo : Bool := false

/-- The entry points of a library. -/
inductive EntryPoint where
  | create
  | destroy
  | eval
  | traceOpen
  | traceDump
  | traceClose
  deriving DecidableEq

/-- The name under which an entry point is exported. -/
def EntryPoint.symbol : EntryPoint → String
  | .create => "alioth_tb_new"
  | .destroy => "alioth_tb_destroy"
  | .eval => "alioth_tb_eval"
  | .traceOpen => "alioth_tb_trace_open"
  | .traceDump => "alioth_tb_trace_dump"
  | .traceClose => "alioth_tb_trace_close"

/-- A library whose state is `ℓ`: what it exports, and what its entry points do.  Making a device
may fail, and opening the tracer gives a code that is zero on success. -/
structure Library (ℓ : Type) where
  exports : EntryPoint → Bool
  create : ℓ → Bool × ℓ
  destroy : ℓ → ℓ
  eval : PinLevels → ℓ → OutputLevels × ℓ
  traceOpen : String → Nat → ℓ → Int × ℓ
  traceDump : Nat → ℓ → ℓ
  traceClose : ℓ → ℓ

/-- A device from a library. -/
structure LibraryDut (ℓ : Type) where
  library : Library ℓ
  state : ℓ
  path : String
  hasTracer : Bool
  tracing : Bool := false
  pins : PinLevels := { uartRx := true }
  outputs : OutputLevels := {}

namespace LibraryDut

variable {ℓ : Type}

/-- Makes the device of a library. The entry points it cannot do without are looked up in order. -/
def load (path : String) (library : Library ℓ) (state : ℓ) :
    Except BenchError (LibraryDut ℓ) × ℓ :=
  match [EntryPoint.create, .destroy, .eval].find? (!library.exports ·) with
  | some missing => (.error (.missingSymbol missing.symbol), state)
  | none =>
    match library.create state with
    | (false, state) =>
      (.error (.modelLoad path (EntryPoint.create.symbol ++ " returned null")), state)
    | (true, state) =>
      let hasTracer := [EntryPoint.traceOpen, .traceDump, .traceClose].all library.exports
      (.ok { library, state, path, hasTracer }, state)

/-- Evaluates the device. -/
def eval (d : LibraryDut ℓ) : LibraryDut ℓ :=
  let (outputs, state) := d.library.eval d.pins d.state
  { d with outputs, state }

/-- What is answered when the library has no tracer. -/
def untraceable (d : LibraryDut ℓ) : Attempt (LibraryDut ℓ) :=
  .failed (.unsupported (d.path ++ " does not export the trace entry points")) d

/-- Opens the tracer. A depth beyond the largest signed word counts as that word. -/
def traceOpen (path : String) (depth : Nat) (d : LibraryDut ℓ) : Attempt (LibraryDut ℓ) :=
  if !d.hasTracer then d.untraceable
  else if path.toList.contains '\x00' then .failed (.traceOpen path "path contains a NUL byte") d
  else
    let (code, state) := d.library.traceOpen path (min depth 0x7FFFFFFF) d.state
    let d := { d with state }
    if code ≠ 0 then
      .failed (.traceOpen path (EntryPoint.traceOpen.symbol ++ " returned " ++ toString code)) d
    else .done { d with tracing := true }

/-- Gives the tracer a sample. -/
def traceDump (tick : Tick) (d : LibraryDut ℓ) : Attempt (LibraryDut ℓ) :=
  if !d.hasTracer then d.untraceable
  else .done { d with state := d.library.traceDump tick.value.toNat d.state }

/-- Closes the tracer if it is open. -/
def traceClose (d : LibraryDut ℓ) : Attempt (LibraryDut ℓ) :=
  if !d.hasTracer then d.untraceable
  else if d.tracing then
    .done { d with state := d.library.traceClose d.state, tracing := false }
  else .done d

/-- Closes the tracer if it is open, and destroys the device. -/
def unload (d : LibraryDut ℓ) : ℓ :=
  let d := if d.tracing then d.traceClose.2 else d
  d.library.destroy d.state

instance : Dut (LibraryDut ℓ) where
  clk d := d.pins.clk
  setClk level d := { d with pins := { d.pins with clk := level } }
  rstN d := d.pins.rstN
  setRstN level d := { d with pins := { d.pins with rstN := level } }
  uartRx d := d.pins.uartRx
  setUartRx level d := { d with pins := { d.pins with uartRx := level } }
  eval := eval
  finished d := d.outputs.finished
  dumpEnabled d := d.outputs.dumpEnabled
  hasTap _ := true
  tap d := d.pins.tap
  driveTap levels d := { d with pins := { d.pins with tap := levels } }
  tdo d := d.outputs.tdo
  traceOpen := traceOpen
  traceDump := traceDump
  traceClose := traceClose

end LibraryDut

end SocBench
