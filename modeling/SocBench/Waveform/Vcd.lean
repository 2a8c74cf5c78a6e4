import SocBench.Dut.Basic
import SocBench.Waveform.IdCode
import SocBench.Waveform.Storage

/-!
# Waveforms as value changes

A value change dump starts with a header that declares the variables: the pins of the device and
its probes.  Every sample then is its tick followed by the variables whose values are not those
last written.  The writer remembers a variable only after its declaration is stored, and a value
only after its line is stored, so after a failure it goes on from what the file really holds.
-/

namespace SocBench

/-- A declared variable with the value last written. -/
structure VcdVar where
  code : String
  width : Nat
  last : Option Nat := none

/-- The line that gives a variable a value: bare for a single bit, otherwise in binary. -/
def VcdVar.line (v : VcdVar) (value : Nat) : String :=
  if v.width = 1 then toString (value % 2) ++ v.code
  else "b" ++ String.ofList (Nat.toDigits 2 value) ++ " " ++ v.code

/-- A writer of a value change dump. -/
structure VcdSink where
  storage : Storage := {}
  vars : List VcdVar := []
  headerWritten : Bool := false

namespace VcdSink

/-- The names of the pins, in the order they are declared. -/
def pinNames : List String :=
  ["clk", "rst_n", "uart_rx", "tck", "tms", "tdi", "tdo", "finished"]

variable {σ : Type} [Dut σ]

/-- The levels of the pins, in the order of their names. -/
def pinLevels (s : σ) : List Bool :=
  let tap := Dut.tap s
  [Dut.clk s, Dut.rstN s, Dut.uartRx s, tap.tck, tap.tms, tap.tdi, Dut.tdo s, Dut.finished s]

/-- The values of all variables. -/
def values (s : σ) : List Nat :=
  (pinLevels s).map Bool.toNat ++ (Dut.probes s).map Probe.shown

/-- The names and widths of all variables, for a device with the given probes. -/
def declarations (probes : List Probe) : List (String × Nat) :=
  pinNames.map (·, 1) ++ probes.map fun p => (p.name, p.width)

/-- The lines before the declarations. -/
def preamble : List String :=
  ["$date", "  Simulation date", "$end", "$version", "  Alioth testbench", "$end",
    "$timescale", "  1ns", "$end", "$scope module tb_top $end"]

/-- The lines after the declarations. -/
def closing : List String :=
  ["$upscope $end", "$enddefinitions $end"]

/-- Writes a line. -/
def writeLine (k : VcdSink) (line : String) : Attempt VcdSink :=
  (k.storage.write (line ++ "\n")).map fun storage => { k with storage }

/-- Writes lines in order. -/
def writeLines (k : VcdSink) : List String → Attempt VcdSink
  | [] => .done k
  | line :: rest => (k.writeLine line).andThen fun k => k.writeLines rest

/-- Declares variables, numbering them from `index` on. -/
def declare (k : VcdSink) (index : Nat) : List (String × Nat) → Attempt VcdSink
  | [] => .done k
  | (name, width) :: rest =>
    let code := String.ofList (idCode index)
    (k.writeLine ("$var wire " ++ toString width ++ " " ++ code ++ " " ++ name ++ " $end")).andThen
      fun k => declare { k with vars := k.vars ++ [{ code, width }] } (index + 1) rest

/-- Writes the header. -/
def writeHeader (k : VcdSink) (probes : List Probe) : Attempt VcdSink :=
  (k.writeLines preamble).andThen fun k =>
    (k.declare 0 (declarations probes)).andThen fun k =>
      (k.writeLines closing).andThen fun k => .done { k with headerWritten := true }

/-- Writes the values that differ from those last written. -/
def writeChanges (w : Storage) : List VcdVar → List Nat → Attempt (Storage × List VcdVar)
  | var :: vars, value :: values =>
    if var.last = some value then
      (writeChanges w vars values).map fun (w, vars) => (w, var :: vars)
    else
      match w.write (var.line value ++ "\n") with
      | (.ok _, w) =>
        (writeChanges w vars values).map fun (w, vars) =>
          (w, { var with last := some value } :: vars)
      | (.error e, w) => .failed e (w, var :: vars)
  | vars, _ => .done (w, vars)

/-- Writes the changed values of a sample. -/
def writeValues (k : VcdSink) (values : List Nat) : Attempt VcdSink :=
  (writeChanges k.storage k.vars values).map fun (storage, vars) => { k with storage, vars }

/-- Writes a sample, after the header if there is none yet. -/
def dump (k : VcdSink) (tick : Tick) (s : σ) : Attempt VcdSink :=
  if k.headerWritten then
    (k.writeLine tick.toText).andThen fun k => k.writeValues (values s)
  else
    (k.writeHeader (Dut.probes s)).andThen fun k =>
      (k.writeLines [tick.toText, "$dumpvars"]).andThen fun k =>
        (k.writeValues (values s)).andThen fun k => k.writeLine "$end"

/-- Writes the header if no sample did, and makes sure that everything is stored. -/
def close (k : VcdSink) : Attempt VcdSink :=
  (if k.headerWritten then .done k else k.writeHeader []).andThen fun k =>
    k.storage.flush.map fun storage => { k with storage }

end VcdSink

end SocBench
