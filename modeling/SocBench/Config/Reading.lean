import SocBench.Config.Validation
import SocBench.Frequency.Reading
import SocBench.Toml.Document

/-!
# Reading a configuration

Each section is a table of known fields, or a list that gives the fields in their order; what is
not given keeps its default.  The first place that does not fit decides the error, in the order of
the document.
-/

namespace SocBench.Config

open Toml (Node Entries)

/-- One field of a record: its name, and how a node sets it. -/
structure Field (α : Type) where
  name : String
  set : Node → α → Except DecodeError α

/-- A field whose value is read from what stands at its place. -/
def Field.of {α β : Type} (name : String) (read : Shape → Except DecodeError β)
    (store : β → α → α) : Field α where
  name := name
  set node a := (read node.shape).map (store · a)

/-- Sets the fields that a table names, in its order. -/
def readTable {α : Type} (fields : List (Field α)) (es : Entries) (a : α) :
    Except DecodeError α :=
  es.foldlM (fun a (name, node) =>
    match fields.find? (·.name == name) with
    | some field => field.set node a
    | none => .error (.unknownField name (fields.map (·.name)))) a

/-- Sets the fields that a list gives, in the order of the fields. -/
def readList {α : Type} (fields : List (Field α)) (items : List Node) (a : α) :
    Except DecodeError α :=
  (fields.zip items).foldlM (fun a (field, node) => field.set node a) a

/-- Reads a section. A date is a table with one field of a reserved name. -/
def readSection {α : Type} (expected : String) (fields : List (Field α)) (a : α) :
    Node → Except DecodeError α
  | .table _ es => readTable fields es a
  | .list items => readList fields items a
  | .tables items => readList fields (items.map (Node.table .header)) a
  | .moment => .error (.unknownField "$__toml_private_datetime" (fields.map (·.name)))
  | node => .error (.wrongType node.shape ("struct " ++ expected))

/-- The names of the trace formats. -/
def traceFormats : List (String × TraceFormat) :=
  [("vcd", .vcd), ("native", .native)]

/-- A trace format by its name. -/
def traceFormat (name : String) : Except DecodeError TraceFormat :=
  match traceFormats.lookup name with
  | some format => .ok format
  | none => .error (.unknownVariant name (traceFormats.map (·.1)))

/-- A trace format: its name, or a table with its name and nothing in it. -/
def readTraceFormat : Node → Except DecodeError TraceFormat
  | .text name => traceFormat name
  | .table _ [(name, content)] => do
    let format ← traceFormat name
    match content with
    | .table _ [] | .list [] | .tables [] => return format
    | .table .. | .list _ => .error (.unusable "expected empty table")
    | .tables _ => .error (.unusable "expected empty array")
    | other => .error (.unusable ("expected table, found " ++ other.kindName))
  | .table _ [] => .error (.unusable "wanted exactly 1 element, found 0 elements")
  | .table .. => .error (.unusable "wanted exactly 1 element, more than 1 element")
  | _ => .error (.unusable "wanted string or table")

/-- Readers of numbers by their width. -/
def readU8 (s : Shape) : Except DecodeError UInt8 :=
  (s.toBounded "u8" UInt8.size).map (·.toUInt8)
@[inherit_doc readU8]
def readU16 (s : Shape) : Except DecodeError UInt16 :=
  (s.toBounded "u16" UInt16.size).map (·.toUInt16)
@[inherit_doc readU8]
def readU32 (s : Shape) : Except DecodeError UInt32 :=
  (s.toBounded "u32" UInt32.size).map (·.toUInt32)
@[inherit_doc readU8]
def readU64 (s : Shape) : Except DecodeError UInt64 :=
  (s.toBounded "u64" UInt64.size).map (·.toUInt64)
@[inherit_doc readU8]
def readSize (s : Shape) : Except DecodeError UInt64 :=
  (s.toBounded "usize" UInt64.size).map (·.toUInt64)

/-- The fields of each section, in order. -/
def modelFields : List (Field Model) :=
  [.of "library" Shape.toPath fun v m => { m with library := some v },
   .of "terminator" readU8 fun v m => { m with terminator := v }]
@[inherit_doc modelFields]
def clockFields : List (Field Clock) :=
  [.of "frequency" Frequency.ofShape fun v c => { c with frequency := v }]
@[inherit_doc modelFields]
def resetFields : List (Field Reset) :=
  [.of "cycles" readU64 fun v r => { r with cycles := v },
   .of "warmup" readU64 fun v r => { r with warmup := v }]
@[inherit_doc modelFields]
def uartFields : List (Field Uart) :=
  [.of "enabled" Shape.toBool fun v u => { u with enabled := v },
   .of "baud" readU32 fun v u => { u with baud := v },
   .of "queue_depth" readSize fun v u => { u with queueDepth := v }]
@[inherit_doc modelFields]
def traceFields : List (Field Trace) :=
  [.of "path" Shape.toPath fun v t => { t with path := v },
   .of "depth" readU32 fun v t => { t with depth := v },
   { name := "format", set := fun node t => return { t with format := ← readTraceFormat node } }]
@[inherit_doc modelFields]
def jtagFields : List (Field Jtag) :=
  [.of "enabled" Shape.toBool fun v j => { j with enabled := v },
   .of "port" readU16 fun v j => { j with port := v },
   .of "tck_period" readU32 fun v j => { j with tckPeriod := v }]
@[inherit_doc modelFields]
def runFields : List (Field Run) :=
  [.of "max_cycles" readU64 fun v r => { r with maxCycles := v }]

/-- The sections of the document, in order. -/
def sections : List (Field Config) :=
  [{ name := "model"
     set := fun n c => return { c with model := ← readSection "ModelConfig" modelFields {} n } },
   { name := "clock"
     set := fun n c => return { c with clock := ← readSection "ClockConfig" clockFields {} n } },
   { name := "reset"
     set := fun n c => return { c with reset := ← readSection "ResetConfig" resetFields {} n } },
   { name := "uart"
     set := fun n c => return { c with uart := ← readSection "UartConfig" uartFields {} n } },
   { name := "trace"
     set := fun n c => return { c with trace := ← readSection "TraceConfig" traceFields {} n } },
   { name := "jtag"
     set := fun n c => return { c with jtag := ← readSection "JtagConfig" jtagFields {} n } },
   { name := "run"
     set := fun n c => return { c with run := ← readSection "RunConfig" runFields {} n } }]

/-- Reads and checks a configuration. -/
def read (text : String) : Except ConfigError Config := do
  match Toml.read? text with
  | none => .error .syntaxError
  | some es =>
    match readTable sections es {} with
    | .error cause => .error (.malformed cause)
    | .ok c =>
      c.validate
      return c

end SocBench.Config
