import SocBench.Host.Folder
import SocBench.Library.Basic

/-!
# Libraries for trying out

A library whose device counts eight rising clock edges and logs every call, and variants of it that
lack an entry point or refuse to make a device.
-/

namespace SocBench.Sample

/-- The state of the library: the calls so far, newest first, and the state of its device. -/
structure CallLog where
  calls : List String := []
  lastClk : Bool := false
  edges : Nat := 0

namespace CallLog

/-- Logs a call. -/
def note (s : CallLog) (call : String) : CallLog :=
  { s with calls := call :: s.calls }

/-- A level as a digit. -/
def digit (level : Bool) : String :=
  if level then "1" else "0"

/-- Evaluates the device: it counts edges outside reset, wants to be recorded outside reset, and
its tap gives the exclusive or of two inputs. -/
def eval (pins : PinLevels) (s : CallLog) : OutputLevels × CallLog :=
  let edges := if pins.clk && !s.lastClk && pins.rstN then s.edges + 1 else s.edges
  let levels := [pins.clk, pins.rstN, pins.uartRx, pins.tap.tck, pins.tap.tms, pins.tap.tdi]
  let s := s.note ("eval " ++ String.join (levels.map digit))
  ({ finished := 8 ≤ edges, dumpEnabled := pins.rstN, tdo := pins.tap.tms ^^ pins.tap.tdi },
    { s with edges, lastClk := pins.clk })

/-- What follows the last slash of a path. -/
def afterSlash (path : String) : String :=
  String.ofList (path.toList.reverse.takeWhile (· ≠ '/')).reverse

/-- Opens the tracer, which fails for files whose name starts with `bad`. -/
def traceOpen (path : String) (depth : Nat) (s : CallLog) : Int × CallLog :=
  let name := afterSlash path
  (if "bad".toList.isPrefixOf name.toList then -7 else 0,
    s.note ("open " ++ name ++ " " ++ toString depth))

end CallLog

/-- The library that exports everything but the given entry points. -/
def libraryWithout (missing : List EntryPoint) : Library CallLog where
  exports point := !missing.contains point
  create s := (true, s.note "new")
  destroy s := s.note "destroy"
  eval := CallLog.eval
  traceOpen := CallLog.traceOpen
  traceDump tick s := s.note ("dump " ++ toString tick)
  traceClose s := s.note "close"

/-- The libraries by name. -/
def library? (name : String) : Option (Library CallLog) :=
  match name with
  | "full" => some (libraryWithout [])
  | "notrace" => some (libraryWithout [.traceOpen, .traceDump, .traceClose])
  | "partialtrace" => some (libraryWithout [.traceClose])
  | "null" => some { libraryWithout [] with create := fun s => (false, s.note "new") }
  | "missing_new" => some (libraryWithout [.create])
  | "missing_destroy" => some (libraryWithout [.destroy])
  | "missing_eval" => some (libraryWithout [.eval])
  | _ => none

/-- The files of the libraries of the given names, which lie in the folder itself. -/
def libraryFiles (names : List String) : List (String × Content) :=
  (names.filter (· ≠ "absent")).map fun name => (name ++ ".so", .binary)

/-- The libraries of the given names that lie in a folder as files of their own.  A library is
found by a path with a slash in it; a bare name is looked for where the system keeps libraries. -/
def librariesIn (folder : Folder) (names : List String) (path : String) :
    Option (Library CallLog) :=
  if path.toList.contains '/' then
    match folder.openFile path with
    | .ok (place, .binary) =>
      (names.find? fun name => place = folder.home ++ [name ++ ".so"]).bind library?
    | _ => none
  else none

end SocBench.Sample
