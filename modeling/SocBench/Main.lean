import SocBench.Cli.Arguments
import SocBench.Cli.Execute

/-!
# The program

The outer layer of the command line: it gathers the files and the input that an invocation can
read, carries the invocation out, and then prints and stores what came of it.  Shared libraries
cannot be loaded by this program, so a model in a library is always refused.
-/

namespace SocBench.Program

/-- What a file holds, if it can be read. -/
def readContent? (path : String) : IO (Option Content) := do
  try
    let bytes ← IO.FS.readBinFile path
    return some (.ofBytes bytes)
  catch _ => return none

/-- Everything on standard input. -/
partial def readAll (stream : IO.FS.Stream) (read : ByteArray) : IO ByteArray := do
  let chunk ← stream.read 4096
  if chunk.isEmpty then return read else readAll stream (read ++ chunk)

/-- The files that an invocation may take its configuration from. -/
def configCandidates (i : Cli.Invocation) : List String :=
  match i.config with
  | some path => [Cli.joinPath path Cli.configFileName, path]
  | none => [Cli.configFileName]

/-- The file that a run will write its waveform to. -/
def traceTarget? (i : Cli.Invocation) (folder : Folder) : Option String :=
  match (i.configuration folder).bind i.applyTo with
  | .ok c =>
    if i.verb = .run ∧ i.trace ∧ c.trace.format = .vcd then some c.trace.path else none
  | .error _ => none

/-- The folder with the files that an invocation can read or write. -/
def gather (i : Cli.Invocation) : IO Folder := do
  let home := Place.steps (toString (← IO.currentDir))
  let mut folder : Folder := { home }
  for path in configCandidates i do
    if let some content ← readContent? path then
      folder := folder.put (.ofPath home path) content
  match traceTarget? i folder with
  | none => return folder
  | some path =>
    try
      IO.FS.writeFile path ""
      return folder.put (.ofPath home path) (.text "")
    catch _ => return folder

end SocBench.Program

open SocBench SocBench.Program

/-- Runs the program. -/
def main (args : List String) : IO UInt32 := do
  match Cli.read args with
  | .error e =>
    IO.eprintln "usage: run|check [options]"
    return UInt32.ofNat e.exitCode
  | .ok i =>
    let folder ← gather i
    let bytes ← if i.verb = .run then readAll (← IO.getStdin) .empty else pure .empty
    let outcome := Cli.execute i
      { host := { folder }, libraries := fun _ => none, libraryState := (), input := bytes.toList }
    IO.print outcome.stdout
    IO.eprint outcome.stderr
    if let some path := traceTarget? i folder then
      if let .ok text := outcome.host.folder.read path then
        if folder.isFile path then IO.FS.writeFile path text
    return UInt32.ofNat outcome.exitCode
