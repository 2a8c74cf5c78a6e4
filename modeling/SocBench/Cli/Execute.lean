import SocBench.Bench.Simulate
import SocBench.Cli.ConfigFile
import SocBench.Cli.Report
import SocBench.Library.Basic
import SocBench.Soc.Basic

/-!
# Carrying out a command line

What the program does is a function of the machine it runs on: the files in its folder, the shared
libraries that can be loaded, and its input.  The outcome is what it prints, its exit code, and the
machine it leaves.  The standard streams are files too, for as long as the program runs.
-/

namespace SocBench.Cli

/-- The machine the program runs on. Libraries are found by their path and start in one state. -/
structure Machine (ℓ : Type) where
  host : Host := {}
  libraries : String → Option (Library ℓ)
  libraryState : ℓ
  input : List UInt8 := []

/-- The standard input as a file. -/
def inputPlace : Place := ["dev", "stdin"]

/-- The standard output as a file. -/
def outputPlace : Place := ["dev", "stdout"]

/-- The standard error output as a file. -/
def errorPlace : Place := ["dev", "stderr"]

/-- The machine with its standard streams among the files.  Input that the configuration is read
from is used up by that. -/
def Machine.withStreams {ℓ : Type} (m : Machine ℓ) (i : Invocation) : Machine ℓ :=
  let folder := ((m.host.folder.put inputPlace (.ofBytes ⟨m.input.toArray⟩)).put outputPlace
    (.text "")).put errorPlace (.text "")
  let isRead := i.config.any (folder.leadsTo · inputPlace)
  { m with host := { m.host with folder }, input := if isRead then [] else m.input }

/-- What the program did. -/
structure Outcome where
  exitCode : Nat
  stdout : String := ""
  stderr : String := ""
  host : Host

/-- The exit code of a run that the limit ended. -/
def limitExitCode : Nat := 2

/-- Gives up with a message, after what was said before. -/
def failure (host : Host) (said message : String) : Outcome :=
  { exitCode := 1, stderr := said ++ "error: " ++ message ++ "\n", host }

/-- Shows the settings that a run would use. -/
def check (i : Invocation) (host : Host) : Outcome :=
  match (i.configuration host.folder).bind i.applyTo with
  | .error e => failure host "" e.message
  | .ok c =>
    match BitPeriod.ofRates c.clock.frequency c.uart.baud with
    | .error e => failure host "" e.message
    | .ok period =>
      let shown := match i.report with
        | .json => (settingsRecord c i.trace period).toText 0 ++ "\n"
        | .text => if i.quiet then "" else unlines (describe c i.trace period)
      { exitCode := 0, stdout := shown, host }

/-- Simulates a device and reports the result. -/
def runDevice {σ : Type} [Dut σ] (i : Invocation) (c : Config) (input : List UInt8) (host : Host)
    (dut : σ) : Outcome :=
  let say (lines : List String) : String := if i.quiet then "" else unlines lines
  let settings := benchSettings c i.trace
  let started := say [startLine c]
  match simulate settings (.ofBytes input) host dut with
  | (.error e, _, host) =>
    let started := started ++ host.folder.textAt errorPlace
    { failure host started e.message with stdout := host.folder.textAt outputPlace }
  | (.ok summary, _, host) =>
    let started := started ++ host.folder.textAt errorPlace
    let traced := host.folder.textAt outputPlace
    let (shown, said) := match i.report with
      | .json => ((summaryRecord summary).toText 0 ++ "\n", "")
      | .text => ("", say (summaryLines summary settings.trace))
    if summary.finishedByModel then
      { exitCode := 0, stdout := traced ++ shown, stderr := started ++ said, host }
    else
      { exitCode := limitExitCode, stdout := traced ++ shown
        stderr := started ++ said ++ say [stoppedLine], host }

/-- Runs the device that the configuration names. -/
def run {ℓ : Type} (i : Invocation) (m : Machine ℓ) : Outcome :=
  match (i.configuration m.host.folder).bind i.applyTo with
  | .error e => failure m.host "" e.message
  | .ok c =>
    match c.model.library with
    | none =>
      runDevice i c m.input m.host (Soc.new
        { clock := c.clock.frequency, baud := c.uart.baud
          terminator := some c.model.terminator, dumpEnabled := i.trace })
    | some path =>
      match m.libraries path with
      | none => failure m.host "" (BenchError.libraryOpen path).message
      | some library =>
        match LibraryDut.load path library m.libraryState with
        | (.error e, _) => failure m.host "" e.message
        | (.ok dut, _) => runDevice i c m.input m.host dut

/-- Carries out a command line that was understood. -/
def execute {ℓ : Type} (i : Invocation) (m : Machine ℓ) : Outcome :=
  let m := m.withStreams i
  let r := match i.verb with
    | .run => run i m
    | .check => check i m.host
  let folder := r.host.folder.without [inputPlace, outputPlace, errorPlace]
  { r with host := { r.host with folder } }

end SocBench.Cli
