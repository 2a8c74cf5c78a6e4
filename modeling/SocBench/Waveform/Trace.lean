import SocBench.Bench.Settings
import SocBench.Host.Folder
import SocBench.Waveform.Recorder
import SocBench.Waveform.Vcd

/-!
# The trace of a run

A trace is either a value change dump that the bench writes to a file, or left to the tracer of the
device, or any other sink that someone attached.
-/

namespace SocBench

/-- A sink for the trace of a run. -/
inductive TraceSink (κ : Type) where
  | vcd (path : String) (sink : VcdSink)
  | native
  | custom (sink : κ)

namespace TraceSink

variable {κ σ : Type} [Dut σ]

/-- Takes a sample. -/
def dump [Sink κ σ] (k : TraceSink κ) (tick : Tick) (s : σ) : Attempt (TraceSink κ × σ) :=
  match k with
  | .vcd path sink => (sink.dump tick s).map fun sink => (.vcd path sink, s)
  | .native => (Dut.traceDump tick s).map fun s => (.native, s)
  | .custom sink => (Sink.dump sink tick s).map fun (sink, s) => (.custom sink, s)

/-- Ends the trace. -/
def close [Sink κ σ] (k : TraceSink κ) (s : σ) : Attempt (TraceSink κ × σ) :=
  match k with
  | .vcd path sink => sink.close.map fun sink => (.vcd path sink, s)
  | .native => (Dut.traceClose s).map fun s => (.native, s)
  | .custom sink => (Sink.close sink s).map fun (sink, s) => (.custom sink, s)

instance [Sink κ σ] : Sink (TraceSink κ) σ where
  dump := dump
  close := close

/-- Starts a trace: the file is created now, and the tracer of the device is opened now. -/
def start (settings : TraceSettings) (host : Host) (s : σ) :
    Except BenchError (TraceSink κ) × Host × σ :=
  match settings.format with
  | .vcd =>
    match host.folder.create settings.path with
    | .ok folder =>
      let medium := if folder.leadsTo settings.path Folder.fullDevice then .full else .unlimited
      (.ok (.vcd settings.path { storage := { medium } }), { host with folder }, s)
    | .error e => (.error (.traceOpen settings.path e.message), host, s)
  | .native =>
    match Dut.traceOpen settings.path settings.depth s with
    | (.ok _, s) => (.ok .native, host, s)
    | (.error e, s) => (.error e, host, s)

/-- Puts what was written into its file. -/
def store (k : TraceSink κ) (host : Host) : Host :=
  match k with
  | .vcd path sink => { host with folder := host.folder.save path sink.storage.text }
  | _ => host

end TraceSink

end SocBench
