import SocBench.Bench.Clock
import SocBench.Jtag.Bridge
import SocBench.Serial.Encoder
import SocBench.Serial.Producer
import SocBench.Waveform.Trace

/-!
# The bench

A bench holds everything that takes part in a run: the device with its clock, the recorder, the
serial line with the queue that feeds it and the producer that fills the queue, and the bridge to
the JTAG tap.
-/

namespace SocBench

/-- The serial line into a device. -/
structure SerialLine where
  encoder : FrameEncoder
  queue : ByteQueue
  producer : Producer

/-- A bench for a device `σ`, with sinks `κ` and bridges `β`.  Recorders that were replaced are kept
for what they recorded. -/
structure Bench (σ κ β : Type) where
  dut : σ
  clock : Clock := {}
  recorder : Recorder κ := .disabled
  retired : List (Recorder κ) := []
  line : Option SerialLine := none
  bridge : Option β := none
  resetToggles : Nat
  warmupToggles : Nat
  limit : Option Nat := none
  phase : Phase := .resetting

/-- What a run came to. -/
structure Summary where
  toggles : Nat
  risingEdges : Nat
  samples : Nat
  finalTick : Nat
  bytesInjected : Nat
  framesCompleted : Nat
  finishedByModel : Bool
  phase : Phase

namespace Bench

variable {σ κ β : Type}

/-- The serial line for a queue, if there is one. A queue without a producer is filled already. -/
def lineFor (settings : BenchSettings) (queue : Option ByteQueue) (producer : Producer) :
    Except BenchError (Option SerialLine) :=
  match queue with
  | none => .ok none
  | some queue =>
    (BitPeriod.ofRates settings.clock settings.baud).map fun period =>
      some { encoder := { period }, queue, producer }

/-- A bench from its parts. A limit of zero edges is no limit. -/
def assemble (settings : BenchSettings) (line : Option SerialLine) (recorder : Recorder κ)
    (dut : σ) : Bench σ κ β where
  dut
  recorder
  line
  resetToggles := settings.resetToggles
  warmupToggles := settings.warmupToggles
  limit := settings.maxCycles.filter (0 < ·)

/-- Sets up a bench: first the line rate must fit the clock, then the trace is started.  The device
is given back if that fails. -/
def create [Dut σ] (settings : BenchSettings) (queue : Option ByteQueue) (producer : Producer)
    (host : Host) (dut : σ) : Except (BenchError × σ) (Bench σ (TraceSink κ) β) × Host :=
  match lineFor settings queue producer with
  | .error e => (.error (e, dut), host)
  | .ok line =>
    match settings.trace with
    | none => (.ok (assemble settings line .disabled dut), host)
    | some trace =>
      match TraceSink.start trace host dut with
      | (.ok sink, host, dut) => (.ok (assemble settings line (.ofSink sink) dut), host)
      | (.error e, host, dut) => (.error (e, dut), host)

/-- Attaches a bridge. -/
def withBridge (b : Bench σ κ β) (bridge : β) : Bench σ κ β :=
  { b with bridge := some bridge }

variable [Sink κ σ]

/-- Closes the sink of the recorder. -/
def closeRecorder (b : Bench σ κ β) : Attempt (Bench σ κ β) :=
  (Recorder.close (b.recorder, b.dut)).map fun (recorder, dut) => { b with recorder, dut }

/-- Closes the recorder and goes on with another one. -/
def withRecorder (b : Bench σ κ β) (recorder : Recorder κ) : Attempt (Bench σ κ β) :=
  b.closeRecorder.andThen fun b =>
    .done { b with recorder, retired := b.retired ++ [b.recorder] }

/-- Gives the bench up. What is still open is closed, and it no longer matters if that fails. -/
def dispose (b : Bench σ κ β) : Bench σ κ β :=
  b.closeRecorder.2

omit [Sink κ σ] in
/-- All sinks there were, in the order they were used. -/
def sinks (b : Bench σ κ β) : List κ :=
  (b.retired ++ [b.recorder]).filterMap fun r => r.slot.sink?

end Bench

end SocBench
