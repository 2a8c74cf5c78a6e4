import SocBench.Bench.Run

/-!
# The whole life of a bench

A session sets a bench up, hands it recorders one after the other, runs it some number of times and
gives it up.  If setting up fails nothing is run.
-/

namespace SocBench

/-- What a session came to: whether the bench could be set up, the result and the last phase of
every run, how many bytes were left in the queue, the sinks there were, and the machine and the
device as they were left. -/
structure Session (σ κ : Type) where
  setup : Except BenchError Unit
  runs : List (Except BenchError Summary × Phase) := []
  left : Option Nat
  sinks : List (TraceSink κ) := []
  host : Host
  dut : σ

namespace Bench

variable {σ κ β : Type}

/-- Hands the bench recorders one after the other. -/
def withRecorders [Sink κ σ] (b : Bench σ κ β) : List (Recorder κ) → Attempt (Bench σ κ β)
  | [] => .done b
  | recorder :: rest => (b.withRecorder recorder).andThen fun b => b.withRecorders rest

/-- Runs the bench some number of times. -/
def runTimes [Dut σ] [Sink κ σ] [Bridge β] :
    Nat → Bench σ κ β → List (Except BenchError Summary × Phase) × Bench σ κ β
  | 0, b => ([], b)
  | n + 1, b =>
    let (result, b) := b.run b.eagerPace
    let (rest, last) := runTimes n b
    ((result, b.phase) :: rest, last)

end Bench

/-- Takes a bench through its life. -/
def session {σ κ β : Type} [Dut σ] [Sink κ σ] [Bridge β] (settings : BenchSettings)
    (queue : Option ByteQueue) (recorders : List (Recorder (TraceSink κ))) (bridge : Option β)
    (times : Nat) (host : Host) (dut : σ) : Session σ κ :=
  let made : Except (BenchError × σ) (Bench σ (TraceSink κ) β) × Host :=
    Bench.create settings queue .silent host dut
  match made with
  | (.error (e, dut), host) => { setup := .error e, left := queue.map (·.size), host, dut }
  | (.ok bench, host) =>
    let (setup, bench) := bench.withRecorders recorders
    let (runs, bench) :=
      if setup.isOk then Bench.runTimes times { bench with bridge } else ([], bench)
    let bench := bench.dispose
    let sinks := bench.sinks
    { setup, runs, left := bench.line.map (·.queue.size), sinks
      host := sinks.foldl (fun host sink => sink.store host) host, dut := bench.dut }

end SocBench
