import SocBench.Bench.Run
import SocBench.Jtag.RemoteBitbang

/-!
# A run from settings and an input

The one call a program needs: it sets up the bridge, the queue, and the bench as the settings say,
feeds the input to the device, runs it, and leaves the trace in its file.
-/

namespace SocBench

/-- Makes a bridge that listens to the network, unless someone else listens there already. -/
def RemoteBitbang.bind (host : Host) (port period : Nat) : Except BenchError RemoteBitbang :=
  if host.portsInUse.contains port then .error (.jtagBind port) else .ok (.new period)

/-- A sink for benches to which nobody attaches a sink of their own. -/
instance {σ : Type} : Sink Empty σ where
  dump k := nomatch k
  close k := nomatch k

/-- The bridge that the settings ask for, if the device has a tap for it. -/
def bridgeFor {σ : Type} [Dut σ] (settings : BenchSettings) (host : Host) (dut : σ) :
    Except BenchError (Option RemoteBitbang) :=
  match settings.jtag with
  | some jtag =>
    if Dut.hasTap dut then (RemoteBitbang.bind host jtag.port jtag.tckPeriod).map some
    else .ok none
  | none => .ok none

/-- The kind of bench that simulates a device. -/
abbrev SimulationBench (σ : Type) : Type :=
  Bench σ (TraceSink Empty) RemoteBitbang

/-- The bench of a simulation. The error comes with the device as it was left. -/
def simulationBench {σ : Type} [Dut σ] (settings : BenchSettings) (input : Producer) (host : Host)
    (dut : σ) : Except (BenchError × σ) (SimulationBench σ) × Host :=
  match bridgeFor settings host dut with
  | .error e => (.error (e, dut), host)
  | .ok bridge =>
    let queue := if settings.uartEnabled then some (ByteQueue.ofDepth settings.queueDepth) else none
    let made : Except (BenchError × σ) (SimulationBench σ) × Host :=
      Bench.create settings queue input host dut
    (made.1.map fun bench => { bench with bridge }, made.2)

/-- Simulates a device.  The result has the device and the machine as the run left them. -/
def simulate {σ : Type} [Dut σ] (settings : BenchSettings) (input : Producer) (host : Host)
    (dut : σ) : Except BenchError Summary × σ × Host :=
  match simulationBench settings input host dut with
  | (.error (e, dut), host) => (.error e, dut, host)
  | (.ok bench, host) =>
    let (result, bench) := bench.run bench.eagerPace
    let bench := bench.dispose
    (result, bench.dut, bench.sinks.foldl (fun host sink => sink.store host) host)

end SocBench
