import SocBench.Waveform.Sink

/-!
# Recording samples

A recorder numbers the samples it sends to its sink.  It samples only while the device wants it,
once after power-on and then twice after every clock toggle, and it closes its sink once.
-/

namespace SocBench

/-- The sink of a recorder: there is none, it takes samples, or it was closed. -/
inductive SinkSlot (κ : Type) where
  | absent
  | active (sink : κ)
  | closed (sink : κ)

/-- The sink that was there, whether or not it was closed. -/
def SinkSlot.sink? {κ : Type} : SinkSlot κ → Option κ
  | .absent => none
  | .active sink | .closed sink => some sink

/-- A recorder: its sink, the next tick, and how many samples the sink took. -/
structure Recorder (κ : Type) where
  slot : SinkSlot κ
  tick : Tick := .zero
  samples : Nat := 0

namespace Recorder

variable {κ σ : Type}

/-- A recorder that records nothing. -/
def disabled : Recorder κ :=
  { slot := .absent }

/-- A new recorder for a sink. -/
def ofSink (sink : κ) : Recorder κ :=
  { slot := .active sink }

/-- Whether samples are taken. -/
def isEnabled (r : Recorder κ) : Bool :=
  match r.slot with
  | .active _ => true
  | _ => false

/-- Whether a sample would be taken now. -/
def wants [Dut σ] (r : Recorder κ) (s : σ) : Bool :=
  r.isEnabled && Dut.dumpEnabled s

variable [Sink κ σ]

/-- Sends one sample to the sink. The tick is used up even if the sink fails. -/
def writeOne : Recorder κ × σ → Attempt (Recorder κ × σ)
  | (⟨.active sink, tick, samples⟩, s) =>
    match tick.advance with
    | .error e => .failed (.fault e) (⟨.active sink, tick, samples⟩, s)
    | .ok (issued, tick) =>
      match Sink.dump sink issued s with
      | (.ok _, sink, s) => .done (⟨.active sink, tick, samples + 1⟩, s)
      | (.error e, sink, s) => .failed e (⟨.active sink, tick, samples⟩, s)
  | (r, s) => .done (r, s)

/-- One sample, if it is wanted. -/
def sampleOnce [Dut σ] (x : Recorder κ × σ) : Attempt (Recorder κ × σ) :=
  if x.1.wants x.2 then writeOne x else .done x

/-- Two samples, if they are wanted. -/
def sampleTwice [Dut σ] (x : Recorder κ × σ) : Attempt (Recorder κ × σ) :=
  if x.1.wants x.2 then (writeOne x).andThen writeOne else .done x

/-- Closes the sink, if it is not closed yet. -/
def close : Recorder κ × σ → Attempt (Recorder κ × σ)
  | (⟨.active sink, tick, samples⟩, s) =>
    (Sink.close sink s).map fun (sink, s) => (⟨.closed sink, tick, samples⟩, s)
  | (r, s) => .done (r, s)

end Recorder

end SocBench
