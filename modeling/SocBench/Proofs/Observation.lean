import SocBench.Bench.Session
import SocBench.Proofs.ClockAlternation
import SocBench.Proofs.Projection

/-!
# Watching a run

A bench treats its device and its sinks as strangers: it calls them, and what they do is theirs.  To
say which calls a run makes, and in which order, the device is wrapped in one that writes down every
evaluation, with the levels of the pins at that moment, and the sinks in ones that write down every
sample they are given and their closing.  All of them write to one list, `Watched.events`.

Watching changes nothing.  A watched bench is a bench around the one underneath, and their runs are
the same (`Bench.unwatched_run`), so what the list says is true of the bench that is not watched.
-/

namespace SocBench

/-- The levels of the pins that a bench drives. -/
structure Pins where
  clk : Bool
  rstN : Bool
  uartRx : Bool
  deriving DecidableEq

/-- The pins of a device as they are now. -/
def Dut.pins {σ : Type} [Dut σ] (s : σ) : Pins :=
  ⟨Dut.clk s, Dut.rstN s, Dut.uartRx s⟩

/-- A call that a bench makes: the device is evaluated with its pins at some levels, a sink is given
the sample of a tick and answers, or a sink is closed.  Sinks are known by their labels. -/
inductive BenchCall where
  | eval (pins : Pins)
  | dump (label : ℕ) (tick : Tick) (outcome : Except BenchError Unit)
  | close (label : ℕ)

/-- A device with the list of the calls so far. -/
structure Watched (σ : Type) where
  dut : σ
  events : List BenchCall := []

/-- A sink with a label. -/
structure Labelled (κ : Type) where
  label : ℕ
  sink : κ

section Instances

variable {κ σ : Type}

instance [Dut σ] : Dut (Watched σ) where
  clk w := Dut.clk w.dut
  setClk level w := { w with dut := Dut.setClk level w.dut }
  rstN w := Dut.rstN w.dut
  setRstN level w := { w with dut := Dut.setRstN level w.dut }
  uartRx w := Dut.uartRx w.dut
  setUartRx level w := { w with dut := Dut.setUartRx level w.dut }
  eval w := ⟨Dut.eval w.dut, w.events ++ [.eval (Dut.pins w.dut)]⟩
  finished w := Dut.finished w.dut
  dumpEnabled w := Dut.dumpEnabled w.dut
  hasTap w := Dut.hasTap w.dut
  tap w := Dut.tap w.dut
  driveTap levels w := { w with dut := Dut.driveTap levels w.dut }
  tdo w := Dut.tdo w.dut
  traceOpen path depth w := (Dut.traceOpen path depth w.dut).map fun s => { w with dut := s }
  traceDump tick w := (Dut.traceDump tick w.dut).map fun s => { w with dut := s }
  traceClose w := (Dut.traceClose w.dut).map fun s => { w with dut := s }
  probes w := Dut.probes w.dut

instance [Sink κ σ] : Sink (Labelled κ) (Watched σ) where
  dump k tick w :=
    let (outcome, sink, s) := Sink.dump k.sink tick w.dut
    (outcome, ⟨k.label, sink⟩, ⟨s, w.events ++ [.dump k.label tick outcome]⟩)
  close k w :=
    let (outcome, sink, s) := Sink.close k.sink w.dut
    (outcome, ⟨k.label, sink⟩, ⟨s, w.events ++ [.close k.label]⟩)

end Instances

/-! ## The bench underneath -/

/-- Labels recorders with the numbers from `n` on. -/
def Recorder.labelFrom {κ : Type} : ℕ → List (Recorder κ) → List (Recorder (Labelled κ))
  | _, [] => []
  | n, r :: rest => r.map (Labelled.mk n) :: labelFrom (n + 1) rest

lemma Recorder.map_sink_map_mk {κ : Type} (n : ℕ) (r : Recorder κ) :
    (r.map (Labelled.mk n)).map Labelled.sink = r := by
  obtain ⟨slot, tick, samples⟩ := r
  cases slot <;> rfl

namespace Bench

variable {σ κ β : Type}

/-- Puts a bench under watch. Its own sinks get the label zero. -/
def watch (b : Bench σ κ β) : Bench (Watched σ) (Labelled κ) β where
  dut := { dut := b.dut }
  clock := b.clock
  recorder := b.recorder.map (Labelled.mk 0)
  retired := b.retired.map (Recorder.map (Labelled.mk 0))
  line := b.line
  bridge := b.bridge
  resetToggles := b.resetToggles
  warmupToggles := b.warmupToggles
  limit := b.limit
  phase := b.phase

/-- The bench that is watched. -/
def unwatched (b : Bench (Watched σ) (Labelled κ) β) : Bench σ κ β where
  dut := b.dut.dut
  clock := b.clock
  recorder := b.recorder.map Labelled.sink
  retired := b.retired.map (Recorder.map Labelled.sink)
  line := b.line
  bridge := b.bridge
  resetToggles := b.resetToggles
  warmupToggles := b.warmupToggles
  limit := b.limit
  phase := b.phase

@[simp] lemma unwatched_watch (b : Bench σ κ β) : b.watch.unwatched = b := by
  obtain ⟨dut, clock, recorder, retired, line, bridge, resets, warmups, limit, phase⟩ := b
  simp only [watch, unwatched, Recorder.map_sink_map_mk, List.map_map, mk.injEq, true_and, and_true]
  exact List.map_id'' (fun r => Recorder.map_sink_map_mk 0 r) retired

end Bench

/-! ## Each step is a step underneath -/

lemma Watched.projects_dut {σ : Type} [Dut σ] : Dut.Projects (Watched.dut (σ := σ)) where
  clk _ := rfl
  finished _ := rfl
  dumpEnabled _ := rfl
  tap _ := rfl
  tdo _ := rfl
  setClk _ _ := rfl
  setRstN _ _ := rfl
  setUartRx _ _ := rfl
  eval _ := rfl
  driveTap _ _ := rfl

lemma Labelled.projects_sink {σ κ : Type} [Sink κ σ] :
    Sink.Projects (Labelled.sink (κ := κ)) (Watched.dut (σ := σ)) where
  dump _ _ _ := rfl
  close _ _ := rfl

namespace Bench

variable {σ κ β : Type} [Sink κ σ]

lemma unwatched_closeRecorder (b : Bench (Watched σ) (Labelled κ) β) :
    b.closeRecorder.map unwatched = b.unwatched.closeRecorder :=
  project_closeRecorder Labelled.projects_sink b

lemma unwatched_dispose (b : Bench (Watched σ) (Labelled κ) β) :
    b.dispose.unwatched = b.unwatched.dispose :=
  congrArg Prod.snd b.unwatched_closeRecorder

lemma unwatched_withRecorders (n : ℕ) (recorders : List (Recorder κ))
    (b : Bench (Watched σ) (Labelled κ) β) :
    (b.withRecorders (Recorder.labelFrom n recorders)).map unwatched
      = b.unwatched.withRecorders recorders := by
  induction recorders generalizing n b with
  | nil => rfl
  | cons recorder rest ih =>
    have hreplace : (b.withRecorder (recorder.map (Labelled.mk n))).map unwatched
        = b.unwatched.withRecorder recorder := by
      rw [withRecorder, withRecorder, ← unwatched_closeRecorder]
      refine Attempt.map_andThen (fun c => ?_) _
      simp [unwatched, Recorder.map_sink_map_mk]
    rw [Recorder.labelFrom, withRecorders, withRecorders, ← hreplace]
    exact Attempt.map_andThen (ih (n + 1)) _

variable [Dut σ] [Bridge β]

/-- **Watching a run does not change it.** -/
lemma unwatched_run (pace : Pace) (b : Bench (Watched σ) (Labelled κ) β) :
    b.unwatched.run pace = ((b.run pace).1, (b.run pace).2.unwatched) :=
  project_run Watched.projects_dut Labelled.projects_sink pace b

/-! ## What a toggle adds to the list -/

variable {phase : Phase} {edge : Edge} {steps : ℕ}

omit [Sink κ σ] [Bridge β] in
lemma Driven.events_eq {line : Option SerialLine} {w w' : Watched σ}
    (h : Driven phase edge line w w') : w'.events = w.events := by
  induction h with
  | plain => rfl
  | line => rfl
  | tap _ _ ih => exact ih

omit [Sink κ σ] [Bridge β] in
/-- A toggle evaluates the device once, with the clock at its new level. -/
lemma Passed.events_eq {κ : Type} {b found : Bench (Watched σ) κ β}
    (h : Passed phase steps b edge found) :
    found.dut.events
      = b.dut.events ++ [.eval (Dut.pins (Dut.setClk (!Dut.clk b.dut) b.dut))] :=
  h.dut_driven.events_eq

end Bench

end SocBench
