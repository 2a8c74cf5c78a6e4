import SocBench.Proofs.ClockAlternation
import SocBench.Proofs.Projection

/-!
# The calls of a run

What a run does to its device is written down by a device around it, `Logged`, and that changes
nothing about the run (`Bench.unlogged_run`).  The list only grows: the calls until some point of a
run are a first part of those until any later point.
-/

namespace SocBench

/-! ## What is done to a device -/

/-- A call that can change a device. -/
inductive DutCall where
  | setClk (level : Bool)
  | setRstN (level : Bool)
  | setUartRx (level : Bool)
  | eval
  | driveTap (levels : TapLevels)
  deriving DecidableEq

/-- A device with the list of the calls so far. -/
structure Logged (σ : Type) where
  dut : σ
  calls : List DutCall := []

section Logged

variable {σ : Type} [Dut σ]

instance : Dut (Logged σ) where
  clk w := Dut.clk w.dut
  setClk level w := ⟨Dut.setClk level w.dut, w.calls ++ [.setClk level]⟩
  rstN w := Dut.rstN w.dut
  setRstN level w := ⟨Dut.setRstN level w.dut, w.calls ++ [.setRstN level]⟩
  uartRx w := Dut.uartRx w.dut
  setUartRx level w := ⟨Dut.setUartRx level w.dut, w.calls ++ [.setUartRx level]⟩
  eval w := ⟨Dut.eval w.dut, w.calls ++ [.eval]⟩
  finished w := Dut.finished w.dut
  dumpEnabled w := Dut.dumpEnabled w.dut
  hasTap w := Dut.hasTap w.dut
  tap w := Dut.tap w.dut
  driveTap levels w := ⟨Dut.driveTap levels w.dut, w.calls ++ [.driveTap levels]⟩
  tdo w := Dut.tdo w.dut
  traceOpen path depth w := (Dut.traceOpen path depth w.dut).map fun s => { w with dut := s }
  traceDump tick w := (Dut.traceDump tick w.dut).map fun s => { w with dut := s }
  traceClose w := (Dut.traceClose w.dut).map fun s => { w with dut := s }
  probes w := Dut.probes w.dut

instance [Dut.HoldsClock σ] : Dut.HoldsClock (Logged σ) where
  clk_setClk level w := Dut.HoldsClock.clk_setClk level w.dut
  clk_setRstN level w := Dut.HoldsClock.clk_setRstN level w.dut
  clk_setUartRx level w := Dut.HoldsClock.clk_setUartRx level w.dut
  clk_eval w := Dut.HoldsClock.clk_eval w.dut
  clk_driveTap levels w := Dut.HoldsClock.clk_driveTap levels w.dut
  clk_traceDump tick w := Dut.HoldsClock.clk_traceDump tick w.dut
  clk_traceClose w := Dut.HoldsClock.clk_traceClose w.dut

lemma Logged.projects_dut : Dut.Projects (Logged.dut (σ := σ)) where
  clk _ := rfl
  finished _ := rfl
  dumpEnabled _ := rfl
  tap _ := rfl
  tdo _ := rfl
  setClk _ _ := rfl
  setRstN _ _ := rfl
  setUartRx _ _ := rfl
  eval _ := rfl
  driveTap _ _ := rfl

lemma Logged.projects_sink :
    Sink.Projects (id : TraceSink Empty → TraceSink Empty) (Logged.dut (σ := σ)) where
  dump k tick w := by
    cases k with
    | vcd path sink => rfl
    | native => rfl
    | custom sink => exact sink.elim
  close k w := by
    cases k with
    | vcd path sink => rfl
    | native => rfl
    | custom sink => exact sink.elim

instance {κ : Type} [Sink κ (Logged σ)] [Sink.Keeps κ (Logged.calls (σ := σ))] :
    Sink.Keeps (TraceSink κ) (Logged.calls (σ := σ)) :=
  TraceSink.keeps (fun _ _ => rfl) fun _ => rfl

end Logged

namespace Bench

variable {σ κ β : Type}

/-- The bench with a device that lists its calls. -/
def logged (b : Bench σ κ β) : Bench (Logged σ) κ β :=
  { b with dut := { dut := b.dut } }

/-- The bench without the list. -/
def unlogged (b : Bench (Logged σ) κ β) : Bench σ κ β :=
  { b with dut := b.dut.dut }

lemma project_id_eq_unlogged (b : Bench (Logged σ) κ β) : b.project id Logged.dut = b.unlogged := by
  have hretired : b.retired.map (Recorder.map id) = b.retired :=
    List.map_id'' Recorder.map_id b.retired
  rw [project, Recorder.map_id, hretired]
  rfl

/-- **Listing the calls does not change a run.** -/
lemma unlogged_run [Dut σ] [Bridge β] (pace : Pace) (b : Bench σ (TraceSink Empty) β) :
    b.run pace = ((b.logged.run pace).1, (b.logged.run pace).2.unlogged) := by
  have hrun := project_run Logged.projects_dut Logged.projects_sink pace b.logged
  rw [project_id_eq_unlogged, project_id_eq_unlogged] at hrun
  exact hrun

end Bench

/-! ## The calls of a run -/

namespace Bench

variable {σ κ β : Type} [Dut σ] [Bridge β] {phase : Phase} {steps : ℕ} {edge : Edge} {pace : Pace}

/-- A toggle adds to the calls. -/
lemma calls_passIn {b found : Bench (Logged σ) κ β} (hpass : b.passIn phase steps = (edge, found)) :
    b.dut.calls <+: found.dut.calls := by
  have hclocked : b.dut.calls <+: (Dut.eval (Dut.setClk (!Dut.clk b.dut) b.dut)).calls :=
    (List.prefix_append _ _).trans (List.prefix_append _ _)
  have hdriven := (passed_passIn hpass).dut_driven
  generalize found.dut = s at hdriven
  induction hdriven with
  | plain => exact hclocked
  | line => exact hclocked.trans (List.prefix_append _ _)
  | tap levels _ ih => exact ih.trans (List.prefix_append _ _)

omit [Dut σ] [Bridge β] in
lemma calls_andThen {x : Attempt (Bench (Logged σ) κ β)}
    {f : Bench (Logged σ) κ β → Attempt (Bench (Logged σ) κ β)}
    (hf : ∀ c, c.dut.calls <+: (f c).2.dut.calls) :
    x.2.dut.calls <+: (x.andThen f).2.dut.calls := by
  rcases x with ⟨_ | _, c⟩
  · exact List.prefix_rfl
  · exact hf c

variable [Sink κ (Logged σ)] [Sink.Keeps κ (Logged.calls (σ := σ))]

omit [Bridge β] in
lemma calls_heldIn (phase : Phase) (n : ℕ) (b : Bench (Logged σ) κ β) :
    b.dut.calls <+: (b.heldIn phase n).2.dut.calls := by
  refine Clock.hold_invariant (I := fun x => b.dut.calls <+: x.1.calls) ?_ ?_ n b.clock
    (x := (b.dut, b.recorder, b.phase)) List.prefix_rfl
  · intro s r hs
    exact (hs.trans (List.prefix_append _ _)).trans (List.prefix_append _ _)
  · rintro ⟨s, recorder, last⟩ hs
    have hkept : (watchReset phase (s, recorder, last)).2.1.calls = s.calls :=
      Recorder.view_sampleTwice Logged.calls (recorder, s)
    rw [hkept]
    exact hs

omit [Bridge β] in
lemma calls_released (c : Bench (Logged σ) κ β) :
    c.dut.calls <+: (({ c with dut := Dut.eval (Dut.setRstN true c.dut) } :
      Bench (Logged σ) κ β).heldIn .warmingUp c.warmupToggles).2.dut.calls := by
  have hreleased : c.dut.calls <+: (Dut.eval (Dut.setRstN true c.dut)).calls :=
    (List.prefix_append _ _).trans (List.prefix_append _ _)
  refine hreleased.trans ?_
  exact calls_heldIn .warmingUp c.warmupToggles { c with dut := Dut.eval (Dut.setRstN true c.dut) }

omit [Bridge β] in
lemma calls_resetAndWarmUp (b : Bench (Logged σ) κ β) :
    b.dut.calls <+: b.resetAndWarmUp.2.dut.calls := by
  have hreset : b.dut.calls <+: (Dut.setRstN false b.dut).calls := List.prefix_append _ _
  rw [resetAndWarmUp_eq]
  refine hreset.trans (List.IsPrefix.trans ?_ (calls_andThen calls_released))
  exact calls_heldIn .resetting b.resetToggles { b with dut := Dut.setRstN false b.dut }

lemma calls_mainLoop (budget rounds edges : ℕ) (c : Bench (Logged σ) κ β) :
    c.dut.calls <+: (c.mainLoop pace budget rounds edges).2.dut.calls := by
  induction budget generalizing rounds edges c with
  | zero =>
    rw [mainLoop]
    split_ifs <;> exact List.prefix_rfl
  | succ budget ih =>
    rw [mainLoop]
    split_ifs
    · exact List.prefix_rfl
    · exact List.prefix_rfl
    · obtain ⟨edge, found, hpass⟩ :
          ∃ edge found, c.passIn .running (pace rounds) = (edge, found) := ⟨_, _, rfl⟩
      have hround := round_eq_pass (pace rounds) c
      rw [show c.pass (pace rounds) = (edge, found) from hpass] at hround
      have hgrown := calls_passIn hpass
      rw [← view_sample Logged.calls (b := found) rfl] at hgrown
      rw [hround]
      rcases hsample : found.sample with ⟨e | ok, d⟩
      · rw [hsample] at hgrown
        exact hgrown
      · rw [hsample] at hgrown
        exact hgrown.trans (ih _ _ d)

/-- After the main loop nothing is called any more. -/
lemma calls_run (pace : Pace) {b c : Bench (Logged σ) κ β} (hlaunch : b.launch = .done c) :
    (b.run pace).2.dut.calls = (c.mainLoop pace c.togglesLeft 0 0).2.dut.calls := by
  rw [run_eq, hlaunch]
  simp only [Attempt.done]
  rcases c.mainLoop pace c.togglesLeft 0 0 with ⟨e | finished, d⟩
  · rfl
  · have hkept := view_closeRecorder Logged.calls
      (b := ({ d with phase := .finished } : Bench (Logged σ) κ β)) rfl
    simp only
    rcases hclose : ({ d with phase := .finished } : Bench (Logged σ) κ β).closeRecorder with
      ⟨e | ok, last⟩ <;> rw [hclose] at hkept <;> exact hkept

end Bench

end SocBench
