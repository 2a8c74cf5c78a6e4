import SocBench.Proofs.RunCourse

/-!
# A bench inside another

A device can be wrapped in another one that does the same and keeps some account of it besides, and
so can a sink.  A bench does not notice: whatever it asks of the outer device and the outer sink is
answered by those inside.  This file says so once and for all.  `Dut.Projects` and `Sink.Projects`
say that a function shows the device or the sink inside a wrapped one, with an equation for each
thing that a bench can ask.  From there the equations go up through the recorder and every stage of
a run to the run as a whole (`Bench.project_run`).
-/

namespace SocBench

/-! ## Wrapped devices and sinks -/

section Wrapping

variable {τ σ ι κ : Type}

/-- `f` shows the device inside a wrapped one. -/
structure Dut.Projects [Dut τ] [Dut σ] (f : τ → σ) : Prop where
  clk (w : τ) : Dut.clk (f w) = Dut.clk w
  finished (w : τ) : Dut.finished (f w) = Dut.finished w
  dumpEnabled (w : τ) : Dut.dumpEnabled (f w) = Dut.dumpEnabled w
  tap (w : τ) : Dut.tap (f w) = Dut.tap w
  tdo (w : τ) : Dut.tdo (f w) = Dut.tdo w
  setClk (level : Bool) (w : τ) : f (Dut.setClk level w) = Dut.setClk level (f w)
  setRstN (level : Bool) (w : τ) : f (Dut.setRstN level w) = Dut.setRstN level (f w)
  setUartRx (level : Bool) (w : τ) : f (Dut.setUartRx level w) = Dut.setUartRx level (f w)
  eval (w : τ) : f (Dut.eval w) = Dut.eval (f w)
  driveTap (levels : TapLevels) (w : τ) : f (Dut.driveTap levels w) = Dut.driveTap levels (f w)

/-- `g` shows the sink inside a wrapped one, which works on devices wrapped by `f`. -/
structure Sink.Projects [Sink ι τ] [Sink κ σ] (g : ι → κ) (f : τ → σ) : Prop where
  dump (k : ι) (tick : Tick) (w : τ) :
    (Sink.dump k tick w).map (Prod.map g f) = Sink.dump (g k) tick (f w)
  close (k : ι) (w : τ) : (Sink.close k w).map (Prod.map g f) = Sink.close (g k) (f w)

/-- The same slot with its sink seen in another way. -/
def SinkSlot.map {κ κ' : Type} (f : κ → κ') : SinkSlot κ → SinkSlot κ'
  | .absent => .absent
  | .active sink => .active (f sink)
  | .closed sink => .closed (f sink)

/-- The same recorder with its sink seen in another way. -/
def Recorder.map {κ κ' : Type} (f : κ → κ') (r : Recorder κ) : Recorder κ' :=
  { slot := r.slot.map f, tick := r.tick, samples := r.samples }

@[simp] lemma Recorder.map_id (r : Recorder κ) : r.map id = r := by
  obtain ⟨slot, tick, samples⟩ := r
  cases slot <;> rfl

end Wrapping

lemma Attempt.map_andThen {α γ : Type} {g : α → γ} {f : α → Attempt α} {f' : γ → Attempt γ}
    (hf : ∀ a, (f a).map g = f' (g a)) (x : Attempt α) :
    (x.andThen f).map g = (x.map g).andThen f' := by
  rcases x with ⟨_ | _, a⟩
  · rfl
  · exact hf a

/-! ## Recorders -/

namespace Recorder

variable {τ σ ι κ : Type} (g : ι → κ) (f : τ → σ)

/-- The recorder and the device inside. -/
def project (x : Recorder ι × τ) : Recorder κ × σ :=
  (x.1.map g, f x.2)

variable {g f}

section Sinks

variable [Sink ι τ] [Sink κ σ] (hg : Sink.Projects g f)
include hg

lemma project_writeOne (x : Recorder ι × τ) :
    (writeOne x).map (project g f) = writeOne (project g f x) := by
  obtain ⟨⟨slot, tick, samples⟩, w⟩ := x
  cases slot with
  | active k =>
    simp only [project, map, SinkSlot.map, writeOne]
    rcases tick.advance with e | ⟨issued, next⟩
    · rfl
    · simp only [← hg.dump k issued w]
      rcases hdump : Sink.dump k issued w with ⟨_ | _, k', w'⟩ <;> rfl
  | _ => rfl

lemma project_close (x : Recorder ι × τ) :
    (close x).map (project g f) = close (project g f x) := by
  obtain ⟨⟨slot, tick, samples⟩, w⟩ := x
  cases slot with
  | active k =>
    simp only [project, map, SinkSlot.map, close]
    rw [← hg.close k w]
    rfl
  | _ => rfl

end Sinks

variable [Dut τ] [Dut σ] (hf : Dut.Projects f)
include hf

lemma wants_project (x : Recorder ι × τ) :
    (project g f x).1.wants (project g f x).2 = x.1.wants x.2 := by
  obtain ⟨⟨slot, tick, samples⟩, w⟩ := x
  cases slot <;> simp [project, map, SinkSlot.map, wants, isEnabled, hf.dumpEnabled]

variable [Sink ι τ] [Sink κ σ] (hg : Sink.Projects g f)
include hg

lemma project_sampleOnce (x : Recorder ι × τ) :
    (sampleOnce x).map (project g f) = sampleOnce (project g f x) := by
  rw [sampleOnce, sampleOnce, wants_project hf]
  split
  · exact project_writeOne hg x
  · rfl

lemma project_sampleTwice (x : Recorder ι × τ) :
    (sampleTwice x).map (project g f) = sampleTwice (project g f x) := by
  rw [sampleTwice, sampleTwice, wants_project hf]
  split
  · rw [Attempt.map_andThen (project_writeOne hg), project_writeOne hg]
  · rfl

end Recorder

/-! ## Benches -/

namespace Bench

variable {τ σ ι κ β : Type} (g : ι → κ) (f : τ → σ)

/-- The bench inside. -/
def project (b : Bench τ ι β) : Bench σ κ β where
  dut := f b.dut
  clock := b.clock
  recorder := b.recorder.map g
  retired := b.retired.map (Recorder.map g)
  line := b.line
  bridge := b.bridge
  resetToggles := b.resetToggles
  warmupToggles := b.warmupToggles
  limit := b.limit
  phase := b.phase

lemma project_produce (steps : ℕ) (b : Bench τ ι β) :
    (b.produce steps).project g f = (b.project g f).produce steps := by
  obtain ⟨dut, clock, recorder, retired, line, bridge, resets, warmups, limit, phase⟩ := b
  cases line <;> rfl

/-- What happens to the recorder and the device happens to those inside. -/
lemma project_recorded (b : Bench τ ι β) {x : Attempt (Recorder ι × τ)}
    {y : Attempt (Recorder κ × σ)} (h : x.map (Recorder.project g f) = y) :
    (x.map fun (recorder, dut) => { b with recorder, dut }).map (project g f)
      = y.map fun (recorder, dut) => { b.project g f with recorder, dut } := by
  subst h
  rfl

variable {g f}

lemma project_closeRecorder [Sink ι τ] [Sink κ σ] (hg : Sink.Projects g f) (b : Bench τ ι β) :
    b.closeRecorder.map (project g f) = (b.project g f).closeRecorder :=
  project_recorded g f b (Recorder.project_close hg (b.recorder, b.dut))

variable [Dut τ] [Dut σ] (hf : Dut.Projects f)
include hf

lemma project_toggle (b : Bench τ ι β) :
    (b.project g f).toggle = (b.toggle.1, b.toggle.2.project g f) := by
  obtain ⟨dut, clock, recorder, retired, line, bridge, resets, warmups, limit, phase⟩ := b
  simp only [toggle, Clock.step, project, hf.clk]
  cases Dut.clk dut <;> simp [hf.eval, hf.setClk]

lemma project_poweredOn (b : Bench τ ι β) :
    (b.project g f).poweredOn = b.poweredOn.project g f := by
  simp [poweredOn, project, powerOn, hf.eval, hf.setUartRx, hf.setRstN, hf.setClk]

lemma project_driveLine (b : Bench τ ι β) :
    b.driveLine.project g f = (b.project g f).driveLine := by
  obtain ⟨dut, clock, recorder, retired, line, bridge, resets, warmups, limit, phase⟩ := b
  cases line <;> simp [driveLine, project, hf.setUartRx]

lemma project_driveTap [Bridge β] (b : Bench τ ι β) :
    b.driveTap.project g f = (b.project g f).driveTap := by
  obtain ⟨dut, clock, recorder, retired, line, bridge, resets, warmups, limit, phase⟩ := b
  cases bridge <;> simp [driveTap, project, hf.driveTap, hf.tap, hf.tdo, Recorder.map]

lemma project_passIn [Bridge β] (phase : Phase) (steps : ℕ) (b : Bench τ ι β) :
    (b.project g f).passIn phase steps
      = ((b.passIn phase steps).1, (b.passIn phase steps).2.project g f) := by
  by_cases hphase : phase = .running
  · rw [passIn, passIn, if_pos hphase, if_pos hphase, pass, pass, ← project_produce,
      project_toggle hf]
    generalize (b.produce steps).toggle = toggled
    rcases toggled with ⟨_ | _, c⟩
    · simp only [project_driveTap hf, project_driveLine hf]
    · simp only [project_driveTap hf]
  · rw [passIn, passIn, if_neg hphase, if_neg hphase, holdToggle, project_toggle hf]
    rfl

variable [Sink ι τ] [Sink κ σ] (hg : Sink.Projects g f)
include hg

lemma project_sample (b : Bench τ ι β) :
    b.sample.map (project g f) = (b.project g f).sample :=
  project_recorded g f b (Recorder.project_sampleTwice hf hg (b.recorder, b.dut))

lemma project_sampleStart (b : Bench τ ι β) :
    b.sampleStart.map (project g f) = (b.project g f).sampleStart :=
  project_recorded g f b (Recorder.project_sampleOnce hf hg (b.recorder, b.dut))

lemma project_heldIn (phase : Phase) (n : ℕ) (b : Bench τ ι β) :
    (b.heldIn phase n).map (project g f) = (b.project g f).heldIn phase n := by
  induction n generalizing b with
  | zero => rfl
  | succ n ih =>
    have htoggle : ((b.project g f).holdToggle phase).2 = (b.holdToggle phase).2.project g f := by
      rw [holdToggle, project_toggle hf]
      rfl
    rw [heldIn_succ, heldIn_succ, htoggle, ← project_sample hf hg]
    exact Attempt.map_andThen ih _

lemma project_resetAndWarmUp (b : Bench τ ι β) :
    b.resetAndWarmUp.map (project g f) = (b.project g f).resetAndWarmUp := by
  have hheld := project_heldIn hf hg .resetting b.resetToggles
    { b with dut := Dut.setRstN false b.dut }
  rw [resetAndWarmUp_eq, resetAndWarmUp_eq]
  simp only [project, hf.setRstN] at hheld ⊢
  rw [← hheld]
  refine Attempt.map_andThen (fun c => ?_) _
  have hwarm := project_heldIn hf hg .warmingUp c.warmupToggles
    { c with dut := Dut.eval (Dut.setRstN true c.dut) }
  simpa only [project, hf.eval, hf.setRstN] using hwarm

lemma project_launch (b : Bench τ ι β) :
    b.launch.map (project g f) = (b.project g f).launch := by
  rw [launch_eq, launch_eq, project_poweredOn hf, ← project_sampleStart hf hg]
  refine (Attempt.map_andThen (fun c => ?_) _).trans (congrArg (Attempt.andThen · _) ?_)
  · simp [Attempt.map, Attempt.done, project, hf.setUartRx]
  · exact Attempt.map_andThen
      (fun c => project_resetAndWarmUp hf hg { c with phase := .resetting }) _

variable [Bridge β]

lemma project_round (steps : ℕ) (b : Bench τ ι β) :
    (b.project g f).round steps = ((b.round steps).1, (b.round steps).2.map (project g f)) := by
  have hpass := project_passIn (g := g) hf .running steps b
  rw [passIn, passIn, if_pos rfl, if_pos rfl] at hpass
  rw [round_eq_pass, round_eq_pass, hpass, project_sample hf hg]

lemma project_mainLoop (pace : Pace) (budget rounds edges : ℕ) (b : Bench τ ι β) :
    (b.project g f).mainLoop pace budget rounds edges
      = ((b.mainLoop pace budget rounds edges).1,
          (b.mainLoop pace budget rounds edges).2.project g f) := by
  have hfinished : ∀ c : Bench τ ι β, Dut.finished (c.project g f).dut = Dut.finished c.dut :=
    fun c => hf.finished c.dut
  have hlimit : ∀ c : Bench τ ι β, (c.project g f).limit = c.limit := fun _ => rfl
  induction budget generalizing rounds edges b with
  | zero =>
    rw [mainLoop.eq_def, mainLoop.eq_def, hfinished, hlimit]
    split
    · rfl
    · split <;> rfl
  | succ budget ih =>
    rw [mainLoop.eq_def, mainLoop.eq_def, hfinished, hlimit]
    split
    · rfl
    · split
      · rfl
      · simp only [project_round hf hg]
        generalize b.round (pace rounds) = rounded
        rcases rounded with ⟨edge, _ | _, c⟩
        · rfl
        · exact ih (rounds + 1) _ c

/-- **The run of a wrapped bench is the run of the bench inside.** -/
lemma project_run (pace : Pace) (b : Bench τ ι β) :
    (b.project g f).run pace = ((b.run pace).1, (b.run pace).2.project g f) := by
  rw [run_eq, run_eq, ← project_launch hf hg]
  rcases b.launch with ⟨_ | _, c⟩
  · rfl
  · have hloop := project_mainLoop hf hg pace c.togglesLeft 0 0 c
    have hleft : (c.project g f).togglesLeft = c.togglesLeft := rfl
    simp only [Attempt.map, hleft, hloop]
    generalize c.mainLoop pace c.togglesLeft 0 0 = looped
    rcases looped with ⟨_ | finished, d⟩
    · rfl
    · have hclose := project_closeRecorder hg { d with phase := .finished }
      have hphase : ({ d with phase := .finished } : Bench τ ι β).project g f
          = { d.project g f with phase := .finished } := rfl
      rw [hphase] at hclose
      simp only [← hclose]
      generalize ({ d with phase := .finished } : Bench τ ι β).closeRecorder = closed
      rcases closed with ⟨_ | _, e⟩ <;> rfl

end Bench

/-! ## The course of a run -/

/-- The toggle inside. -/
def Toggle.project {τ σ ι κ β : Type} (g : ι → κ) (f : τ → σ) (t : Toggle τ ι β) :
    Toggle σ κ β :=
  ⟨t.phase, t.before.project g f, t.edge, t.found.project g f⟩

/-- The toggles inside. -/
def History.project {τ σ ι κ β : Type} (g : ι → κ) (f : τ → σ) (h : History τ ι β) :
    History σ κ β :=
  h.map (Toggle.project g f)

section Course

variable {τ σ ι κ β : Type} {g : ι → κ} {f : τ → σ} {h : History τ ι β} {phase : Phase}

@[simp] lemma History.inPhase_project : (h.project g f).inPhase phase = h.inPhase phase := by
  simp only [inPhase, project, List.countP_map]
  rfl

@[simp] lemma History.edges_project : (h.project g f).edges = h.edges := by
  simp only [edges, project, List.countP_map]
  rfl

namespace Bench

variable [Dut τ] [Dut σ] (hf : Dut.Projects f)
include hf

lemma due_project (c : Bench τ ι β) :
    (c.project g f).Due phase (h.project g f) ↔ c.Due phase h := by
  cases phase with
  | running => simp only [Due, project, hf.finished, History.edges_project]
  | _ => simp only [Due, History.inPhase_project]; rfl

variable [Sink ι τ] [Sink κ σ] (hg : Sink.Projects g f) [Bridge β] {pace : Pace}
  {b c : Bench τ ι β}
include hg

lemma Course.project (hc : Course pace b phase h c) :
    Course pace (b.project g f) phase (h.project g f) (c.project g f) := by
  induction hc with
  | powered hsample =>
    have hinside := project_sampleStart hf hg b.poweredOn
    rw [hsample, ← project_poweredOn hf] at hinside
    have hcourse : Course pace (b.project g f) .resetting [] _ := .powered hinside.symm
    simpa only [Bench.project, hf.setRstN, Attempt.done, History.project, List.map_nil]
      using hcourse
  | released hc hall ih =>
    have hcourse := ih.released (by rw [History.inPhase_project]; exact hall)
    simpa only [Bench.project, hf.eval, hf.setRstN] using hcourse
  | started hc hall ih =>
    have hcourse := ih.started (by rw [History.inPhase_project]; exact hall)
    simpa only [Bench.project, hf.setUartRx] using hcourse
  | @toggled phase h c c' found edge hc hdue hpass hsample ih =>
    have hinside := project_sample hf hg found
    have hpassed := project_passIn (g := g) hf phase (pace (h.inPhase .running)) c
    rw [hsample] at hinside
    rw [hpass, ← History.inPhase_project (g := g) (f := f)] at hpassed
    have hcourse := ih.toggled ((due_project hf c).2 hdue) hpassed hinside.symm
    rw [History.project, List.map_append]
    exact hcourse

end Bench

end Course

end SocBench
