import SocBench.Proofs.DeviceCalls
import SocBench.Proofs.RunAccounts
import SocBench.Proofs.StoredSamples

/-!
# Traced runs

A trace is worth something only if it shows what would have happened without it.  Here a run that
writes a value change dump is compared with the same run without a trace.  The sink of the dump only
looks at the device, and the only thing that any other part of the bench gets to see of the recorder
is the number of the next sample, which the bridge is told.  So if the sink stores all it is given,
and the bridge does not go by that number, the two runs go hand in hand as long as the samples can
be numbered: at every stage the bench of the untraced run is the bench of the traced one without its
recorder (`Bench.Course.untraced`, `Bench.Course.traced`), and so it is at the end, unless a tick
was lacking on the way (`Bench.Detached.run_untraced`).

What a run does to its device is written down by the device `Logged` around it.  The main result,
`Bench.traced_run_undisturbed`, says which stages the two runs have in common, and that they make
the same calls in the same order, leave the device in the same state, and come to the same result
apart from the count of samples.  If the ticks do not suffice, the traced run stops early, and its
calls are the first ones of the other run.
-/

namespace SocBench

/-! ## Two runs hand in hand -/

/-- A bridge that does not go by the number of the next sample. -/
def Bridge.IgnoresTick (β : Type) [Bridge β] : Prop :=
  ∀ (bridge : β) (tick tick' : Tick) (levels : TapLevels) (tdo : Bool),
    Bridge.onTick bridge tick levels tdo = Bridge.onTick bridge tick' levels tdo

/-- Whether a sink is a value change dump. -/
def TraceSink.IsVcd {κ : Type} : TraceSink κ → Prop
  | .vcd _ _ => True
  | _ => False

lemma TraceSink.onlyLook_isVcd {κ σ : Type} [Dut σ] [Sink κ σ] :
    Sink.OnlyLook (TraceSink.IsVcd (κ := κ)) σ where
  dump {k} h tick s := by
    cases k with
    | vcd path sink => exact ⟨_, _, rfl, trivial⟩
    | native => exact h.elim
    | custom sink => exact h.elim
  close {k} h s := by
    cases k with
    | vcd path sink => exact ⟨_, _, rfl⟩
    | native => exact h.elim
    | custom sink => exact h.elim

/-- The summary of the same run without samples. -/
def Summary.unsampled (s : Summary) : Summary :=
  { s with samples := 0, finalTick := 0 }

namespace Bench

variable {σ κ β : Type}

/-- The bench without its recorder. -/
def untraced (b : Bench σ κ β) : Bench σ κ β :=
  { b with recorder := .disabled }

end Bench

/-- The toggles without the recorder. -/
def History.untraced {σ κ β : Type} (h : History σ κ β) : History σ κ β :=
  h.map fun t => ⟨t.phase, t.before.untraced, t.edge, t.found.untraced⟩

namespace Bench

variable {σ κ β : Type} [Dut σ] [Bridge β]

/-- A bench on which nothing depends on the recorder: it writes a value change dump, and if there is
a bridge it does not go by the number of the next sample. -/
structure Detached (b : Bench σ (TraceSink κ) β) : Prop where
  recorder : b.recorder.WritesTo TraceSink.IsVcd
  bridge : b.bridge.isSome → Bridge.IgnoresTick β

lemma untraced_driveTap {b : Bench σ κ β} (hbridge : b.bridge.isSome → Bridge.IgnoresTick β) :
    b.untraced.driveTap = b.driveTap.untraced := by
  obtain ⟨dut, clock, recorder, retired, line, bridge, resets, warmups, limit, phase⟩ := b
  cases bridge with
  | none => rfl
  | some bridge =>
    have hignores := hbridge rfl bridge recorder.tick .zero (Dut.tap dut) (Dut.tdo dut)
    simp only [driveTap, untraced, hignores]
    rfl

lemma isSome_bridge_driveTap (b : Bench σ κ β) : b.driveTap.bridge.isSome = b.bridge.isSome := by
  obtain ⟨dut, clock, recorder, retired, line, bridge, resets, warmups, limit, phase⟩ := b
  cases bridge <;> rfl

omit [Bridge β] in
/-- A round before it comes to the tap does not depend on the recorder, nor touch the bridge. -/
lemma untraced_toggle_driveLine (steps : ℕ) (edge : Edge) (b : Bench σ κ β) :
    (if edge = .rising then (b.untraced.produce steps).toggle.2.driveLine
        else (b.untraced.produce steps).toggle.2)
      = (if edge = .rising then (b.produce steps).toggle.2.driveLine
        else (b.produce steps).toggle.2).untraced
    ∧ (if edge = .rising then (b.produce steps).toggle.2.driveLine
        else (b.produce steps).toggle.2).bridge = b.bridge := by
  obtain ⟨dut, clock, recorder, retired, line, bridge, resets, warmups, limit, phase⟩ := b
  cases edge <;> cases line <;> exact ⟨rfl, rfl⟩

/-- A toggle does not depend on the recorder. -/
lemma untraced_passIn {b : Bench σ κ β} (hbridge : b.bridge.isSome → Bridge.IgnoresTick β)
    (phase : Phase) (steps : ℕ) :
    b.untraced.passIn phase steps
      = ((b.passIn phase steps).1, (b.passIn phase steps).2.untraced) := by
  by_cases hphase : phase = .running
  · obtain ⟨hdriven, hkept⟩ := untraced_toggle_driveLine steps b.toggle.1 b
    have hedge : b.untraced.toggle.1 = b.toggle.1 := rfl
    rw [passIn, passIn, if_pos hphase, if_pos hphase, pass_eq, pass_eq, hedge, hdriven,
      untraced_driveTap (by rwa [hkept])]
  · rw [passIn, passIn, if_neg hphase, if_neg hphase]
    rfl

lemma isSome_bridge_passIn (phase : Phase) (steps : ℕ) (b : Bench σ κ β) :
    (b.passIn phase steps).2.bridge.isSome = b.bridge.isSome := by
  by_cases hphase : phase = .running
  · rw [passIn, if_pos hphase, pass_eq, isSome_bridge_driveTap,
      (untraced_toggle_driveLine steps b.toggle.1 b).2]
  · rw [passIn, if_neg hphase]
    rfl

variable [Sink κ σ] {b c found : Bench σ (TraceSink κ) β} {phase : Phase} {edge : Edge} {steps : ℕ}

omit [Sink κ σ] in
lemma Detached.passIn (h : b.Detached) (hpass : b.passIn phase steps = (edge, found)) :
    found.Detached := by
  constructor
  · rw [(passed_passIn hpass).recorder_eq]
    exact h.recorder
  · have hbridge := isSome_bridge_passIn phase steps b
    rw [hpass] at hbridge
    rw [hbridge]
    exact h.bridge

/-- A sample changes nothing but the recorder. -/
lemma Detached.sample (h : b.Detached) (hsample : b.sample = .done c) :
    c.untraced = b.untraced ∧ c.Detached := by
  obtain ⟨outcome, r, hwritten, hr⟩ := h.recorder.sampleTwice TraceSink.onlyLook_isVcd b.dut
  obtain ⟨recorder, dut, hdone, rfl⟩ := sample_eq_done hsample
  cases hwritten.symm.trans hdone
  exact ⟨rfl, hr, h.bridge⟩

lemma Detached.sampleStart (h : b.Detached) (hsample : b.sampleStart = .done c) :
    c.untraced = b.untraced ∧ c.Detached := by
  obtain ⟨outcome, r, hwritten, hr⟩ := h.recorder.sampleOnce TraceSink.onlyLook_isVcd b.dut
  obtain ⟨recorder, dut, hdone, rfl⟩ := sampleStart_eq_done hsample
  cases hwritten.symm.trans hdone
  exact ⟨rfl, hr, h.bridge⟩

lemma Detached.closeRecorder (h : b.Detached) (hclose : b.closeRecorder = .done c) :
    c.untraced = b.untraced := by
  obtain ⟨outcome, r, hclosed⟩ := h.recorder.close TraceSink.onlyLook_isVcd b.dut
  obtain ⟨⟨recorder, dut⟩, hdone, rfl⟩ := Attempt.map_eq_done.mp hclose
  cases hclosed.symm.trans hdone
  rfl

variable {pace : Pace} {h : History σ (TraceSink κ) β}

/-! ### Stage by stage -/

omit [Dut σ] [Bridge β] [Sink κ σ] in
@[simp] lemma inPhase_untraced : h.untraced.inPhase phase = h.inPhase phase := by
  simp only [History.inPhase, History.untraced, List.countP_map]
  rfl

omit [Dut σ] [Bridge β] [Sink κ σ] in
@[simp] lemma edges_untraced : h.untraced.edges = h.edges := by
  simp only [History.edges, History.untraced, List.countP_map]
  rfl

omit [Bridge β] [Sink κ σ] in
lemma due_untraced : c.untraced.Due phase h.untraced ↔ c.Due phase h := by
  cases phase with
  | running =>
    rw [Due, Due, edges_untraced]
    rfl
  | _ =>
    simp only [Due, inPhase_untraced]
    rfl

omit [Dut σ] [Bridge β] [Sink κ σ] in
lemma untraced_append : (h ++ [⟨phase, c, edge, found⟩] : History σ (TraceSink κ) β).untraced
    = h.untraced ++ [⟨phase, c.untraced, edge, found.untraced⟩] := by
  rw [History.untraced, List.map_append]
  rfl

/-- A stage of the run with a trace is one of the run without it. -/
lemma Course.untraced (hb : b.Detached) (hc : Course pace b phase h c) :
    Course pace b.untraced phase h.untraced c.untraced ∧ c.Detached := by
  induction hc with
  | @powered on hsample =>
    have hpowered : b.poweredOn.Detached := ⟨hb.recorder, hb.bridge⟩
    obtain ⟨hon, hdetached⟩ := hpowered.sampleStart hsample
    have hsample' : b.untraced.poweredOn.sampleStart = .done on.untraced := by
      rw [hon]
      rfl
    exact ⟨.powered hsample', hdetached.recorder, hdetached.bridge⟩
  | released _ hall ih =>
    exact ⟨ih.1.released (inPhase_untraced.trans hall), ih.2.recorder, ih.2.bridge⟩
  | started _ hall ih =>
    exact ⟨ih.1.started (inPhase_untraced.trans hall), ih.2.recorder, ih.2.bridge⟩
  | @toggled phase h c c' found edge _ hdue hpass hsample ih =>
    obtain ⟨hcourse, hdetached⟩ := ih
    obtain ⟨hsame, hc'⟩ := (hdetached.passIn hpass).sample hsample
    have hpass' := untraced_passIn hdetached.bridge phase (pace (h.inPhase .running))
    rw [hpass, ← inPhase_untraced] at hpass'
    have hsample' : found.untraced.sample = .done c'.untraced := by
      rw [hsame]
      exact sample_of_disabled rfl
    refine ⟨?_, hc'⟩
    rw [untraced_append]
    exact hcourse.toggled (due_untraced.mpr hdue) hpass' hsample'

omit [Bridge β] [Sink κ σ] in
lemma hasTicks_untraced : b.HasTicks h.untraced ↔ b.HasTicks h := by
  have hsamples : b.samplesFor h.untraced = b.samplesFor h := by
    simp only [samplesFor, History.untraced, List.countP_map]
    rfl
  rw [HasTicks, hsamples, HasTicks]

/-- While the ticks last, a stage of the run without a trace is one of the run with it. -/
lemma Course.traced {h' : History σ (TraceSink κ) β} {c' : Bench σ (TraceSink κ) β}
    (hb : b.Detached) (hstores : b.Stores pace) (hc : Course pace b.untraced phase h' c')
    (hticks : b.HasTicks h') :
    ∃ h c, Course pace b phase h c ∧ h.untraced = h' ∧ c.untraced = c' := by
  induction hc with
  | @powered on' hsample =>
    rcases hstores.start with ⟨on, hdone, -⟩ | ⟨hnone, -⟩
    · have hpowered : b.poweredOn.Detached := ⟨hb.recorder, hb.bridge⟩
      obtain ⟨hon, -⟩ := hpowered.sampleStart hdone
      obtain rfl : on.untraced = on' := hon.trans (congrArg Prod.snd hsample)
      exact ⟨_, _, .powered hdone, rfl, rfl⟩
    · exact absurd hticks hnone
  | released _ hall ih =>
    obtain ⟨h, c, hcourse, rfl, rfl⟩ := ih hticks
    exact ⟨_, _, hcourse.released (inPhase_untraced.symm.trans hall), rfl, rfl⟩
  | started _ hall ih =>
    obtain ⟨h, c, hcourse, rfl, rfl⟩ := ih hticks
    exact ⟨_, _, hcourse.started (inPhase_untraced.symm.trans hall), rfl, rfl⟩
  | @toggled phase _ _ c'' found' edge' _ hdue hpass' hsample' ih =>
    obtain ⟨h, c, hcourse, rfl, rfl⟩ := ih hticks.of_append
    have hdetached := (hcourse.untraced hb).2
    have hdue' := due_untraced.mp hdue
    obtain ⟨edge, found, hpass⟩ :
        ∃ edge found, c.passIn phase (pace (h.inPhase .running)) = (edge, found) := ⟨_, _, rfl⟩
    have hsame := untraced_passIn hdetached.bridge phase (pace (h.inPhase .running))
    rw [hpass, ← inPhase_untraced, hpass'] at hsame
    cases hsame
    rcases hcourse.stored hstores hdue' hpass with ⟨d, hsample⟩ | ⟨hnone, -⟩
    · obtain ⟨hd, -⟩ := (hdetached.passIn hpass).sample hsample
      rw [sample_of_disabled rfl] at hsample'
      cases hsample'
      exact ⟨_, d, hcourse.toggled hdue' hpass hsample, untraced_append, hd⟩
    · rw [← untraced_append, hasTicks_untraced] at hticks
      exact absurd hticks hnone

end Bench

namespace Bench

/-! ### To the end -/

variable {σ κ β : Type} [Dut σ] [Sink κ (Logged σ)] [Sink.Keeps κ (Logged.calls (σ := σ))]
  [Bridge β] {b c found : Bench (Logged σ) (TraceSink κ) β} {phase : Phase} {pace : Pace}
  {h : History (Logged σ) (TraceSink κ) β}

/-- An attempt with the recorder and the same attempt without it: both succeed and leave the same
bench but for the recorder, or the first one fails, and what it called until then the other one
called as well. -/
def Abreast (x y : Attempt (Bench (Logged σ) (TraceSink κ) β)) : Prop :=
  (∃ c, x = .done c ∧ y = .done c.untraced ∧ c.Detached) ∨
    ∃ e last, x = .failed e last ∧ last.dut.calls <+: y.2.dut.calls

omit [Dut σ] [Sink κ (Logged σ)] [Sink.Keeps κ (Logged.calls (σ := σ))] in
lemma Abreast.andThen {x y : Attempt (Bench (Logged σ) (TraceSink κ) β)}
    {f g : Bench (Logged σ) (TraceSink κ) β → Attempt (Bench (Logged σ) (TraceSink κ) β)}
    (h : Abreast x y) (hfg : ∀ c, c.Detached → Abreast (f c) (g c.untraced))
    (hg : ∀ c, c.dut.calls <+: (g c).2.dut.calls) : Abreast (x.andThen f) (y.andThen g) := by
  rcases h with ⟨c, rfl, rfl, hc⟩ | ⟨e, last, rfl, hcalls⟩
  · exact hfg c hc
  · exact Or.inr ⟨e, last, rfl, hcalls.trans (calls_andThen hg)⟩

lemma Detached.abreast_sample (h : b.Detached) : Abreast b.sample b.untraced.sample := by
  rw [sample_of_disabled (b := b.untraced) rfl]
  rcases b.sample.eq_done_or_failed with hsample | ⟨e, hsample⟩
  · obtain ⟨hsame, hdetached⟩ := h.sample hsample
    exact Or.inl ⟨_, hsample, by rw [hsame], hdetached⟩
  · refine Or.inr ⟨e, _, hsample, ?_⟩
    rw [view_sample Logged.calls (b := b) rfl]
    exact List.prefix_rfl

lemma Detached.abreast_sampleStart (h : b.Detached) :
    Abreast b.sampleStart b.untraced.sampleStart := by
  have huntraced : b.untraced.sampleStart = .done b.untraced := rfl
  rw [huntraced]
  rcases b.sampleStart.eq_done_or_failed with hsample | ⟨e, hsample⟩
  · obtain ⟨hsame, hdetached⟩ := h.sampleStart hsample
    exact Or.inl ⟨_, hsample, by rw [hsame], hdetached⟩
  · refine Or.inr ⟨e, _, hsample, ?_⟩
    rw [view_sampleStart Logged.calls (b := b) rfl]
    exact List.prefix_rfl

lemma Detached.abreast_heldIn (h : b.Detached) (phase : Phase) (n : ℕ) :
    Abreast (b.heldIn phase n) (b.untraced.heldIn phase n) := by
  induction n generalizing b with
  | zero => exact Or.inl ⟨b, rfl, rfl, h⟩
  | succ n ih =>
    have hfound : (b.holdToggle phase).2.Detached := ⟨h.recorder, h.bridge⟩
    rw [heldIn_succ, heldIn_succ]
    exact hfound.abreast_sample.andThen (fun c hc => ih hc) fun c => calls_heldIn phase n c

lemma Detached.abreast_resetAndWarmUp (h : b.Detached) :
    Abreast b.resetAndWarmUp b.untraced.resetAndWarmUp := by
  have hstart : ({ b with dut := Dut.setRstN false b.dut } :
      Bench (Logged σ) (TraceSink κ) β).Detached := ⟨h.recorder, h.bridge⟩
  rw [resetAndWarmUp_eq, resetAndWarmUp_eq]
  refine (hstart.abreast_heldIn .resetting b.resetToggles).andThen ?_ calls_released
  intro c hc
  have hreleased : ({ c with dut := Dut.eval (Dut.setRstN true c.dut) } :
      Bench (Logged σ) (TraceSink κ) β).Detached := ⟨hc.recorder, hc.bridge⟩
  exact hreleased.abreast_heldIn .warmingUp c.warmupToggles

lemma Detached.abreast_launch (h : b.Detached) : Abreast b.launch b.untraced.launch := by
  have hpowered : b.poweredOn.Detached := ⟨h.recorder, h.bridge⟩
  rw [launch_eq, launch_eq]
  refine (hpowered.abreast_sampleStart.andThen ?_ ?_).andThen ?_ ?_
  · intro c hc
    have hc' : ({ c with phase := .resetting } : Bench (Logged σ) (TraceSink κ) β).Detached :=
      ⟨hc.recorder, hc.bridge⟩
    exact hc'.abreast_resetAndWarmUp
  · intro c
    exact calls_resetAndWarmUp { c with phase := .resetting }
  · intro c hc
    exact Or.inl ⟨_, rfl, rfl, hc.recorder, hc.bridge⟩
  · intro c
    exact List.prefix_append _ _

lemma Detached.launch (h : b.Detached) (hlaunch : b.launch = .done c) :
    b.untraced.launch = .done c.untraced ∧ c.Detached := by
  rcases h.abreast_launch with ⟨d, hdone, hdone', hd⟩ | ⟨e, last, hfailed, -⟩
  · cases hlaunch.symm.trans hdone
    exact ⟨hdone', hd⟩
  · cases hlaunch.symm.trans hfailed

lemma Detached.calls_launch (h : b.Detached) {e : BenchError}
    {last start : Bench (Logged σ) (TraceSink κ) β} (hlaunch : b.launch = .failed e last)
    (hlaunch' : b.untraced.launch = .done start) : last.dut.calls <+: start.dut.calls := by
  have habreast := h.abreast_launch
  rw [hlaunch, hlaunch'] at habreast
  rcases habreast with ⟨d, hdone, -⟩ | ⟨e', last', hfailed, hcalls⟩
  · cases hdone
  · cases hfailed
    exact hcalls

/-- Without the recorder the run comes to a stage for which the recorder has too few ticks. -/
def LacksTicks (pace : Pace) (b : Bench (Logged σ) (TraceSink κ) β) : Prop :=
  ∃ phase h c, Course pace b.untraced phase h c ∧ ¬ b.HasTicks h

omit [Sink.Keeps κ (Logged.calls (σ := σ))] in
/-- Where the samples after a toggle lack a tick, the run without the recorder goes on. -/
lemma lacksTicks_of_toggle (hb : b.Detached) (hc : Course pace b phase h c) (hdue : c.Due phase h)
    {edge : Edge} (hpass : c.passIn phase (pace (h.inPhase .running)) = (edge, found))
    (hnone : ¬ b.HasTicks (h ++ [⟨phase, c, edge, found⟩])) : b.LacksTicks pace := by
  obtain ⟨hcourse, hdetached⟩ := hc.untraced hb
  have hpass' := untraced_passIn hdetached.bridge phase (pace (h.inPhase .running))
  rw [hpass, ← inPhase_untraced] at hpass'
  refine ⟨_, _, _, hcourse.toggled (due_untraced.mpr hdue) hpass' (sample_of_disabled rfl), ?_⟩
  rw [← untraced_append, hasTicks_untraced]
  exact hnone

/-- The main loop with the recorder and the one without it stop at the same bench, or the first one
lacks a tick. -/
lemma Detached.mainLoop (hb : b.Detached) (hstores : b.Stores pace) (hdetached : c.Detached)
    (hc : Course pace b .running h c) (budget : ℕ) :
    let looped := c.mainLoop pace budget (h.inPhase .running) h.edges
    let looped' := c.untraced.mainLoop pace budget (h.inPhase .running) h.edges
    (looped' = (looped.1, looped.2.untraced) ∧ looped.2.Detached
      ∧ ∀ finished, looped.1 = .ok finished →
          ∃ h', Course pace b .running h' looped.2 ∧ ¬ looped.2.Due .running h') ∨
      looped.1 = .error (.fault .addOverflow) ∧ looped.2.dut.calls <+: looped'.2.dut.calls
        ∧ b.LacksTicks pace := by
  dsimp only
  induction budget generalizing h c with
  | zero =>
    by_cases hdue : c.Due .running h
    · have hdue' : c.untraced.Due .running h := hdue
      rw [mainLoop_zero hdue.1 hdue.2, mainLoop_zero hdue'.1 hdue'.2]
      refine Or.inl ⟨rfl, hdetached, ?_⟩
      rintro finished ⟨⟩
    · have hdue' : ¬ c.untraced.Due .running h := hdue
      rw [mainLoop_of_not_due hdue, mainLoop_of_not_due hdue']
      exact Or.inl ⟨rfl, hdetached, fun _ _ => ⟨h, hc, hdue⟩⟩
  | succ budget ih =>
    by_cases hdue : c.Due .running h
    · have hdue' : c.untraced.Due .running h := hdue
      obtain ⟨edge, found, hpass⟩ :
          ∃ edge found, c.passIn .running (pace (h.inPhase .running)) = (edge, found) := ⟨_, _, rfl⟩
      have hpass' := untraced_passIn hdetached.bridge .running (pace (h.inPhase .running))
      rw [hpass] at hpass'
      have hround := round_eq_pass (pace (h.inPhase .running)) c
      rw [show c.pass _ = _ from hpass] at hround
      have hround' := round_eq_pass (pace (h.inPhase .running)) c.untraced
      rw [show c.untraced.pass _ = _ from hpass', sample_of_disabled rfl] at hround'
      rw [mainLoop_succ hdue'.1 hdue'.2 hround']
      rcases hc.stored hstores hdue hpass with ⟨d, hsample⟩ | ⟨hnone, last, hsample⟩
      · obtain ⟨hsame, hd⟩ := (hdetached.passIn hpass).sample hsample
        have hnext := ih hd (hc.toggled hdue hpass hsample)
        rw [History.edges_append, History.inPhase_append] at hnext
        simp only [true_and, if_true] at hnext
        have hedges : (if edge = .rising then h.edges + 1 else h.edges)
            = h.edges + if edge = .rising then 1 else 0 := by
          split <;> rfl
        rw [hsample] at hround
        rw [mainLoop_succ hdue.1 hdue.2 hround, hedges, ← hsame]
        exact hnext
      · have hkept := view_sample Logged.calls hsample
        rw [hsample] at hround
        rw [mainLoop_of_failed hdue hround]
        refine Or.inr ⟨rfl, ?_, lacksTicks_of_toggle hb hc hdue hpass hnone⟩
        exact hkept ▸ calls_mainLoop _ _ _ found.untraced
    · have hdue' : ¬ c.untraced.Due .running h := hdue
      rw [mainLoop_of_not_due hdue, mainLoop_of_not_due hdue']
      exact Or.inl ⟨rfl, hdetached, fun _ _ => ⟨h, hc, hdue⟩⟩

/-- **A run does not depend on the recorder, unless it lacks a tick.** -/
lemma Detached.run_untraced (hb : b.Detached) (hstores : b.Stores pace) :
    b.untraced.run pace = ((b.run pace).1.map Summary.unsampled, (b.run pace).2.untraced) ∨
      (b.run pace).1 = .error (.fault .addOverflow)
        ∧ (b.run pace).2.dut.calls <+: (b.untraced.run pace).2.dut.calls ∧ b.LacksTicks pace := by
  rcases launch_course pace b with ⟨h, c, hlaunch, hc, hnone⟩ | ⟨e, last, hlaunch, hearly⟩
  · obtain ⟨hlaunch', hdetached⟩ := hb.launch hlaunch
    have hedges : h.edges = 0 := Nat.eq_zero_of_le_zero (hnone ▸ h.edges_le)
    have hbudget : c.untraced.togglesLeft = c.togglesLeft := rfl
    have hloop := hb.mainLoop hstores hdetached hc c.togglesLeft
    have hcalls := calls_run pace hlaunch
    have hcalls' := calls_run pace hlaunch'
    rw [hnone, hedges] at hloop
    rw [hbudget] at hcalls'
    rw [hcalls, hcalls', run_eq, run_eq, hlaunch, hlaunch']
    simp only [Attempt.done, hbudget]
    generalize c.mainLoop pace c.togglesLeft 0 0 = looped at hloop
    rcases hloop with ⟨hsame, hleft, hover⟩ | ⟨herror, hbehind⟩
    · left
      rw [hsame]
      rcases looped with ⟨e | finished, d⟩
      · rfl
      · obtain ⟨h', hd, hstop⟩ := hover finished rfl
        obtain ⟨last, hclose⟩ := hstores.atEnd hd hstop
        have hfinal : ({ d with phase := .finished } :
            Bench (Logged σ) (TraceSink κ) β).Detached := ⟨hleft.recorder, hleft.bridge⟩
        have hclose' : ({ d.untraced with phase := .finished } :
            Bench (Logged σ) (TraceSink κ) β).closeRecorder = .done last.untraced := by
          rw [hfinal.closeRecorder hclose]
          exact closeRecorder_of_disabled rfl
        simp only [hclose, hclose', Attempt.done]
        rfl
    · right
      rcases looped with ⟨e | finished, d⟩
      · cases herror
        exact ⟨rfl, hbehind⟩
      · cases herror
  · right
    have hfailed : b.run pace = (.error e, last) := by
      rw [run_eq, hlaunch]
      rfl
    have herror : e = .fault .addOverflow := hstores.error_eq (congrArg Prod.fst hfailed)
    obtain ⟨start, hlaunch', -⟩ := launch_of_disabled (b := b.untraced) rfl
    refine ⟨by rw [hfailed, herror], ?_, ?_⟩
    · rw [hfailed, calls_run pace hlaunch']
      exact (hb.calls_launch hlaunch hlaunch').trans (calls_mainLoop _ _ _ start)
    · rcases hearly with hstart | ⟨phase, h, c, edge, found, hc, hdue, hpass, hsample⟩
      · rcases hstores.start with ⟨c, hdone, -⟩ | ⟨hnone, -⟩
        · cases hstart.symm.trans hdone
        · exact ⟨_, _, _, .powered rfl, hnone⟩
      · rcases hc.stored hstores hdue hpass with ⟨c', hdone⟩ | ⟨hnone, -⟩
        · cases hsample.symm.trans hdone
        · exact lacksTicks_of_toggle hb hc hdue hpass hnone

end Bench

/-! ## Runs with a limit and without -/

namespace Bench

section Limit

variable {σ κ β : Type} [Dut σ] [Dut.HoldsClock σ] [Sink κ σ] [Sink.Keeps κ (Dut.clk (σ := σ))]
  [Bridge β] {b c : Bench σ κ β} {pace : Pace} {phase : Phase} {h : History σ κ β} {n : ℕ}

/-- With a limit, another toggle is due only before all toggles that the limit allows. -/
lemma Course.length_lt_of_due (hlimit : b.limit = some n) (hc : Course pace b phase h c)
    (hdue : c.Due phase h) : h.length < b.resetToggles + b.warmupToggles + 2 * n := by
  have hsettings := hc.settings_eq
  have hlength := hc.length_eq
  cases phase with
  | resetting =>
    have hleft : h.inPhase .resetting < c.resetToggles := hdue
    simp only [togglesBefore] at hlength
    omega
  | warmingUp =>
    have hleft : h.inPhase .warmingUp < c.warmupToggles := hdue
    simp only [togglesBefore] at hlength
    omega
  | running =>
    have hspare : h.edges < n := by
      have hgoing := hdue.2
      rw [hsettings.2.2.1, hlimit] at hgoing
      simpa [limitReached] using hgoing
    have hedges := hc.edges_eq
    simp only [togglesBefore] at hlength
    omega
  | finished => exact absurd rfl hc.phase_ne_finished

/-- With a limit, the ticks last if there are enough for all toggles that it allows. -/
lemma Course.hasTicks_of_limit (hlimit : b.limit = some n) (hc : Course pace b phase h c)
    {r : Bench σ κ β} (henough : r.recorder.tick.value.toNat
      + (1 + 2 * (b.resetToggles + b.warmupToggles + 2 * n)) < UInt64.size) : r.HasTicks h := by
  have hlength : h.length ≤ b.resetToggles + b.warmupToggles + 2 * n := by
    induction hc with
    | powered => exact Nat.zero_le _
    | released _ _ ih => exact ih
    | started _ _ ih => exact ih
    | toggled hc hdue _ _ _ =>
      rw [List.length_append]
      exact hc.length_lt_of_due hlimit hdue
  exact hasTicks_of_length (by omega)

end Limit

variable {σ κ β : Type} [Dut σ] [Sink κ σ] [Bridge β] {b c : Bench σ κ β} {pace : Pace}
  {phase : Phase} {h : History σ κ β}

/-- Without a recorder a run always comes to its main loop. -/
lemma started_of_disabled (pace : Pace) (hdisabled : b.recorder = .disabled) :
    ∃ h c, Course pace b .running h c ∧ h.length = b.resetToggles + b.warmupToggles := by
  obtain ⟨start, hlaunch, -⟩ := launch_of_disabled hdisabled
  rcases launch_course pace b with ⟨h, c, -, hc, hnone⟩ | ⟨e, last, hfailed, -⟩
  · refine ⟨h, c, hc, ?_⟩
    rw [hc.length_eq, hnone]
    rfl
  · cases hlaunch.symm.trans hfailed

/-- What no call changes stays as it is along a run. -/
lemma Course.view_eq {α : Type} (view : σ → α) [Sink.Keeps κ view]
    (hclk : ∀ level s, view (Dut.setClk level s) = view s)
    (hrst : ∀ level s, view (Dut.setRstN level s) = view s)
    (hrx : ∀ level s, view (Dut.setUartRx level s) = view s)
    (heval : ∀ s, view (Dut.eval s) = view s)
    (htap : ∀ levels s, view (Dut.driveTap levels s) = view s)
    (hc : Course pace b phase h c) : view c.dut = view b.dut := by
  induction hc with
  | powered hsample =>
    have hon : view (powerOn b.dut) = view b.dut := by
      rw [powerOn, heval, hrx, hrst, hclk]
    exact (hrst _ _).trans ((view_sampleStart view hsample).trans hon)
  | released _ _ ih => exact ((heval _).trans (hrst _ _)).trans ih
  | started _ _ ih => exact (hrx _ _).trans ih
  | @toggled _ _ c c' found _ _ _ hpass hsample ih =>
    have hdriven := (passed_passIn hpass).dut_driven
    refine (view_sample view hsample).trans (Eq.trans ?_ ih)
    generalize found.dut = s at hdriven
    induction hdriven with
    | plain => exact (heval _).trans (hclk _ _)
    | line => exact (hrx _ _).trans ((heval _).trans (hclk _ _))
    | tap levels _ ih => exact (htap _ _).trans ih

/-- Without a limit, a device that never finishes keeps the run from returning a summary. -/
lemma run_error_of_endless (pace : Pace) (hlimit : b.limit = none)
    (hgoing : ∀ {h c}, Course pace b .running h c → Dut.finished c.dut = false) :
    ∃ e, (b.run pace).1 = .error e := by
  have hending := run_ending pace b
  cases hresult : (b.run pace).1 with
  | error e => exact ⟨e, rfl⟩
  | ok summary =>
    rw [hresult] at hending
    cases hending with
    | completed hc hover hclose =>
      refine absurd ⟨hgoing hc, ?_⟩ hover
      rw [hc.settings_eq.2.2.1, hlimit]
      rfl

end Bench

/-! ## The two runs -/

namespace Bench

variable {σ β : Type} [Dut σ] [Bridge β]

/-- **Tracing does not disturb a run.**  Take a run with a value change dump whose sink stores all
it is given, and the same run without it, and list the calls of both, which changes neither.  If
there is a bridge, let it ignore the number of the next sample.

The stages of the first run without their recorder are those of the second for which the ticks last.
Either the two runs set the same pins, evaluate the device and drive its tap in the same order,
leave the device in the same state, and both return a summary, with the same entries but for the
samples, of which the second run has none, or neither does, for the same reason.  Or the second run
comes to a stage for which the first has too few ticks.  Then the first one stops where it lacks the
first of them, and until there it made the same calls.  A run that would go on for ever returns no
summary in either case: it stops when its toggles or its samples can no longer be counted. -/
theorem traced_run_undisturbed (pace : Pace) (b : Bench σ (TraceSink Empty) β)
    (hvcd : b.recorder.WritesTo TraceSink.IsVcd) (hstores : b.Stores pace)
    (hbridge : b.bridge.isSome → Bridge.IgnoresTick β) :
    let traced := b.logged.run pace
    let untraced := b.untraced.logged.run pace
    b.run pace = (traced.1, traced.2.unlogged)
      ∧ b.untraced.run pace = (untraced.1, untraced.2.unlogged)
      ∧ (∀ phase h' c', (∃ h c, Course pace b.logged phase h c ∧ h.untraced = h' ∧ c.untraced = c')
          ↔ Course pace b.untraced.logged phase h' c' ∧ b.logged.HasTicks h')
      ∧ (untraced.2.dut.calls = traced.2.dut.calls ∧ untraced.2.dut.dut = traced.2.dut.dut
            ∧ untraced.1 = traced.1.map Summary.unsampled ∨
          traced.1 = .error (.fault .addOverflow) ∧ traced.2.dut.calls <+: untraced.2.dut.calls
            ∧ ∃ phase h' c', Course pace b.untraced.logged phase h' c' ∧ ¬ b.logged.HasTicks h')
      ∧ ∀ e, traced.1 = .error e ∨ untraced.1 = .error e → e = .fault .addOverflow := by
  intro traced untraced
  have hstores' : b.logged.Stores pace := by
    refine Stores.of_project Logged.projects_dut Logged.projects_sink ?_
    rw [project_id_eq_unlogged]
    exact hstores
  have hnothing : b.untraced.logged.Stores pace := by
    refine stores_of_unlimited pace ?_
    rintro _ ⟨⟩
  have hdetached : b.logged.Detached := ⟨hvcd, hbridge⟩
  refine ⟨unlogged_run pace b, unlogged_run pace b.untraced, ?_, ?_, ?_⟩
  · intro phase h' c'
    constructor
    · rintro ⟨h, c, hc, rfl, rfl⟩
      exact ⟨(hc.untraced hdetached).1, hasTicks_untraced.mpr (hc.hasTicks hstores')⟩
    · rintro ⟨hc', hticks⟩
      exact hc'.traced hdetached hstores' hticks
  · refine (hdetached.run_untraced hstores').imp (fun hsame => ?_) id
    have huntraced : untraced = (traced.1.map Summary.unsampled, traced.2.untraced) := hsame
    rw [huntraced]
    exact ⟨rfl, rfl, rfl⟩
  · rintro e (herror | herror)
    · exact hstores'.error_eq herror
    · exact hnothing.error_eq herror

end Bench

instance : Dut.HoldsClock Sample.TappedCounter where
  clk_setClk _ _ := rfl
  clk_setRstN _ _ := rfl
  clk_setUartRx _ _ := rfl
  clk_eval _ := rfl
  clk_driveTap _ _ := rfl
  clk_traceDump _ _ := rfl
  clk_traceClose _ := rfl

/-- A bench for a counter with a tap that wants every third of its evaluations recorded.  Its line
is that of the counter without a tap, and a client of its bridge asks for the output and for two
changes of the tap. -/
def Sample.tappedBench : Bench Sample.TappedCounter (TraceSink Empty) RemoteBitbang :=
  let client : Jtag.Client := { reads := [.byte 0x52, .byte 0x37, .byte 0x32] }
  (Bench.assemble Sample.shortRun (Sample.counterBench {}).line (.ofSink (.vcd "wave.vcd" {}))
    { counter := { dump := true, dumpEvery := 3 } }).withBridge
      ((RemoteBitbang.new 3).connect client)

/-- The same bench without a limit. -/
def Sample.endlessBench : Bench Sample.TappedCounter (TraceSink Empty) RemoteBitbang :=
  { Sample.tappedBench with limit := none }

/-- A counter that is to count for ever does not finish. -/
lemma Sample.TappedCounter.finished_eq_false
    {b c : Bench (Logged Sample.TappedCounter) (TraceSink Empty) RemoteBitbang} {pace : Pace}
    {phase : Phase} {h : History (Logged Sample.TappedCounter) (TraceSink Empty) RemoteBitbang}
    (hb : b.dut.dut.counter.finishAfter = none) (hc : Bench.Course pace b phase h c) :
    Dut.finished c.dut = false := by
  let view (w : Logged Sample.TappedCounter) : Option ℕ := w.dut.counter.finishAfter
  have hkeeps : Sink.Keeps (TraceSink Empty) view := TraceSink.keeps (fun _ _ => rfl) fun _ => rfl
  have hview : c.dut.dut.counter.finishAfter = none :=
    (hc.view_eq view (fun _ _ => rfl) (fun _ _ => rfl) (fun _ _ => rfl) (fun _ => rfl)
      fun _ _ => rfl).trans hb
  show Sample.Counter.finished c.dut.dut.counter = false
  rw [Sample.Counter.finished, hview]

/-- Two runs of the counter.  In the short one the tap is driven eight times; only the run without a
trace is evaluated, and the other one returns because it does.  The endless one returns no summary
with a trace or without, but the ticks of the trace last beyond its first toggles, and there it is
the run without a trace. -/
theorem Bench.traced_run_undisturbed_tappedCounter :
    let pace : Pace := fun _ => 0
    let short := Sample.tappedBench
    let endless := Sample.endlessBench
    (short.Stores pace
      ∧ (short.logged.run pace).1.toOption.map Summary.toggles = some 11
      ∧ ((short.logged.run pace).2.dut.calls.filter fun call => call matches .driveTap _).length = 8
      ∧ (short.untraced.logged.run pace).2.dut.calls = (short.logged.run pace).2.dut.calls)
      ∧ endless.Stores pace
      ∧ (endless.logged.run pace).1 = .error (.fault .addOverflow)
      ∧ (endless.untraced.logged.run pace).1 = .error (.fault .addOverflow)
      ∧ (endless.logged.run pace).2.dut.calls <+: (endless.untraced.logged.run pace).2.dut.calls
      ∧ ∃ h c, Course pace endless.logged .running h c ∧ h.length = 3
        ∧ Course pace endless.untraced.logged .running h.untraced c.untraced := by
  intro pace short endless
  have hunlimited : endless.recorder.WritesTo TraceSink.IsUnlimitedVcd := by
    rintro _ ⟨⟩
    exact rfl
  have hvcd : endless.recorder.WritesTo TraceSink.IsVcd := by
    rintro _ ⟨⟩
    exact trivial
  constructor
  · have hstores : short.Stores pace := stores_of_unlimited pace hunlimited
    have hsame := traced_run_undisturbed pace short hvcd hstores fun _ _ _ _ _ _ => rfl
    -- the runs are large, and beyond these two facts nothing needs to look into them
    obtain ⟨traced, htraced⟩ : ∃ t, short.logged.run pace = t := ⟨_, rfl⟩
    obtain ⟨untraced, huntraced, htoggles, hdrives⟩ : ∃ u,
        short.untraced.logged.run pace = u ∧ u.1.toOption.map Summary.toggles = some 11
          ∧ (u.2.dut.calls.filter fun call => call matches .driveTap _).length = 8 :=
      ⟨_, rfl, by decide +kernel, by decide +kernel⟩
    simp only [htraced, huntraced] at hsame ⊢
    obtain ⟨-, -, -, ⟨hcalls, -, hresult⟩ | ⟨-, -, phase, h, c, hc, hnone⟩, -⟩ := hsame
    · rw [hresult] at htoggles
      rw [hcalls] at hdrives
      refine ⟨hstores, ?_, hdrives, hcalls⟩
      rcases hreturns : traced.1 with e | summary <;> rw [hreturns] at htoggles <;> exact htoggles
    · exact absurd (hc.hasTicks_of_limit rfl (by decide)) hnone
  · have hstores : endless.Stores pace := stores_of_unlimited pace hunlimited
    obtain ⟨-, -, hstages, hruns, herrors⟩ :=
      traced_run_undisturbed pace endless hvcd hstores fun _ _ _ _ _ _ => rfl
    obtain ⟨e, htraced⟩ := run_error_of_endless pace (b := endless.logged) rfl
      (Sample.TappedCounter.finished_eq_false rfl)
    obtain ⟨e', huntraced⟩ := run_error_of_endless pace (b := endless.untraced.logged) rfl
      (Sample.TappedCounter.finished_eq_false rfl)
    cases herrors e (Or.inl htraced)
    cases herrors e' (Or.inr huntraced)
    refine ⟨hstores, htraced, huntraced, ?_, ?_⟩
    · rcases hruns with ⟨hcalls, -⟩ | ⟨-, hcalls, -⟩
      · rw [hcalls]
      · exact hcalls
    · obtain ⟨h', c', hc', hlength⟩ := started_of_disabled pace (b := endless.untraced.logged) rfl
      have hticks : endless.logged.HasTicks h' := by
        refine hasTicks_of_length ?_
        rw [hlength]
        decide
      obtain ⟨h, c, hc, rfl, rfl⟩ := (hstages .running h' c').mpr ⟨hc', hticks⟩
      exact ⟨h, c, hc, (List.length_map _).symm.trans hlength, hc'⟩

end SocBench
