import Mathlib.Tactic
import SocBench.Proofs.LoopBoundaries

/-!
# The course of a run

In each phase of a run the same happens over and over: the clock is toggled, what hangs on the
toggle is done, and then the recorder looks at the device and samples it if it wants to be sampled.
This file writes a run down as the list of its toggles.  `Bench.Course` says which benches a run
passes through, together with the toggles that led there, and `Bench.Ending` lists the ways in which
a run can end: the sample after power-on fails, a sample after a toggle fails, the toggles can no
longer be counted, the recorder cannot be closed, or all is well.  That there are no other ways is
`Bench.run_ending`.

Nothing here depends on the device.  A property of all runs needs one lemma for each of the four
constructors of `Bench.Course`, and is then read off at the five endings.
-/

namespace SocBench

/-- A toggle of the clock in a run: the phase it belongs to, the bench before it, whether the clock
rose or fell, and the bench as the recorder found it afterwards. -/
structure Toggle (σ κ β : Type) where
  phase : Phase
  before : Bench σ κ β
  edge : Edge
  found : Bench σ κ β

/-- The toggles of a run so far, in order. -/
abbrev History (σ κ β : Type) : Type :=
  List (Toggle σ κ β)

namespace History

variable {σ κ β : Type}

/-- How many toggles belong to a phase. -/
def inPhase (h : History σ κ β) (phase : Phase) : ℕ :=
  h.countP (·.phase = phase)

/-- How many rising edges the main loop has seen. -/
def edges (h : History σ κ β) : ℕ :=
  h.countP fun t => t.phase = .running ∧ t.edge = .rising

@[simp] lemma inPhase_nil (phase : Phase) : inPhase ([] : History σ κ β) phase = 0 :=
  rfl

@[simp] lemma inPhase_append (h : History σ κ β) (t : Toggle σ κ β) (phase : Phase) :
    inPhase (h ++ [t]) phase = inPhase h phase + if t.phase = phase then 1 else 0 := by
  simp [inPhase, List.countP_append, List.countP_cons]

@[simp] lemma edges_append (h : History σ κ β) (t : Toggle σ κ β) :
    edges (h ++ [t])
      = edges h + if t.phase = .running ∧ t.edge = .rising then 1 else 0 := by
  simp [edges, List.countP_append, List.countP_cons]

/-- Edges of the main loop belong to its toggles. -/
lemma edges_le (h : History σ κ β) : h.edges ≤ h.inPhase .running :=
  List.countP_mono_left fun t _ ht => by
    simp only [decide_eq_true_eq] at ht ⊢
    exact ht.1

end History

namespace Bench

variable {σ κ β : Type} [Dut σ]

/-! ## One toggle -/

/-- The bench with its device powered on. -/
def poweredOn (b : Bench σ κ β) : Bench σ κ β :=
  { b with dut := powerOn b.dut }

/-- How many toggles a phase before the main loop has. -/
def togglesFor (b : Bench σ κ β) : Phase → ℕ
  | .resetting => b.resetToggles
  | .warmingUp => b.warmupToggles
  | _ => 0

/-- Whether another toggle is due in a phase, after the toggles so far. -/
def Due (b : Bench σ κ β) (phase : Phase) (h : History σ κ β) : Prop :=
  match phase with
  | .running => Dut.finished b.dut = false ∧ limitReached b.limit h.edges = false
  | phase => h.inPhase phase < b.togglesFor phase

/-- A toggle of a phase before the main loop, up to the samples. -/
def holdToggle (phase : Phase) (b : Bench σ κ β) : Edge × Bench σ κ β :=
  (b.toggle.1, { b.toggle.2 with phase })

variable [Bridge β]

/-- A round of the main loop, up to the samples. -/
def pass (steps : ℕ) (b : Bench σ κ β) : Edge × Bench σ κ β :=
  match (b.produce steps).toggle with
  | (.rising, b) => (.rising, b.driveLine.driveTap)
  | (.falling, b) => (.falling, b.driveTap)

/-- A toggle in a phase, up to the samples. -/
def passIn (phase : Phase) (steps : ℕ) (b : Bench σ κ β) : Edge × Bench σ κ β :=
  if phase = .running then b.pass steps else b.holdToggle phase

variable [Sink κ σ]

lemma round_eq_pass (steps : ℕ) (b : Bench σ κ β) :
    b.round steps = ((b.pass steps).1, (b.pass steps).2.sample) := by
  rcases htoggle : (b.produce steps).toggle with ⟨_ | _, c⟩ <;> simp only [round, pass, htoggle]

/-- The benches that a run of `b` passes through, each with the phase it stands in and the toggles
that led to it. -/
inductive Course (pace : Pace) (b : Bench σ κ β) : Phase → History σ κ β → Bench σ κ β → Prop where
  | powered {c : Bench σ κ β} (hsample : b.poweredOn.sampleStart = .done c) :
      Course pace b .resetting [] { c with dut := Dut.setRstN false c.dut, phase := .resetting }
  | released {h : History σ κ β} {c : Bench σ κ β} (hc : Course pace b .resetting h c)
      (hall : h.inPhase .resetting = c.resetToggles) :
      Course pace b .warmingUp h { c with dut := Dut.eval (Dut.setRstN true c.dut) }
  | started {h : History σ κ β} {c : Bench σ κ β} (hc : Course pace b .warmingUp h c)
      (hall : h.inPhase .warmingUp = c.warmupToggles) :
      Course pace b .running h { c with dut := Dut.setUartRx true c.dut, phase := .running }
  | toggled {phase : Phase} {h : History σ κ β} {c c' found : Bench σ κ β} {edge : Edge}
      (hc : Course pace b phase h c) (hdue : c.Due phase h)
      (hpass : c.passIn phase (pace (h.inPhase .running)) = (edge, found))
      (hsample : found.sample = .done c') :
      Course pace b phase (h ++ [⟨phase, c, edge, found⟩]) c'

/-- The sample after a toggle failed, and left this bench. -/
def Cut (pace : Pace) (b : Bench σ κ β) (e : BenchError) (last : Bench σ κ β) : Prop :=
  ∃ phase h c edge found, Course pace b phase h c ∧ c.Due phase h
    ∧ c.passIn phase (pace (h.inPhase .running)) = (edge, found) ∧ found.sample = .failed e last

/-- How a run of `b` can end. -/
inductive Ending (pace : Pace) (b : Bench σ κ β) :
    Except BenchError Summary → Bench σ κ β → Prop where
  | unpowered {e : BenchError} {last : Bench σ κ β}
      (hsample : b.poweredOn.sampleStart = .failed e last) : Ending pace b (.error e) last
  | cut {e : BenchError} {last : Bench σ κ β} (hcut : Cut pace b e last) :
      Ending pace b (.error e) last
  | overflowed {h : History σ κ β} {last : Bench σ κ β} (hc : Course pace b .running h last) :
      Ending pace b (.error (.fault .addOverflow)) last
  | unclosed {h : History σ κ β} {c last : Bench σ κ β} {e : BenchError}
      (hc : Course pace b .running h c) (hover : ¬ c.Due .running h)
      (hclose : ({ c with phase := .finished } : Bench σ κ β).closeRecorder = .failed e last) :
      Ending pace b (.error e) last
  | completed {h : History σ κ β} {c last : Bench σ κ β} (hc : Course pace b .running h c)
      (hover : ¬ c.Due .running h)
      (hclose : ({ c with phase := .finished } : Bench σ κ β).closeRecorder = .done last) :
      Ending pace b (.ok (last.summary (Dut.finished c.dut))) last

variable {pace : Pace} {b c : Bench σ κ β} {h : History σ κ β} {phase : Phase}

/-! ## The launch -/

/-- A bench with what the reset sequence works on. -/
def withHeld (b : Bench σ κ β) (x : Clock × σ × Recorder κ × Phase) : Bench σ κ β :=
  { b with clock := x.1, dut := x.2.1, recorder := x.2.2.1, phase := x.2.2.2 }

/-- Holds the bench in a phase for some toggles. -/
def heldIn (phase : Phase) (n : ℕ) (b : Bench σ κ β) : Attempt (Bench σ κ β) :=
  (b.clock.hold watchReset phase n (b.dut, b.recorder, b.phase)).map b.withHeld

omit [Bridge β] in
lemma resetAndWarmUp_eq (b : Bench σ κ β) :
    b.resetAndWarmUp
      = (({ b with dut := Dut.setRstN false b.dut } : Bench σ κ β).heldIn .resetting
          b.resetToggles).andThen fun c =>
        ({ c with dut := Dut.eval (Dut.setRstN true c.dut) } : Bench σ κ β).heldIn .warmingUp
          c.warmupToggles := by
  simp only [resetAndWarmUp, Clock.resetSequence, heldIn]
  generalize b.clock.hold watchReset .resetting b.resetToggles
    (Dut.setRstN false b.dut, b.recorder, b.phase) = held
  rcases held with ⟨_ | _, x⟩ <;> rfl

omit [Bridge β] in
lemma heldIn_succ (phase : Phase) (n : ℕ) (b : Bench σ κ β) :
    b.heldIn phase (n + 1) = (b.holdToggle phase).2.sample.andThen (heldIn phase n) := by
  obtain ⟨edge, clock, dut, hstep⟩ : ∃ edge clock dut, b.clock.step b.dut = (edge, clock, dut) :=
    ⟨_, _, _, rfl⟩
  simp only [heldIn, Clock.hold, hstep, watchReset, holdToggle, toggle, sample, Attempt.map]
  generalize Recorder.sampleTwice (b.recorder, dut) = sampled
  rcases sampled with ⟨_ | _, x⟩ <;> rfl

/-- Holding a phase for some toggles is a course, and if it stops early then at a sample. -/
lemma Course.hold (hphase : phase ≠ .running) (n : ℕ) (hc : Course pace b phase h c)
    (hn : h.inPhase phase + n = c.togglesFor phase) :
    (∃ h' c', c.heldIn phase n = .done c' ∧ Course pace b phase h' c'
        ∧ h'.inPhase phase = c'.togglesFor phase) ∨
      ∃ e last, c.heldIn phase n = .failed e last ∧ Cut pace b e last := by
  induction n generalizing h c with
  | zero => exact Or.inl ⟨h, c, rfl, hc, by simpa using hn⟩
  | succ n ih =>
    have hdue : c.Due phase h := by
      cases phase with
      | running => exact absurd rfl hphase
      | _ =>
        show h.inPhase _ < c.togglesFor _
        omega
    have hpass : c.passIn phase (pace (h.inPhase .running)) = c.holdToggle phase := by
      rw [passIn, if_neg hphase]
    rw [heldIn_succ]
    rcases (c.holdToggle phase).2.sample.eq_done_or_failed with hsample | ⟨e, hsample⟩
    · have hkept : (c.holdToggle phase).2.sample.2.togglesFor phase = c.togglesFor phase := rfl
      rw [hsample, Attempt.done_andThen]
      refine ih (hc.toggled hdue hpass hsample) ?_
      rw [hkept, ← hn, History.inPhase_append, if_pos rfl]
      omega
    · rw [hsample, Attempt.failed_andThen]
      exact Or.inr ⟨e, _, rfl, phase, h, c, _, _, hc, hdue, hpass, hsample⟩

/-- Before the main loop none of the toggles belongs to it. -/
lemma Course.inPhase_running (hc : Course pace b phase h c) (hphase : phase ≠ .running) :
    h.inPhase .running = 0 := by
  induction hc with
  | powered => rfl
  | released _ _ ih => exact ih (by simp)
  | started _ _ _ => exact absurd rfl hphase
  | toggled _ _ _ _ ih => simp [ih hphase, hphase]

/-- In reset none of the toggles belongs to the warm-up. -/
lemma Course.inPhase_warmingUp (hc : Course pace b .resetting h c) :
    h.inPhase .warmingUp = 0 := by
  generalize hphase : Phase.resetting = phase at hc
  induction hc with
  | powered => rfl
  | released => cases hphase
  | started => cases hphase
  | toggled _ _ _ _ ih =>
    subst hphase
    simp [ih rfl]

omit [Bridge β] in
lemma launch_eq (b : Bench σ κ β) :
    b.launch = (b.poweredOn.sampleStart.andThen fun c =>
      resetAndWarmUp { c with phase := .resetting }).andThen fun c =>
        .done { c with dut := Dut.setUartRx true c.dut, phase := .running } :=
  rfl

/-- A launch takes the bench to the main loop, or a sample fails on the way. -/
lemma launch_course (pace : Pace) (b : Bench σ κ β) :
    (∃ h c, b.launch = .done c ∧ Course pace b .running h c ∧ h.inPhase .running = 0) ∨
      ∃ e last, b.launch = .failed e last
        ∧ (b.poweredOn.sampleStart = .failed e last ∨ Cut pace b e last) := by
  have hlaunch := b.launch_eq
  rcases b.poweredOn.sampleStart.eq_done_or_failed with hstart | ⟨e, hstart⟩
  · have hc : Course pace b .resetting [] _ := .powered hstart
    rw [hstart, Attempt.done_andThen, resetAndWarmUp_eq] at hlaunch
    generalize b.poweredOn.sampleStart.2 = on at hc hlaunch
    rcases hc.hold (by simp) on.resetToggles (by simp [togglesFor]) with
      ⟨h₁, c₁, hreset, hc₁, hall₁⟩ | ⟨e, last, hreset, hcut⟩
    · have hwarm := hc₁.released hall₁
      rw [hreset, Attempt.done_andThen] at hlaunch
      rcases hwarm.hold (by simp) c₁.warmupToggles (by
          rw [hc₁.inPhase_warmingUp]
          exact Nat.zero_add _) with ⟨h₂, c₂, hheld, hc₂, hall₂⟩ | ⟨e, last, hheld, hcut⟩
      · rw [hheld, Attempt.done_andThen] at hlaunch
        exact Or.inl ⟨h₂, _, hlaunch, hc₂.started hall₂, hc₂.inPhase_running (by simp)⟩
      · rw [hheld, Attempt.failed_andThen] at hlaunch
        exact Or.inr ⟨e, last, hlaunch, Or.inr hcut⟩
    · rw [hreset, Attempt.failed_andThen, Attempt.failed_andThen] at hlaunch
      exact Or.inr ⟨e, last, hlaunch, Or.inr hcut⟩
  · rw [hstart] at hlaunch
    exact Or.inr ⟨e, _, hlaunch, Or.inl hstart⟩

/-! ## The main loop and the whole run -/

lemma mainLoop_of_not_due {budget rounds : ℕ} (hover : ¬ c.Due .running h) :
    c.mainLoop pace budget rounds h.edges = (.ok (Dut.finished c.dut), c) := by
  have hstop : Dut.finished c.dut = true ∨ limitReached c.limit h.edges = true := by
    simpa [Due, or_iff_not_imp_left] using hover
  obtain ⟨finished, hloop, rfl, -⟩ :
      ∃ finished, c.mainLoop pace budget rounds h.edges = (.ok finished, c) ∧ _ ∧ _ :=
    mainLoop_of_stop hstop
  exact hloop

lemma mainLoop_of_failed {budget rounds : ℕ} (hdue : c.Due .running h) {edge : Edge}
    {e : BenchError} {last : Bench σ κ β}
    (hround : c.round (pace rounds) = (edge, .failed e last)) :
    c.mainLoop pace (budget + 1) rounds h.edges = (.error e, last) := by
  rw [mainLoop.eq_def, hdue.1, if_neg Bool.false_ne_true, hdue.2, if_neg Bool.false_ne_true]
  simp only [hround, Attempt.failed]

/-- A main loop goes on with the course, and ends where no toggle is due, where a sample fails, or
where the toggles can no longer be counted. -/
lemma Course.mainLoop (hc : Course pace b .running h c) (budget : ℕ) :
    (∃ h' last, Course pace b .running h' last ∧ ¬ last.Due .running h'
        ∧ c.mainLoop pace budget (h.inPhase .running) h.edges
            = (.ok (Dut.finished last.dut), last)) ∨
      (∃ h' last, Course pace b .running h' last
        ∧ c.mainLoop pace budget (h.inPhase .running) h.edges
            = (.error (.fault .addOverflow), last)) ∨
      ∃ e last, Cut pace b e last
        ∧ c.mainLoop pace budget (h.inPhase .running) h.edges = (.error e, last) := by
  induction budget generalizing h c with
  | zero =>
    by_cases hdue : c.Due .running h
    · exact Or.inr (Or.inl ⟨h, c, hc, mainLoop_zero hdue.1 hdue.2⟩)
    · exact Or.inl ⟨h, c, hc, hdue, mainLoop_of_not_due hdue⟩
  | succ budget ih =>
    by_cases hdue : c.Due .running h
    · obtain ⟨edge, found, hpass⟩ :
          ∃ edge found, c.pass (pace (h.inPhase .running)) = (edge, found) := ⟨_, _, rfl⟩
      have hround := round_eq_pass (pace (h.inPhase .running)) c
      rw [hpass] at hround
      rcases found.sample.eq_done_or_failed with hsample | ⟨e, hsample⟩
      · rw [hsample] at hround
        have hnext := ih (hc.toggled hdue hpass hsample)
        rw [History.edges_append, History.inPhase_append] at hnext
        simp only [true_and, if_true] at hnext
        have hedges : (if edge = .rising then h.edges + 1 else h.edges)
            = h.edges + if edge = .rising then 1 else 0 := by
          split <;> rfl
        rw [mainLoop_succ hdue.1 hdue.2 hround, hedges]
        exact hnext
      · rw [hsample] at hround
        exact Or.inr (Or.inr ⟨e, _, ⟨.running, h, c, edge, found, hc, hdue, hpass, hsample⟩,
          mainLoop_of_failed hdue hround⟩)
    · exact Or.inl ⟨h, c, hc, hdue, mainLoop_of_not_due hdue⟩

/-- **Every run ends in one of the five ways.** -/
lemma run_ending (pace : Pace) (b : Bench σ κ β) :
    Ending pace b (b.run pace).1 (b.run pace).2 := by
  rw [run_eq]
  rcases launch_course pace b with ⟨h, c, hlaunch, hc, hnone⟩ | ⟨e, last, hlaunch, hearly⟩
  · rw [hlaunch]
    have hedges : h.edges = 0 := Nat.eq_zero_of_le_zero (hnone ▸ h.edges_le)
    have hloop := hc.mainLoop c.togglesLeft
    rw [hnone, hedges] at hloop
    rcases hloop with
      ⟨h', last, hlast, hover, hloop⟩ | ⟨h', last, hlast, hloop⟩ | ⟨e, last, hcut, hloop⟩
    · simp only [Attempt.done, hloop]
      rcases ({ last with phase := .finished } : Bench σ κ β).closeRecorder.eq_done_or_failed with
        hclose | ⟨e, hclose⟩
      · rw [hclose]
        exact .completed hlast hover hclose
      · rw [hclose]
        exact .unclosed hlast hover hclose
    · simp only [Attempt.done, hloop]
      exact .overflowed hlast
    · simp only [Attempt.done, hloop]
      exact .cut hcut
  · rw [hlaunch]
    rcases hearly with hstart | hcut
    · exact .unpowered hstart
    · exact .cut hcut

end Bench

end SocBench
