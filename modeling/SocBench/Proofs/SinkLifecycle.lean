import SocBench.Proofs.Observation
import SocBench.Proofs.RunAccounts

/-!
# The life of a sink

A sink is given to a bench in a recorder.  It is then given samples, any of which it may refuse, and
it has to be closed once, whatever happens.  It may be replaced before the run, it may be closed at
the end of the run, and a run that fails leaves the closing to the moment when the bench is given
up.

The calls of a watched bench are followed through all of this.  As long as no sample was refused
they are `Clean`, and each step adds to them what it should (`Underway`).  A refused sample is the
last call of its run (`Broken`).  What a whole life comes to is `Bench.sink_lifecycle`.
-/

namespace SocBench

/-! ## Reading the calls -/

/-- A call to one sink: it is given the sample of a tick, or it is closed. -/
inductive SinkCall where
  | dump (tick : ℕ)
  | close
  deriving DecidableEq

namespace BenchCall

/-- The call to the sink with a label, if it is one. -/
def to? (label : ℕ) : BenchCall → Option SinkCall
  | .eval _ => none
  | .dump l tick _ => if l = label then some (.dump tick.value.toNat) else none
  | .close l => if l = label then some .close else none

/-- Whether the device is evaluated. -/
def isEval : BenchCall → Bool
  | .eval _ => true
  | _ => false

/-- Whether a sink is closed. -/
def isClose : BenchCall → Bool
  | .close _ => true
  | _ => false

end BenchCall

/-- The calls to the sink with a label, in order. -/
def callsTo (label : ℕ) (events : List BenchCall) : List SinkCall :=
  events.filterMap (BenchCall.to? label)

/-- How often the device was evaluated. -/
def evalsIn (events : List BenchCall) : ℕ :=
  events.countP BenchCall.isEval

section Reading

variable (label : ℕ) (events : List BenchCall)

@[simp] lemma callsTo_eval (pins : Pins) :
    callsTo label (events ++ [.eval pins]) = callsTo label events := by
  simp [callsTo, BenchCall.to?]

@[simp] lemma callsTo_dump (l : ℕ) (tick : Tick) (outcome : Except BenchError Unit) :
    callsTo label (events ++ [.dump l tick outcome])
      = callsTo label events ++ if l = label then [.dump tick.value.toNat] else [] := by
  by_cases hl : l = label <;> simp [callsTo, BenchCall.to?, hl]

@[simp] lemma callsTo_close (l : ℕ) :
    callsTo label (events ++ [.close l])
      = callsTo label events ++ if l = label then [.close] else [] := by
  by_cases hl : l = label <;> simp [callsTo, BenchCall.to?, hl]

end Reading

/-! ## Calls while nothing has gone wrong -/

/-- What a run finds: the label of the current sink, whether there is a sink at all, and the calls
that the sinks before it have seen. -/
structure Attached where
  label : ℕ
  present : Bool
  others : ℕ → List SinkCall

/-- The device was evaluated so many times, the current sink was given so many samples, and it has
refused none of them. -/
structure Clean (a : Attached) (evals n : ℕ) (events : List BenchCall) : Prop where
  calls_eq : callsTo a.label events = (List.range n).map .dump
  others_eq : ∀ l ≠ a.label, callsTo l events = a.others l
  evals_eq : evalsIn events = evals
  accepted : ∀ l tick e, BenchCall.dump l tick (.error e) ∉ events

namespace Clean

variable {a : Attached} {evals n : ℕ} {events : List BenchCall}

lemma eval (h : Clean a evals n events) (pins : Pins) :
    Clean a (evals + 1) n (events ++ [.eval pins]) := by
  refine ⟨by simpa using h.calls_eq, fun l hl => by simpa using h.others_eq l hl, ?_, ?_⟩
  · rw [evalsIn, List.countP_append]
    exact congrArg (· + 1) h.evals_eq
  · simpa using h.accepted

lemma dump (h : Clean a evals n events) {tick : Tick} (htick : tick.value.toNat = n) :
    Clean a evals (n + 1) (events ++ [.dump a.label tick (.ok ())]) := by
  refine ⟨?_, fun l hl => ?_, ?_, ?_⟩
  · rw [callsTo_dump, if_pos rfl, h.calls_eq, htick, List.range_succ, List.map_append]
    rfl
  · rw [callsTo_dump, if_neg hl.symm, h.others_eq l hl, List.append_nil]
  · rw [evalsIn, List.countP_append]
    exact h.evals_eq
  · simpa using h.accepted

/-- A call after which there are only closings is the only refused sample. -/
lemma eq_of_refused (h : Clean a evals n events) {call refused : BenchCall}
    {closing pre post : List BenchCall} (hclosing : ∀ c ∈ closing, c.isClose = true)
    (hrefused : ∃ l tick e, refused = .dump l tick (.error e))
    (heq : events ++ call :: closing = pre ++ refused :: post) :
    pre = events ∧ refused = call ∧ post = closing := by
  obtain ⟨l, tick, e, rfl⟩ := hrefused
  rcases List.append_eq_append_iff.mp heq with ⟨more, rfl, hmore⟩ | ⟨more, rfl, hmore⟩
  · cases more with
    | nil => simpa using hmore.symm
    | cons c more =>
      have hmem : BenchCall.dump l tick (.error e) ∈ closing := by
        simp [(List.cons.inj hmore).2]
      exact absurd (hclosing _ hmem) (by simp [BenchCall.isClose])
  · cases more with
    | nil => simpa using hmore
    | cons c more =>
      have hmem : BenchCall.dump l tick (.error e) ∈ pre ++ c :: more := by
        simp [(List.cons.inj hmore).1]
      exact absurd hmem (h.accepted l tick e)

end Clean

/-! ## What a recorder does -/

/-- The recorder of the current sink, while the sink is not closed. -/
structure Recorder.Serves {κ : Type} (a : Attached) (r : Recorder (Labelled κ)) : Prop where
  enabled_eq : r.isEnabled = a.present
  label_eq : ∀ k, r.slot = .active k → k.label = a.label

/-- A recorder and a device in the middle of a run. -/
structure Underway {σ κ : Type} (a : Attached) (evals n : ℕ)
    (x : Recorder (Labelled κ) × Watched σ) : Prop where
  serves : x.1.Serves a
  tick_eq : x.1.tick.value.toNat = n
  clean : Clean a evals n x.2.events

/-- A recorder and a device after the sink has refused a sample. -/
structure Broken {σ κ : Type} (a : Attached) (evals : ℕ) (e : BenchError)
    (x : Recorder (Labelled κ) × Watched σ) : Prop where
  serves : x.1.Serves a
  refused : ∃ n tick events, tick.value.toNat = n ∧ Clean a evals n events
    ∧ x.2.events = events ++ [.dump a.label tick (.error e)]

/-- What sampling leaves behind.  It can also fail because there is no tick left, and then the sink
does not notice. -/
def Sampled {σ κ : Type} (a : Attached) (evals : ℕ) :
    Attempt (Recorder (Labelled κ) × Watched σ) → Prop
  | (.ok _, x) => ∃ n, Underway a evals n x
  | (.error e, x) => (∃ n, Underway a evals n x) ∨ Broken a evals e x

namespace Underway

variable {σ κ : Type} [Sink κ σ] {a : Attached} {evals n : ℕ}
  {x : Recorder (Labelled κ) × Watched σ}

lemma writeOne (h : Underway a evals n x) : Sampled a evals (Recorder.writeOne x) := by
  obtain ⟨⟨slot, tick, samples⟩, w⟩ := x
  cases slot with
  | active k =>
    have hlabel : k.label = a.label := h.serves.label_eq k rfl
    have hpresent : true = a.present := h.serves.enabled_eq
    rcases Recorder.writeOne_cases k tick samples w with
      hcase | ⟨next, hnext, ⟨k', w', hdump, hcase⟩ | ⟨e, k', w', hdump, hcase⟩⟩
    · rw [hcase]
      exact Or.inl ⟨n, h⟩
    · rw [hcase]
      rcases hinner : Sink.dump k.sink tick w.dut with ⟨outcome, sink, s⟩
      simp only [Sink.dump, hinner, Attempt.done, Prod.mk.injEq] at hdump
      obtain ⟨rfl, rfl, rfl⟩ := hdump
      refine ⟨n + 1, ⟨hpresent, ?_⟩, hnext.trans (congrArg (· + 1) h.tick_eq), ?_⟩
      · rintro k' ⟨⟩
        exact hlabel
      · rw [hlabel]
        exact h.clean.dump h.tick_eq
    · rw [hcase]
      rcases hinner : Sink.dump k.sink tick w.dut with ⟨outcome, sink, s⟩
      simp only [Sink.dump, hinner, Attempt.failed, Prod.mk.injEq] at hdump
      obtain ⟨rfl, rfl, rfl⟩ := hdump
      refine Or.inr ⟨⟨hpresent, ?_⟩, n, tick, w.events, h.tick_eq, h.clean, ?_⟩
      · rintro k' ⟨⟩
        exact hlabel
      · rw [hlabel]
  | _ => exact ⟨n, h⟩

variable [Dut σ]

lemma sampleOnce (h : Underway a evals n x) : Sampled a evals (Recorder.sampleOnce x) := by
  rw [Recorder.sampleOnce]
  split
  · exact h.writeOne
  · exact ⟨n, h⟩

lemma sampleTwice (h : Underway a evals n x) : Sampled a evals (Recorder.sampleTwice x) := by
  rw [Recorder.sampleTwice]
  split
  · have hfirst := h.writeOne
    rcases (Recorder.writeOne x).eq_done_or_failed with hdone | ⟨e, hfailed⟩
    · rw [hdone] at hfirst ⊢
      obtain ⟨m, hm⟩ := hfirst
      exact hm.writeOne
    · rw [hfailed] at hfirst ⊢
      exact hfirst
  · exact ⟨n, h⟩

end Underway

/-! ## Closing -/

/-- The calls that close the current sink. -/
def Attached.closing (a : Attached) : List BenchCall :=
  if a.present then [.close a.label] else []

lemma Attached.isClose_of_mem_closing {a : Attached} {c : BenchCall} (hc : c ∈ a.closing) :
    c.isClose = true := by
  rw [closing] at hc
  split at hc
  · rw [List.mem_singleton.mp hc]
    rfl
  · cases hc

lemma callsTo_closing (a : Attached) (l : ℕ) (events : List BenchCall) :
    callsTo l (events ++ a.closing)
      = callsTo l events ++ if a.label = l ∧ a.present = true then [.close] else [] := by
  rw [Attached.closing]
  cases a.present <;> simp

/-- The calls to the sinks, up to the closing of the current one. -/
lemma Clean.callsTo_closed {a : Attached} {evals n : ℕ} {events refusal : List BenchCall}
    (h : Clean a evals n events)
    (hrefusal : refusal = [] ∨ ∃ tick e, tick.value.toNat = n
      ∧ refusal = [.dump a.label tick (.error e)]) :
    (∀ l ≠ a.label, callsTo l (events ++ refusal ++ a.closing) = a.others l)
      ∧ (a.present = true → ∃ m, callsTo a.label (events ++ refusal ++ a.closing)
          = (List.range m).map .dump ++ [.close]) := by
  have hothers : ∀ l ≠ a.label, callsTo l (events ++ refusal) = a.others l := by
    intro l hl
    rcases hrefusal with rfl | ⟨tick, e, -, rfl⟩
    · rw [List.append_nil, h.others_eq l hl]
    · rw [callsTo_dump, if_neg hl.symm, List.append_nil, h.others_eq l hl]
  have hcalls : ∃ m, callsTo a.label (events ++ refusal) = (List.range m).map .dump := by
    rcases hrefusal with rfl | ⟨tick, e, htick, rfl⟩
    · exact ⟨n, by rw [List.append_nil, h.calls_eq]⟩
    · refine ⟨n + 1, ?_⟩
      rw [callsTo_dump, if_pos rfl, h.calls_eq, htick, List.range_succ, List.map_append]
      rfl
  constructor
  · intro l hl
    rw [callsTo_closing, hothers l hl, if_neg (fun hboth => hl hboth.1.symm), List.append_nil]
  · intro hpresent
    obtain ⟨m, hm⟩ := hcalls
    exact ⟨m, by rw [callsTo_closing, hm, if_pos ⟨rfl, hpresent⟩]⟩

namespace Recorder

variable {σ κ : Type} [Sink κ σ]

lemma close_of_disabled {κ : Type} [Sink κ σ] {x : Recorder κ × σ} (h : x.1.isEnabled = false) :
    close x = .done x := by
  obtain ⟨⟨slot, tick, samples⟩, s⟩ := x
  cases slot with
  | active => cases h
  | _ => rfl

/-- After its recorder was closed a sink gets no more calls. -/
lemma Serves.close {a : Attached} {x : Recorder (Labelled κ) × Watched σ} (h : x.1.Serves a) :
    (Recorder.close x).2.2.events = x.2.events ++ a.closing
      ∧ (Recorder.close x).2.1.isEnabled = false := by
  obtain ⟨⟨slot, tick, samples⟩, w⟩ := x
  have henabled := h.enabled_eq
  cases slot with
  | active k =>
    have hpresent : a.present = true := henabled.symm
    rw [Attached.closing, if_pos hpresent, ← h.label_eq k rfl]
    exact ⟨rfl, rfl⟩
  | _ =>
    have hnone : a.present = false := henabled.symm
    rw [Attached.closing, hnone, if_neg Bool.false_ne_true, List.append_nil]
    exact ⟨rfl, rfl⟩

end Recorder

namespace Bench

variable {σ κ β : Type}

/-! ## Attaching -/

/-- A bench that has gone through some recorders and has another one now.  The sinks it had before
are closed, and that is all that has happened. -/
structure Attaching (past : List (Recorder κ)) (r : Recorder κ)
    (b : Bench (Watched σ) (Labelled κ) β) : Prop where
  recorder_eq : b.recorder = r.map (Labelled.mk past.length)
  calls_eq : ∀ l, callsTo l b.dut.events
    = if past[l]?.any Recorder.isEnabled then [.close] else []
  closings : ∀ c ∈ b.dut.events, c.isClose = true

lemma attaching_watch (b : Bench σ κ β) : Attaching [] b.recorder b.watch :=
  ⟨rfl, fun _ => rfl, by simp [watch]⟩

/-- What a run finds after the recorders. -/
def lastAttached (past : List (Recorder κ)) (r : Recorder κ) : Attached where
  label := past.length
  present := r.isEnabled
  others l := if past[l]?.any Recorder.isEnabled then [.close] else []

namespace Attaching

variable {past : List (Recorder κ)} {r r' : Recorder κ} {b b' : Bench (Watched σ) (Labelled κ) β}

lemma serves (h : Attaching past r b) : b.recorder.Serves (lastAttached past r) := by
  obtain ⟨slot, tick, samples⟩ := r
  rw [h.recorder_eq]
  cases slot with
  | active sink =>
    refine ⟨rfl, ?_⟩
    rintro k ⟨⟩
    rfl
  | _ => exact ⟨rfl, nofun⟩

lemma underway (h : Attaching past r b) (hnew : r.IsNew) :
    Underway (lastAttached past r) 0 0 (b.recorder, b.dut) := by
  refine ⟨h.serves, ?_, ?_, fun l _ => h.calls_eq l, ?_, ?_⟩
  · rw [h.recorder_eq]
    exact hnew.counts.tick_eq
  · exact (h.calls_eq past.length).trans (by simp)
  · refine List.countP_eq_zero.mpr fun c hc heval => ?_
    have hclose := h.closings c hc
    cases c <;> simp [BenchCall.isEval, BenchCall.isClose] at heval hclose
  · intro l tick e hmem
    exact absurd (h.closings _ hmem) (by simp [BenchCall.isClose])

variable [Sink κ σ]

lemma withRecorder (h : Attaching past r b)
    (hreplaced : b.withRecorder (r'.map (Labelled.mk (past.length + 1))) = .done b') :
    Attaching (past ++ [r]) r' b' := by
  obtain ⟨c, hclose, hdone⟩ := Attempt.andThen_eq_done.mp hreplaced
  obtain ⟨⟨old, w⟩, hclosed, rfl⟩ := Attempt.map_eq_done.mp hclose
  cases hdone
  have hevents : w.events = b.dut.events ++ (lastAttached past r).closing := by
    rw [← (show (b.recorder, b.dut).1.Serves _ from h.serves).close.1, hclosed]
    rfl
  refine ⟨by simp, fun l => ?_, fun c hc => ?_⟩
  · show callsTo l w.events = _
    rw [hevents, callsTo_closing, h.calls_eq]
    rcases Nat.lt_trichotomy l past.length with hl | rfl | hl
    · simp [lastAttached, List.getElem?_append_left hl, hl.ne']
    · simp [lastAttached]
    · have hnone : past[l]? = none := List.getElem?_eq_none hl.le
      have hnone' : (past ++ [r])[l]? = none := List.getElem?_eq_none (by simpa using hl)
      simp [lastAttached, hnone, hnone', hl.ne]
  · have hmem : c ∈ b.dut.events ++ (lastAttached past r).closing := hevents ▸ hc
    rcases List.mem_append.mp hmem with hmem | hmem
    · exact h.closings c hmem
    · exact Attached.isClose_of_mem_closing hmem

lemma withRecorders {rest : List (Recorder κ)} (h : Attaching past r b)
    (hattached : b.withRecorders (Recorder.labelFrom (past.length + 1) rest) = .done b') :
    ∃ past' r', past ++ r :: rest = past' ++ [r'] ∧ Attaching past' r' b' := by
  induction rest generalizing past r b with
  | nil =>
    cases hattached
    exact ⟨past, r, rfl, h⟩
  | cons next rest ih =>
    obtain ⟨c, hreplaced, hrest⟩ := Attempt.andThen_eq_done.mp hattached
    have hnext := h.withRecorder hreplaced
    obtain ⟨past', r', hall, hlast⟩ := ih hnext (by rwa [List.length_append])
    exact ⟨past', r', by rw [← hall, List.append_assoc]; rfl, hlast⟩

end Attaching

/-! ## The run -/

/-- The phase in which a run with so many toggles in reset and in the warm-up is after some
evaluations of its device. -/
def phaseAfter (resets warmups evals : ℕ) : Phase :=
  if evals ≤ resets + 1 then .resetting
  else if evals ≤ resets + warmups + 2 then .warmingUp
  else .running

/-- How often the device was evaluated up to the first toggle of a phase. -/
def evalsBefore : Phase → ℕ
  | .resetting => 1
  | _ => 2

variable [Dut σ] [Sink κ σ] [Bridge β] {pace : Pace} {b c found : Bench (Watched σ) (Labelled κ) β}
  {phase : Phase} {edge : Edge} {h : History (Watched σ) (Labelled κ) β} {a : Attached}
  {evals n : ℕ}

omit [Sink κ σ] [Bridge β] in
lemma Passed.underway {steps : ℕ} (hpassed : Passed phase steps c edge found)
    (hc : Underway a evals n (c.recorder, c.dut)) :
    Underway a (evals + 1) n (found.recorder, found.dut) := by
  refine ⟨?_, ?_, ?_⟩
  · exact hpassed.recorder_eq ▸ hc.serves
  · exact hpassed.recorder_eq ▸ hc.tick_eq
  · rw [hpassed.events_eq]
    exact hc.clean.eval _

omit [Bridge β] in
lemma sampled_sample (hc : Underway a evals n (c.recorder, c.dut))
    {x : Attempt (Bench (Watched σ) (Labelled κ) β)} (hsample : c.sample = x) :
    Sampled a evals (x.1, x.2.recorder, x.2.dut) := by
  rw [← hsample]
  exact hc.sampleTwice

omit [Bridge β] in
lemma sampled_start (hb : Underway a 0 n (b.recorder, b.dut))
    {x : Attempt (Bench (Watched σ) (Labelled κ) β)} (hsample : b.poweredOn.sampleStart = x) :
    Sampled a 1 (x.1, x.2.recorder, x.2.dut) := by
  have hon : Underway a 1 n (b.recorder, b.poweredOn.dut) :=
    ⟨hb.serves, hb.tick_eq, hb.clean.eval _⟩
  rw [← hsample]
  exact hon.sampleOnce

/-- As long as a run goes on, no sample was refused. -/
lemma Course.underway (hb : Underway a 0 n (b.recorder, b.dut)) (hc : Course pace b phase h c) :
    ∃ n, Underway a (h.length + evalsBefore phase) n (c.recorder, c.dut) := by
  induction hc with
  | powered hsample =>
    obtain ⟨m, hm⟩ := sampled_start hb hsample
    exact ⟨m, hm.serves, hm.tick_eq, hm.clean⟩
  | released _ _ ih =>
    obtain ⟨m, hm⟩ := ih
    exact ⟨m, hm.serves, hm.tick_eq, hm.clean.eval _⟩
  | started _ _ ih =>
    obtain ⟨m, hm⟩ := ih
    exact ⟨m, hm.serves, hm.tick_eq, hm.clean⟩
  | toggled _ _ hpass hsample ih =>
    obtain ⟨m, hm⟩ := ih
    rw [List.length_append, List.length_singleton, Nat.add_right_comm]
    exact sampled_sample ((passed_passIn hpass).underway hm) hsample

/-- The evaluations tell the phase of a toggle. -/
lemma Course.phaseAfter_eq (hc : Course pace b phase h c) (hdue : c.Due phase h) :
    phaseAfter b.resetToggles b.warmupToggles (h.length + evalsBefore phase + 1) = phase := by
  obtain ⟨hresets, hwarmups, -, -⟩ := hc.settings_eq
  have hlength := hc.length_eq
  cases phase with
  | resetting =>
    have hless : h.inPhase .resetting < c.resetToggles := hdue
    rw [phaseAfter, if_pos]
    simp only [togglesBefore, evalsBefore] at hlength ⊢
    omega
  | warmingUp =>
    have hless : h.inPhase .warmingUp < c.warmupToggles := hdue
    simp only [togglesBefore] at hlength
    rw [phaseAfter, if_neg, if_pos] <;> simp only [evalsBefore] <;> omega
  | running =>
    simp only [togglesBefore] at hlength
    rw [phaseAfter, if_neg, if_neg] <;> simp only [evalsBefore] <;> omega
  | finished => exact absurd rfl hc.phase_ne_finished

/-- How a run leaves the current sink: it may still be open, it may have refused a sample, or it is
closed. -/
inductive Leaves (a : Attached) (b : Bench (Watched σ) (Labelled κ) β) :
    Except BenchError Summary → Bench (Watched σ) (Labelled κ) β → Prop where
  | opened {e : BenchError} {last : Bench (Watched σ) (Labelled κ) β} {evals n : ℕ}
      (h : Underway a evals n (last.recorder, last.dut)) : Leaves a b (.error e) last
  | refused {e : BenchError} {last : Bench (Watched σ) (Labelled κ) β} {evals : ℕ}
      (h : Broken a evals e (last.recorder, last.dut))
      (hphase : last.phase = phaseAfter b.resetToggles b.warmupToggles evals) :
      Leaves a b (.error e) last
  | closed {result : Except BenchError Summary} {last : Bench (Watched σ) (Labelled κ) β}
      {evals n : ℕ} {events : List BenchCall} (h : Clean a evals n events)
      (hevents : last.dut.events = events ++ a.closing)
      (hdisabled : last.recorder.isEnabled = false) : Leaves a b result last

omit [Dut σ] [Sink κ σ] [Bridge β] in
lemma leaves_of_sampled {e : BenchError} {last : Bench (Watched σ) (Labelled κ) β}
    (h : Sampled a evals (.error e, last.recorder, last.dut))
    (hphase : last.phase = phaseAfter b.resetToggles b.warmupToggles evals) :
    Leaves a b (.error e) last := by
  rcases h with ⟨n, h⟩ | h
  · exact .opened h
  · exact .refused h hphase

omit [Dut σ] [Bridge β] in
lemma leaves_of_closed {result : Except BenchError Summary}
    {x : Attempt (Bench (Watched σ) (Labelled κ) β)}
    (hc : Underway a evals n (c.recorder, c.dut))
    (hclose : ({ c with phase := .finished } : Bench _ _ _).closeRecorder = x) :
    Leaves a b result x.2 := by
  obtain ⟨hevents, hdisabled⟩ := hc.serves.close
  subst hclose
  exact .closed hc.clean hevents hdisabled

lemma run_leaves (pace : Pace) (hphase : b.phase = .resetting)
    (hb : Underway a 0 n (b.recorder, b.dut)) : Leaves a b (b.run pace).1 (b.run pace).2 := by
  obtain ⟨result, last, hresult⟩ : ∃ result last, b.run pace = (result, last) := ⟨_, _, rfl⟩
  have hending := run_ending pace b
  simp only [hresult] at hending ⊢
  cases hending with
  | unpowered hsample =>
    refine leaves_of_sampled (sampled_start hb hsample) ?_
    rw [show last.phase = b.phase from congrArg (·.2.phase) hsample.symm, hphase, phaseAfter,
      if_pos]
    omega
  | cut hcut =>
    obtain ⟨phase, h, c, edge, found, hc, hdue, hpass, hsample⟩ := hcut
    obtain ⟨m, hm⟩ := hc.underway hb
    refine leaves_of_sampled (sampled_sample ((passed_passIn hpass).underway hm) hsample) ?_
    rw [show last.phase = found.phase from congrArg (·.2.phase) hsample.symm, hc.found_phase hpass,
      hc.phaseAfter_eq hdue]
  | overflowed hc =>
    obtain ⟨m, hm⟩ := hc.underway hb
    exact .opened hm
  | unclosed hc _ hclose =>
    obtain ⟨m, hm⟩ := hc.underway hb
    exact leaves_of_closed hm hclose
  | completed hc _ hclose =>
    obtain ⟨m, hm⟩ := hc.underway hb
    exact leaves_of_closed hm hclose

omit [Dut σ] [Bridge β] in
/-- Whatever the run came to, in the end the sink is closed and nothing else is called. -/
lemma Leaves.dispose {result : Except BenchError Summary}
    {last : Bench (Watched σ) (Labelled κ) β} (h : Leaves a b result last) :
    ∃ evals n events refusal, Clean a evals n events
      ∧ last.dispose.dut.events = events ++ refusal ++ a.closing
      ∧ (refusal = [] ∨ ∃ tick e, tick.value.toNat = n ∧ result = .error e
          ∧ refusal = [.dump a.label tick (.error e)]
          ∧ last.phase = phaseAfter b.resetToggles b.warmupToggles evals)
      ∧ ∀ summary, result = .ok summary → last.dispose.dut.events = last.dut.events := by
  cases h with
  | opened h =>
    refine ⟨_, _, _, [], h.clean, ?_, Or.inl rfl, nofun⟩
    rw [List.append_nil]
    exact h.serves.close.1
  | @refused e _ _ h hphase =>
    obtain ⟨n, tick, events, htick, hclean, hevents⟩ := h.refused
    refine ⟨_, n, events, _, hclean, ?_, Or.inr ⟨tick, e, htick, rfl, rfl, hphase⟩, nofun⟩
    rw [← hevents]
    exact h.serves.close.1
  | closed h hevents hdisabled =>
    have hsame : last.dispose.dut.events = last.dut.events :=
      congrArg (·.2.2.events)
        (Recorder.close_of_disabled (x := (last.recorder, last.dut)) hdisabled)
    refine ⟨_, _, _, [], h, ?_, Or.inl rfl, fun _ _ => hsame⟩
    rw [hsame, hevents, List.append_nil]

omit [Dut σ] [Bridge β] in
/-- A refused sample is followed by closings only, and the run has failed because of it. -/
lemma Leaves.of_refused {result : Except BenchError Summary}
    {last : Bench (Watched σ) (Labelled κ) β} (h : Leaves a b result last) {label : ℕ} {tick : Tick}
    {e : BenchError} {pre post : List BenchCall}
    (hsplit : last.dispose.dut.events = pre ++ .dump label tick (.error e) :: post) :
    (∀ call ∈ post, call.isClose = true) ∧ result = .error e
      ∧ last.phase = phaseAfter b.resetToggles b.warmupToggles (evalsIn pre) := by
  obtain ⟨evals, n, clean, refusal, hclean, hevents, hrefusal, -⟩ := h.dispose
  rw [hevents] at hsplit
  rcases hrefusal with rfl | ⟨tick', e', -, herror, rfl, hlast⟩
  · have hmem : BenchCall.dump label tick (.error e) ∈ clean ++ a.closing := by
      rw [List.append_nil] at hsplit
      simp [hsplit]
    rcases List.mem_append.mp hmem with hmem | hmem
    · exact absurd hmem (hclean.accepted label tick e)
    · exact absurd (Attached.isClose_of_mem_closing hmem) (by simp [BenchCall.isClose])
  · rw [List.append_assoc] at hsplit
    obtain ⟨rfl, hcall, rfl⟩ := hclean.eq_of_refused
      (fun c hc => Attached.isClose_of_mem_closing hc) ⟨label, tick, e, rfl⟩ hsplit
    obtain ⟨rfl, rfl, he⟩ := BenchCall.dump.inj hcall
    cases he
    refine ⟨fun c hc => Attached.isClose_of_mem_closing hc, herror, ?_⟩
    rw [hlast, hclean.evals_eq]

omit [Dut σ] [Bridge β] in
/-- Each sink, the current one and those before it, was given its samples in order and then
closed. -/
lemma Leaves.lifecycle {past : List (Recorder κ)} {r r' : Recorder κ}
    {result : Except BenchError Summary} {last : Bench (Watched σ) (Labelled κ) β}
    (h : Leaves (lastAttached past r) b result last) {label : ℕ}
    (hr' : (past ++ [r])[label]? = some r') (henabled : r'.isEnabled = true) :
    ∃ n, callsTo label last.dispose.dut.events = (List.range n).map .dump ++ [.close]
      ∧ ∀ summary, result = .ok summary →
          callsTo label last.dut.events = callsTo label last.dispose.dut.events := by
  obtain ⟨evals, n, clean, refusal, hclean, hevents, hrefusal, hreturned⟩ := h.dispose
  obtain ⟨hothers, hcurrent⟩ := hclean.callsTo_closed
    (hrefusal.imp_right fun ⟨tick, e, htick, _, hlast, _⟩ => ⟨tick, e, htick, hlast⟩)
  rw [← hevents] at hothers hcurrent
  have hlife : ∃ n, callsTo label last.dispose.dut.events
      = (List.range n).map .dump ++ [.close] := by
    rcases Nat.lt_trichotomy label past.length with hlt | rfl | hgt
    · rw [List.getElem?_append_left hlt] at hr'
      refine ⟨0, (hothers label hlt.ne).trans ?_⟩
      simp [lastAttached, hr', henabled]
    · obtain rfl : r = r' := by simpa using hr'
      exact hcurrent henabled
    · rw [List.getElem?_eq_none (by simpa using hgt)] at hr'
      cases hr'
  obtain ⟨m, hm⟩ := hlife
  exact ⟨m, hm, fun summary hok => by rw [← hreturned summary hok]⟩

variable {settings : BenchSettings} {queue : Option ByteQueue} {producer : Producer}
  {host host' : Host} {dut : σ} {recorders : List (Recorder (TraceSink κ))}

/-- A bench is set up, is given new recorders, runs and is given up.  Every sink it ever had is
given the samples of the ticks `0`, `1`, `2` and so on, and is then closed, once; if the run
returned a summary this was before it returned.  After a refused sample there are only closings, the
run returns the error of the sink, and it stays in the phase of the sample. -/
theorem sink_lifecycle {made attached : Bench σ (TraceSink κ) β}
    (hmade : create settings queue producer host dut = (.ok made, host'))
    (hnew : ∀ r ∈ recorders, r.IsNew)
    (hattached : made.withRecorders recorders = .done attached) (bridge : Option β)
    (pace : Pace) :
    ∃ start : Bench (Watched σ) (Labelled (TraceSink κ)) β,
      made.watch.withRecorders (Recorder.labelFrom 1 recorders) = .done start
      ∧ start.unwatched = attached ∧
      let ended := ({ start with bridge } : Bench _ _ _).run pace
      let events := ended.2.dispose.dut.events
      ({ attached with bridge } : Bench _ _ _).run pace = (ended.1, ended.2.unwatched)
        ∧ ended.2.unwatched.dispose = ended.2.dispose.unwatched
        ∧ (∀ label r, (made.recorder :: recorders)[label]? = some r → r.isEnabled = true →
            ∃ n, callsTo label events = (List.range n).map .dump ++ [.close]
              ∧ ∀ summary, ended.1 = .ok summary →
                  callsTo label ended.2.dut.events = callsTo label events)
        ∧ ∀ pre label tick e post, events = pre ++ .dump label tick (.error e) :: post →
            (∀ call ∈ post, call.isClose = true) ∧ ended.1 = .error e
              ∧ ended.2.phase
                = phaseAfter settings.resetToggles settings.warmupToggles (evalsIn pre) := by
  have hsetUp := (isSetUp_create hmade).withRecorders hnew hattached
  have hproject := unwatched_withRecorders 1 recorders made.watch
  rw [unwatched_watch, hattached] at hproject
  obtain ⟨start, hstart, hunwatched⟩ := Attempt.map_eq_done.mp hproject
  obtain ⟨past, r, hall, hattaching⟩ := (attaching_watch made).withRecorders hstart
  rw [List.nil_append] at hall
  have hrnew : r.IsNew := by
    have hmem : r ∈ made.recorder :: recorders := by simp [hall]
    rcases List.mem_cons.mp hmem with rfl | hmem
    · exact (isSetUp_create hmade).recorder_new
    · exact hnew r hmem
  have hphase : start.phase = .resetting := by
    rw [← hsetUp.phase_eq, ← hunwatched]
    rfl
  have hresets : start.resetToggles = settings.resetToggles := by
    rw [← hsetUp.resetToggles_eq, ← hunwatched]
    rfl
  have hwarmups : start.warmupToggles = settings.warmupToggles := by
    rw [← hsetUp.warmupToggles_eq, ← hunwatched]
    rfl
  refine ⟨start, hstart, hunwatched, ?_⟩
  intro ended events
  have hleaves : Leaves _ { start with bridge } ended.1 ended.2 :=
    run_leaves pace hphase (hattaching.underway hrnew)
  refine ⟨?_, (unwatched_dispose _).symm, ?_, ?_⟩
  · rw [← unwatched_run, ← hunwatched]
    rfl
  · intro label r' hr' henabled
    exact hleaves.lifecycle (hall ▸ hr') henabled
  · intro pre label tick e post hsplit
    rw [← hresets, ← hwarmups]
    exact hleaves.of_refused hsplit

/-- A counter on a short run.  The second sink replaces the first and refuses its fourth sample, in
the main loop. -/
theorem sink_lifecycle_refused :
    let made := Sample.counterBench { dump := true, dumpEvery := 3 }
    let recorders : List (Recorder (TraceSink Sample.LogSink)) :=
      [.ofSink (.custom { name := "first" }),
        .ofSink (.custom { name := "second", failAt := some 4 })]
    let attached := (made.withRecorders recorders).2
    create Sample.shortRun (some { contents := [0x41, 0x42] }) .silent {}
        { dump := true, dumpEvery := 3 } = (.ok made, {})
      ∧ made.withRecorders recorders = .done attached
      ∧ ∃ start : Bench _ (Labelled (TraceSink Sample.LogSink)) RemoteBitbang,
        made.watch.withRecorders (Recorder.labelFrom 1 recorders) = .done start ∧
        let ended := start.run fun _ => 0
        let events := ended.2.dispose.dut.events
        ended.1.isOk = false ∧ ended.2.phase = .running
          ∧ callsTo 1 events = [.close]
          ∧ callsTo 2 events = [.dump 0, .dump 1, .dump 2, .dump 3, .close] := by
  intro made recorders attached
  have hmade : create Sample.shortRun (some { contents := [0x41, 0x42] }) .silent {}
      { dump := true, dumpEvery := 3 } = (.ok made, {}) := rfl
  have hnew : ∀ r ∈ recorders, r.IsNew := by
    simp [recorders, Recorder.IsNew]
  have hattached : made.withRecorders recorders = .done attached := rfl
  have hsinks : (made.recorder :: recorders)[1]?.map Recorder.isEnabled = some true
      ∧ (made.recorder :: recorders)[2]?.map Recorder.isEnabled = some true := ⟨rfl, rfl⟩
  obtain ⟨start, hstart⟩ : ∃ start, start = (made.watch.withRecorders
      (Recorder.labelFrom 1 recorders)).2 := ⟨_, rfl⟩
  have hbridge : start.bridge = none := by
    rw [hstart]
    rfl
  have hended : (start.run fun _ => 0).1.isOk = false
      ∧ (start.run fun _ => 0).2.phase = .running := by
    rw [hstart]
    decide +kernel
  have hlengths : (callsTo 1 (start.run fun _ => 0).2.dispose.dut.events).length = 1
      ∧ (callsTo 2 (start.run fun _ => 0).2.dispose.dut.events).length = 5 := by
    rw [hstart]
    decide +kernel
  -- the benches are large, and from here on nothing needs to look into them
  clear_value made recorders attached
  obtain ⟨start', hwatched, -, -, -, hlife, -⟩ :=
    sink_lifecycle hmade hnew hattached none fun _ => 0
  obtain rfl : start = start' := hstart.trans (congrArg Prod.snd hwatched)
  rw [show ({ start with bridge := none } : Bench _ _ _) = start from
    congrArg (fun bridge => { start with bridge }) hbridge.symm] at hlife
  refine ⟨hmade, hattached, start, hwatched, hended.1, hended.2, ?_, ?_⟩
  · obtain ⟨r, hr, henabled⟩ := Option.map_eq_some_iff.mp hsinks.1
    obtain ⟨n, hcalls, -⟩ := hlife 1 r hr henabled
    have hn : n = 0 := by simpa [hcalls] using hlengths.1
    rw [hcalls, hn]
    rfl
  · obtain ⟨r, hr, henabled⟩ := Option.map_eq_some_iff.mp hsinks.2
    obtain ⟨n, hcalls, -⟩ := hlife 2 r hr henabled
    have hn : n = 4 := by simpa [hcalls] using hlengths.2
    rw [hcalls, hn]
    rfl

end Bench

end SocBench
