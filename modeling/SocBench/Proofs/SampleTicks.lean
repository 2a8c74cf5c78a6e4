import SocBench.Proofs.Projection
import SocBench.Proofs.RunAccounts

/-!
# Ticks and samples

A recorder keeps two numbers: the tick of the next sample, and how many samples its sink took.  The
tick moves when a sample is sent, the count only when the sink has taken it.  So the two go together
until the sink refuses a sample, and each refusal puts the tick one further ahead.

The refusals are counted by a sink around the one in use, `Tallied`, which the recorder does not
notice.  The main result, `Recorder.tick_eq_samples_iff`, is about any calls to a recorder, also
those made after one that failed.
-/

namespace SocBench

/-- A sink with the numbers of samples it took and refused. -/
structure Tallied (κ : Type) where
  sink : κ
  taken : ℕ := 0
  refused : ℕ := 0

section Tallied

variable {κ σ : Type} [Sink κ σ]

instance : Sink (Tallied κ) σ where
  dump k tick s :=
    match Sink.dump k.sink tick s with
    | (.ok (), sink, s) => .done (⟨sink, k.taken + 1, k.refused⟩, s)
    | (.error e, sink, s) => .failed e (⟨sink, k.taken, k.refused + 1⟩, s)
  close k s := (Sink.close k.sink s).map fun (sink, s) => (⟨sink, k.taken, k.refused⟩, s)

lemma Tallied.projects_sink :
    Sink.Projects (Tallied.sink (κ := κ)) (id : σ → σ) where
  dump k tick s := by
    simp only [Sink.dump, id_eq]
    rcases hdump : Sink.dump k.sink tick s with ⟨e | ok, sink, s'⟩ <;> rfl
  close _ _ := rfl

lemma Tallied.eq_of_dump_done {k k' : Tallied κ} {tick : Tick} {s s' : σ}
    (h : Sink.dump k tick s = .done (k', s')) :
    k'.taken = k.taken + 1 ∧ k'.refused = k.refused := by
  simp only [Sink.dump] at h
  split at h <;> cases h
  exact ⟨rfl, rfl⟩

lemma Tallied.eq_of_dump_failed {k k' : Tallied κ} {tick : Tick} {s s' : σ} {e : BenchError}
    (h : Sink.dump k tick s = .failed e (k', s')) :
    k'.taken = k.taken ∧ k'.refused = k.refused + 1 := by
  simp only [Sink.dump] at h
  split at h <;> cases h
  exact ⟨rfl, rfl⟩

end Tallied

lemma Dut.projects_id {σ : Type} [Dut σ] : Dut.Projects (id : σ → σ) where
  clk _ := rfl
  finished _ := rfl
  dumpEnabled _ := rfl
  tap _ := rfl
  tdo _ := rfl
  setClk _ _ := rfl
  setRstN _ _ := rfl
  setUartRx _ _ := rfl
  eval _ := rfl
  driveTap _ _ := rfl

/-- A call to a recorder. -/
inductive RecorderCall where
  | sampleOnce
  | sampleTwice
  | close

namespace Recorder

variable {κ σ : Type}

/-- Makes a call. -/
def perform [Dut σ] [Sink κ σ] : RecorderCall → Recorder κ × σ → Attempt (Recorder κ × σ)
  | .sampleOnce => sampleOnce
  | .sampleTwice => sampleTwice
  | .close => close

/-- The recorder after some calls, each with the device as it is at that time.  A call that fails
does not keep the next one from being made. -/
def after [Dut σ] [Sink κ σ] (r : Recorder κ) (calls : List (RecorderCall × σ)) : Recorder κ :=
  calls.foldl (fun r call => (perform call.1 (r, call.2)).2.1) r

/-- The recorder with a sink that counts, from zero. -/
def tallied (r : Recorder κ) : Recorder (Tallied κ) :=
  r.map fun sink => { sink }

/-- The number of samples that the sink took. -/
def taken (r : Recorder (Tallied κ)) : ℕ :=
  (r.slot.sink?.map Tallied.taken).getD 0

/-- The number of samples that the sink refused. -/
def refused (r : Recorder (Tallied κ)) : ℕ :=
  (r.slot.sink?.map Tallied.refused).getD 0

lemma map_sink_tallied (r : Recorder κ) : r.tallied.map Tallied.sink = r := by
  obtain ⟨slot, tick, samples⟩ := r
  cases slot <;> rfl

/-- The samples are those that the sink took, and the tick counts those it was sent. -/
structure Tallies (r : Recorder (Tallied κ)) : Prop where
  samples_eq : r.samples = r.taken
  tick_eq : r.tick.value.toNat = r.taken + r.refused

lemma IsNew.tallies {r : Recorder κ} (h : r.IsNew) : r.tallied.Tallies := by
  rcases h with rfl | ⟨sink, rfl⟩ <;> exact ⟨rfl, rfl⟩

/-! ## One call -/

section Calls

variable [Sink κ σ] {r : Recorder (Tallied κ)}

lemma Tallies.writeOne (h : r.Tallies) (s : σ) : (writeOne (r, s)).2.1.Tallies := by
  obtain ⟨slot, tick, samples⟩ := r
  cases slot with
  | active k =>
    obtain ⟨hsamples, htick⟩ := h
    simp only [taken, refused, SinkSlot.sink?, Option.map_some, Option.getD_some] at hsamples htick
    rcases writeOne_cases k tick samples s with
      hcase | ⟨next, hnext, ⟨k', s', hdump, hcase⟩ | ⟨e, k', s', hdump, hcase⟩⟩
    · rw [hcase]
      exact ⟨hsamples, htick⟩
    · obtain ⟨htaken, hrefused⟩ := Tallied.eq_of_dump_done hdump
      rw [hcase]
      constructor
      · show samples + 1 = k'.taken
        omega
      · show next.value.toNat = k'.taken + k'.refused
        omega
    · obtain ⟨htaken, hrefused⟩ := Tallied.eq_of_dump_failed hdump
      rw [hcase]
      constructor
      · show samples = k'.taken
        omega
      · show next.value.toNat = k'.taken + k'.refused
        omega
  | _ => exact h

lemma Tallies.close (h : r.Tallies) (s : σ) : (close (r, s)).2.1.Tallies := by
  obtain ⟨slot, tick, samples⟩ := r
  cases slot with
  | active k => exact ⟨h.samples_eq, h.tick_eq⟩
  | _ => exact h

variable [Dut σ]

/-- Every call keeps the tally, whether or not it succeeds. -/
lemma Tallies.perform (h : r.Tallies) (call : RecorderCall) (s : σ) :
    (perform call (r, s)).2.1.Tallies := by
  cases call with
  | sampleOnce =>
    rw [Recorder.perform, sampleOnce]
    split
    · exact h.writeOne s
    · exact h
  | sampleTwice =>
    rw [Recorder.perform, sampleTwice]
    split
    · -- the second sample is sent only if the first one was taken
      have hfirst := h.writeOne s
      rcases hwrite : Recorder.writeOne (r, s) with ⟨e | ok, r', s'⟩ <;> rw [hwrite] at hfirst
      · exact hfirst
      · exact hfirst.writeOne s'
    · exact h
  | close => exact h.close s

lemma project_perform (call : RecorderCall) (x : Recorder (Tallied κ) × σ) :
    (Recorder.perform call x).map (project Tallied.sink id)
      = Recorder.perform call (project Tallied.sink id x) := by
  cases call with
  | sampleOnce => exact project_sampleOnce Dut.projects_id Tallied.projects_sink x
  | sampleTwice => exact project_sampleTwice Dut.projects_id Tallied.projects_sink x
  | close => exact project_close Tallied.projects_sink x

/-! ## Any number of calls -/

lemma Tallies.after (h : r.Tallies) (calls : List (RecorderCall × σ)) :
    (r.after calls).Tallies := by
  induction calls generalizing r with
  | nil => exact h
  | cons call rest ih => exact ih (h.perform call.1 call.2)

/-- Counting does not change what the calls do. -/
lemma map_sink_after (r : Recorder (Tallied κ)) (calls : List (RecorderCall × σ)) :
    (r.after calls).map Tallied.sink = (r.map Tallied.sink).after calls := by
  induction calls generalizing r with
  | nil => rfl
  | cons call rest ih =>
    have hcall : (Recorder.perform call.1 (r, call.2)).2.1.map Tallied.sink
        = (Recorder.perform call.1 (r.map Tallied.sink, call.2)).2.1 :=
      congrArg (fun x => x.2.1) (project_perform call.1 (r, call.2))
    rw [Recorder.after, Recorder.after, List.foldl_cons, List.foldl_cons, ← hcall]
    exact ih _

end Calls

variable [Dut σ] [Sink κ σ]

/-- **The tick runs ahead of the samples by the number of samples that were refused.**  After any
calls to a new recorder, with any device at each of them, the samples are those that the sink took,
and the tick is their number and that of the refusals together.  So the two are equal exactly as
long as nothing was refused. -/
theorem tick_eq_samples_iff {r : Recorder κ} (hnew : r.IsNew) (calls : List (RecorderCall × σ)) :
    let tallied := r.tallied.after calls
    r.after calls = tallied.map Tallied.sink
      ∧ (r.after calls).samples = tallied.taken
      ∧ (r.after calls).tick.value.toNat = (r.after calls).samples + tallied.refused
      ∧ ((r.after calls).tick.value.toNat = (r.after calls).samples ↔ tallied.refused = 0) := by
  intro tallied
  have hsame : r.after calls = tallied.map Tallied.sink := by
    rw [map_sink_after, map_sink_tallied]
  obtain ⟨hsamples, htick⟩ : tallied.Tallies := hnew.tallies.after calls
  rw [hsame]
  refine ⟨rfl, hsamples, ?_, ?_⟩
  · show tallied.tick.value.toNat = tallied.samples + tallied.refused
    omega
  · show tallied.tick.value.toNat = tallied.samples ↔ tallied.refused = 0
    omega

/-- A sink that takes one sample and then fails, asked for two samples, for one, and to close. -/
theorem tick_eq_samples_iff_refused :
    let r : Recorder Sample.LogSink := .ofSink { name := "a", failAt := some 2 }
    let wanting : Sample.Counter := { dump := true }
    let calls := [(.sampleTwice, wanting), (.sampleOnce, wanting), (.close, wanting)]
    r.IsNew ∧ (r.after calls).samples = 1 ∧ (r.tallied.after calls).refused = 2
      ∧ (r.after calls).tick.value.toNat = 3 := by
  intro r wanting calls
  have hnew : r.IsNew := Or.inr ⟨_, rfl⟩
  have hsamples : (r.after calls).samples = 1 := by decide +kernel
  have hrefused : (r.tallied.after calls).refused = 2 := by decide +kernel
  obtain ⟨-, -, htick, -⟩ := tick_eq_samples_iff hnew calls
  rw [hsamples, hrefused] at htick
  exact ⟨hnew, hsamples, hrefused, htick⟩

/-- One refusal is enough: the sample was not taken, and yet its tick is gone. -/
theorem tick_ne_samples_of_refusal :
    let r : Recorder Sample.LogSink := .ofSink { name := "a", failAt := some 1 }
    let wanting : Sample.Counter := { dump := true }
    r.IsNew ∧ (r.after [(.sampleOnce, wanting)]).tick.value.toNat = 1
      ∧ (r.after [(.sampleOnce, wanting)]).samples = 0 := by
  refine ⟨Or.inr ⟨_, rfl⟩, ?_, ?_⟩ <;> decide +kernel

end Recorder

end SocBench
