import SocBench.Proofs.Projection
import SocBench.Proofs.ClockAlternation

/-!
# Stored samples

A sample can fail in two ways: its sink does not store it, or there is no tick left to number it.
A sink that stores all it is given leaves only the second way.  `Bench.Stores` says that the sink of
a run is like that, and asks nothing of the ticks.  Then the toggles so far tell how many samples
were asked for, and so whether the ticks lasted (`Bench.HasTicks`): a sample is taken if they did,
and if they did not the run stops there (`Bench.Stores.start`, `Bench.Course.stored`).  No other
reason to stop is left but that the toggles can no longer be counted (`Bench.Stores.error_eq`).

A value change dump on a store without limit stores all it is given (`Bench.stores_of_unlimited`).
-/

namespace SocBench

/-! ## The recorder -/

namespace Recorder

variable {κ σ : Type} [Sink κ σ]

/-- The sink stores the next sample, if there is a tick to number it. -/
def StoresNext (x : Recorder κ × σ) : Prop :=
  ∀ sink issued next, x.1.slot = .active sink → x.1.tick.advance = .ok (issued, next) →
    ∃ y, Sink.dump sink issued x.2 = .done y

/-- The sink stores the next two samples, if there are ticks to number them. -/
def StoresTwo (x : Recorder κ × σ) : Prop :=
  StoresNext x ∧ ∀ y, writeOne x = .done y → StoresNext y

/-- What comes of `n` samples that the sink stores: they are taken if they can be numbered, and
otherwise that is the error. -/
def Numbers (n : ℕ) (r : Recorder κ) (x : Attempt (Recorder κ × σ)) : Prop :=
  (r.tick.value.toNat + n < UInt64.size
      ∧ ∃ y, x = .done y ∧ y.1.tick.value.toNat = r.tick.value.toNat + n
        ∧ y.1.isEnabled = r.isEnabled) ∨
    ¬ r.tick.value.toNat + n < UInt64.size ∧ ∃ y, x = .failed (.fault .addOverflow) y

variable {r : Recorder κ} {s : σ}

omit [Sink κ σ] in
lemma numbers_zero (r : Recorder κ) (s : σ) : Numbers 0 r (.done (r, s)) :=
  Or.inl ⟨r.tick.value.toNat_lt, _, rfl, rfl, rfl⟩

lemma StoresNext.numbers (h : StoresNext (r, s)) (henabled : r.isEnabled = true) :
    Numbers 1 r (writeOne (r, s)) := by
  obtain ⟨slot, tick, samples⟩ := r
  cases slot with
  | active sink =>
    by_cases hticks : tick.value.toNat + 1 < UInt64.size
    · obtain ⟨next, hnext⟩ : ∃ next, tick.advance = .ok (tick, next) := by
        rw [Tick.advance, if_pos hticks]
        exact ⟨_, rfl⟩
      obtain ⟨⟨sink', s'⟩, hdump⟩ := h sink tick next rfl hnext
      refine Or.inl ⟨hticks, (⟨.active sink', next, samples + 1⟩, s'), ?_,
        (Tick.advance_eq_ok hnext).2, rfl⟩
      simp only [writeOne, hnext, hdump, Attempt.done]
    · have hnone : tick.advance = .error .addOverflow := by
        rw [Tick.advance, if_neg hticks]
      refine Or.inr ⟨hticks, (⟨.active sink, tick, samples⟩, s), ?_⟩
      simp only [writeOne, hnone]
  | _ => cases henabled

variable [Dut σ]

lemma numbers_sampleOnce (h : r.wants s = true → StoresNext (r, s)) :
    Numbers (if r.wants s then 1 else 0) r (sampleOnce (r, s)) := by
  rw [sampleOnce]
  split
  case isTrue hwants => exact (h hwants).numbers (Bool.and_eq_true_iff.mp hwants).1
  case isFalse hwants => exact numbers_zero r s

lemma numbers_sampleTwice (h : r.wants s = true → StoresTwo (r, s)) :
    Numbers (if r.wants s then 2 else 0) r (sampleTwice (r, s)) := by
  rw [sampleTwice]
  split
  case isTrue hwants =>
    obtain ⟨hnext, hsecond⟩ := h hwants
    have henabled := (Bool.and_eq_true_iff.mp hwants).1
    rcases hnext.numbers henabled with ⟨-, y, hwrite, htick, hstill⟩ | ⟨hnone, y, hwrite⟩
    · have hlast := (hsecond y hwrite).numbers (hstill.trans henabled)
      rw [Numbers, htick, Nat.add_assoc, hstill] at hlast
      rw [hwrite]
      exact hlast
    · refine Or.inr ⟨by omega, y, ?_⟩
      rw [hwrite]
      rfl
  case isFalse hwants => exact numbers_zero r s

omit [Dut σ] in
/-- A sink around one that stores a sample stores it. -/
lemma StoresNext.of_project {τ ι : Type} [Sink ι τ] {g : ι → κ} {f : τ → σ}
    (hg : Sink.Projects g f) {x : Recorder ι × τ} (h : StoresNext (project g f x)) :
    StoresNext x := by
  intro sink issued next hslot hadvance
  have hinside : (project g f x).1.slot = .active (g sink) := by
    simp only [project, map, hslot, SinkSlot.map]
  obtain ⟨y, hdump⟩ := h (g sink) issued next hinside hadvance
  obtain ⟨y', hdump', -⟩ := Attempt.map_eq_done.mp ((hg.dump sink issued x.2).trans hdump)
  exact ⟨y', hdump'⟩

omit [Dut σ] in
lemma StoresTwo.of_project {τ ι : Type} [Sink ι τ] {g : ι → κ} {f : τ → σ}
    (hg : Sink.Projects g f) {x : Recorder ι × τ} (h : StoresTwo (project g f x)) :
    StoresTwo x := by
  refine ⟨h.1.of_project hg, fun y hwrite => ?_⟩
  have hinside := project_writeOne hg x
  rw [hwrite] at hinside
  exact (h.2 _ hinside.symm).of_project hg

end Recorder

/-! ## Runs with a sink that stores all it is given -/

namespace Bench

variable {σ κ β : Type} [Dut σ]

/-- How many samples a run asks its recorder for until these toggles were made: one after power-on
and two after each toggle, if the device wants them. -/
def samplesFor (b : Bench σ κ β) (h : History σ κ β) : ℕ :=
  if b.recorder.isEnabled then
    (if Dut.dumpEnabled (powerOn b.dut) then 1 else 0)
      + 2 * h.countP fun t => Dut.dumpEnabled t.found.dut
  else 0

/-- All samples until these toggles were made can be numbered. -/
def HasTicks (b : Bench σ κ β) (h : History σ κ β) : Prop :=
  b.recorder.tick.value.toNat + b.samplesFor h < UInt64.size

lemma samplesFor_nil (b : Bench σ κ β) :
    b.samplesFor [] = if b.recorder.wants (powerOn b.dut) then 1 else 0 := by
  cases henabled : b.recorder.isEnabled <;> simp [samplesFor, Recorder.wants, henabled]

lemma samplesFor_append (b : Bench σ κ β) (h : History σ κ β) (t : Toggle σ κ β) :
    b.samplesFor (h ++ [t])
      = b.samplesFor h + if b.recorder.isEnabled && Dut.dumpEnabled t.found.dut then 2 else 0 := by
  cases henabled : b.recorder.isEnabled <;> cases hwants : Dut.dumpEnabled t.found.dut <;>
    simp [samplesFor, henabled, hwants, List.countP_append]
  omega

lemma samplesFor_le (b : Bench σ κ β) (h : History σ κ β) : b.samplesFor h ≤ 1 + 2 * h.length := by
  have hcount := h.countP_le_length (p := fun t => Dut.dumpEnabled t.found.dut)
  rw [samplesFor]
  split
  · split <;> omega
  · omega

lemma hasTicks_of_length {b : Bench σ κ β} {h : History σ κ β}
    (henough : b.recorder.tick.value.toNat + (1 + 2 * h.length) < UInt64.size) : b.HasTicks h := by
  have hsamples := b.samplesFor_le h
  rw [HasTicks]
  omega

lemma HasTicks.of_append {b : Bench σ κ β} {h : History σ κ β} {t : Toggle σ κ β}
    (hticks : b.HasTicks (h ++ [t])) : b.HasTicks h := by
  rw [HasTicks, samplesFor_append] at hticks
  rw [HasTicks]
  omega

variable [Sink κ σ] [Bridge β]

/-- The sink stores every sample of a run that can be numbered, and at the end it can be closed. -/
structure Stores (pace : Pace) (b : Bench σ κ β) : Prop where
  atStart : b.recorder.wants (powerOn b.dut) = true →
    Recorder.StoresNext (b.recorder, powerOn b.dut)
  afterToggle : ∀ {phase h c edge found}, Course pace b phase h c → c.Due phase h →
    c.passIn phase (pace (h.inPhase .running)) = (edge, found) →
    found.recorder.wants found.dut = true → Recorder.StoresTwo (found.recorder, found.dut)
  atEnd : ∀ {h c}, Course pace b .running h c → ¬ c.Due .running h →
    ∃ last, ({ c with phase := .finished } : Bench σ κ β).closeRecorder = .done last

variable {pace : Pace} {b c found : Bench σ κ β} {h : History σ κ β} {phase : Phase} {edge : Edge}

/-- The sample after power-on is taken if there is a tick for it. -/
lemma Stores.start (hstores : b.Stores pace) :
    (∃ c, b.poweredOn.sampleStart = .done c
      ∧ c.recorder.tick.value.toNat = b.recorder.tick.value.toNat + b.samplesFor []
      ∧ c.recorder.isEnabled = b.recorder.isEnabled) ∨
    ¬ b.HasTicks [] ∧ ∃ last, b.poweredOn.sampleStart = .failed (.fault .addOverflow) last := by
  have hnumbers := Recorder.numbers_sampleOnce hstores.atStart
  rw [← samplesFor_nil] at hnumbers
  have hstart : b.poweredOn.sampleStart
      = (Recorder.sampleOnce (b.recorder, powerOn b.dut)).map fun x =>
          { b.poweredOn with recorder := x.1, dut := x.2 } := rfl
  rw [hstart]
  rcases hnumbers with ⟨-, x, hsample, htick, henabled⟩ | ⟨hticks, x, hsample⟩
  · rw [hsample]
    exact Or.inl ⟨_, rfl, htick, henabled⟩
  · rw [hsample]
    exact Or.inr ⟨hticks, _, rfl⟩

/-- The samples after a toggle are taken if there are ticks for them. -/
lemma Stores.next (hstores : b.Stores pace) (hc : Course pace b phase h c) (hdue : c.Due phase h)
    (hpass : c.passIn phase (pace (h.inPhase .running)) = (edge, found))
    (htick : c.recorder.tick.value.toNat = b.recorder.tick.value.toNat + b.samplesFor h)
    (henabled : c.recorder.isEnabled = b.recorder.isEnabled) :
    (∃ c', found.sample = .done c'
      ∧ c'.recorder.tick.value.toNat
          = b.recorder.tick.value.toNat + b.samplesFor (h ++ [⟨phase, c, edge, found⟩])
      ∧ c'.recorder.isEnabled = b.recorder.isEnabled) ∨
    ¬ b.HasTicks (h ++ [⟨phase, c, edge, found⟩])
      ∧ ∃ last, found.sample = .failed (.fault .addOverflow) last := by
  have hrecorder := (passed_passIn hpass).recorder_eq
  have hnumbers := Recorder.numbers_sampleTwice (hstores.afterToggle hc hdue hpass)
  rw [Recorder.Numbers, Recorder.wants, hrecorder, henabled, htick, Nat.add_assoc,
    ← samplesFor_append b h ⟨phase, c, edge, found⟩] at hnumbers
  rw [sample]
  rcases hnumbers with ⟨-, x, hsample, htick', henabled'⟩ | ⟨hticks, x, hsample⟩
  · rw [hrecorder, hsample]
    exact Or.inl ⟨_, rfl, htick', henabled'⟩
  · rw [hrecorder, hsample]
    exact Or.inr ⟨hticks, _, rfl⟩

/-- The next sample has the number of those that were asked for. -/
lemma Course.tick_eq (hstores : b.Stores pace) (hc : Course pace b phase h c) :
    c.recorder.tick.value.toNat = b.recorder.tick.value.toNat + b.samplesFor h
      ∧ c.recorder.isEnabled = b.recorder.isEnabled := by
  induction hc with
  | powered hsample =>
    rcases hstores.start with ⟨c, hdone, htick⟩ | ⟨-, last, hfailed⟩
    · cases hsample.symm.trans hdone
      exact htick
    · cases hsample.symm.trans hfailed
  | released _ _ ih => exact ih
  | started _ _ ih => exact ih
  | toggled hc hdue hpass hsample ih =>
    rcases hstores.next hc hdue hpass ih.1 ih.2 with ⟨c', hdone, htick⟩ | ⟨-, last, hfailed⟩
    · cases hsample.symm.trans hdone
      exact htick
    · cases hsample.symm.trans hfailed

/-- A stage is reached only if the ticks lasted until then. -/
lemma Course.hasTicks (hstores : b.Stores pace) (hc : Course pace b phase h c) : b.HasTicks h := by
  rw [HasTicks, ← (hc.tick_eq hstores).1]
  exact c.recorder.tick.value.toNat_lt

/-- After a toggle the run goes on if the ticks last, and otherwise that is the error. -/
lemma Course.stored (hstores : b.Stores pace) (hc : Course pace b phase h c) (hdue : c.Due phase h)
    (hpass : c.passIn phase (pace (h.inPhase .running)) = (edge, found)) :
    (∃ c', found.sample = .done c') ∨
      ¬ b.HasTicks (h ++ [⟨phase, c, edge, found⟩])
        ∧ ∃ last, found.sample = .failed (.fault .addOverflow) last := by
  have hnext := hstores.next hc hdue hpass (hc.tick_eq hstores).1 (hc.tick_eq hstores).2
  exact hnext.imp (fun ⟨c', hdone, _⟩ => ⟨c', hdone⟩) id

/-- **If the sink stores all it is given, a run stops early only because something can no longer be
counted.** -/
lemma Stores.error_eq (hstores : b.Stores pace) {e : BenchError}
    (hrun : (b.run pace).1 = .error e) : e = .fault .addOverflow := by
  have hending := run_ending pace b
  rw [hrun] at hending
  cases hending with
  | unpowered hsample =>
    rcases hstores.start with ⟨c, hdone, -⟩ | ⟨-, last, hfailed⟩
    · cases hsample.symm.trans hdone
    · cases hsample.symm.trans hfailed
      rfl
  | cut hcut =>
    obtain ⟨phase, h, c, edge, found, hc, hdue, hpass, hsample⟩ := hcut
    rcases hc.stored hstores hdue hpass with ⟨c', hdone⟩ | ⟨-, last, hfailed⟩
    · cases hsample.symm.trans hdone
    · cases hsample.symm.trans hfailed
      rfl
  | overflowed hc => rfl
  | unclosed hc hover hclose =>
    obtain ⟨last, hdone⟩ := hstores.atEnd hc hover
    cases hclose.symm.trans hdone

/-- A bench around one whose sink stores all it is given has such a sink. -/
lemma Stores.of_project {τ ι : Type} [Dut τ] [Sink ι τ] {g : ι → κ} {f : τ → σ}
    (hf : Dut.Projects f) (hg : Sink.Projects g f) {b : Bench τ ι β}
    (h : (b.project g f).Stores pace) : b.Stores pace where
  atStart := by
    intro hwants
    have hon : powerOn (b.project g f).dut = f (powerOn b.dut) :=
      congrArg Bench.dut (project_poweredOn hf b)
    have hstored := h.atStart
    rw [hon] at hstored
    rw [← Recorder.wants_project (g := g) hf (b.recorder, powerOn b.dut)] at hwants
    exact Recorder.StoresNext.of_project hg (hstored hwants)
  afterToggle := by
    intro phase h' c edge found hc hdue hpass hwants
    have hinside := project_passIn (g := g) hf phase (pace (h'.inPhase .running)) c
    rw [hpass, ← History.inPhase_project (g := g) (f := f)] at hinside
    rw [← Recorder.wants_project (g := g) hf (found.recorder, found.dut)] at hwants
    exact Recorder.StoresTwo.of_project hg
      (h.afterToggle (hc.project hf hg) ((due_project hf c).2 hdue) hinside hwants)
  atEnd := by
    intro h' c hc hover
    obtain ⟨last, hlast⟩ := h.atEnd (hc.project hf hg) fun hdue => hover ((due_project hf c).1 hdue)
    have hinside := project_closeRecorder hg ({ c with phase := .finished } : Bench τ ι β)
    rw [show ({ c with phase := .finished } : Bench τ ι β).project g f
      = { c.project g f with phase := .finished } from rfl, hlast] at hinside
    obtain ⟨last', hlast', -⟩ := Attempt.map_eq_done.mp hinside
    exact ⟨last', hlast'⟩

end Bench

/-! ## A store without limit -/

/-- The attempt succeeds, and `P` holds afterwards. -/
def Attempt.DoneWith {α : Type} (P : α → Prop) (x : Attempt α) : Prop :=
  ∃ a, x = .done a ∧ P a

namespace Attempt.DoneWith

variable {α γ : Type} {P Q : α → Prop} {x : Attempt α}

lemma andThen {f : α → Attempt α} (hx : x.DoneWith P) (hf : ∀ a, P a → (f a).DoneWith Q) :
    (x.andThen f).DoneWith Q := by
  obtain ⟨a, rfl, ha⟩ := hx
  exact hf a ha

lemma map {f : α → γ} {R : γ → Prop} (hx : x.DoneWith P) (hf : ∀ a, P a → R (f a)) :
    (x.map f).DoneWith R := by
  obtain ⟨a, rfl, ha⟩ := hx
  exact ⟨f a, rfl, hf a ha⟩

end Attempt.DoneWith

/-- Everything fits into the store. -/
def Storage.IsUnlimited (w : Storage) : Prop :=
  w.medium = .unlimited

lemma Storage.IsUnlimited.write {w : Storage} (h : w.IsUnlimited) (text : String) :
    (w.write text).DoneWith Storage.IsUnlimited := by
  obtain ⟨stored, medium⟩ := w
  cases h
  exact ⟨_, rfl, rfl⟩

namespace VcdSink

/-- The dump goes to a store into which everything fits. -/
def IsUnlimited (k : VcdSink) : Prop :=
  k.storage.IsUnlimited

variable {k : VcdSink}

lemma IsUnlimited.writeLine (h : k.IsUnlimited) (line : String) :
    (k.writeLine line).DoneWith IsUnlimited :=
  (Storage.IsUnlimited.write h _).map fun _ hw => hw

lemma IsUnlimited.writeLines (h : k.IsUnlimited) (lines : List String) :
    (k.writeLines lines).DoneWith IsUnlimited := by
  induction lines generalizing k with
  | nil => exact ⟨k, rfl, h⟩
  | cons line rest ih => exact (h.writeLine line).andThen fun _ hk => ih hk

lemma IsUnlimited.declare (h : k.IsUnlimited) (index : ℕ) (vars : List (String × ℕ)) :
    (k.declare index vars).DoneWith IsUnlimited := by
  induction vars generalizing k index with
  | nil => exact ⟨k, rfl, h⟩
  | cons var rest ih =>
    refine (h.writeLine _).andThen fun k' hk' => ?_
    refine ih ?_ (index + 1)
    exact hk'

lemma IsUnlimited.writeHeader (h : k.IsUnlimited) (probes : List Probe) :
    (k.writeHeader probes).DoneWith IsUnlimited :=
  (h.writeLines preamble).andThen fun _ hk => (hk.declare 0 _).andThen fun _ hk =>
    (hk.writeLines closing).andThen fun _ hk => ⟨_, rfl, hk⟩

lemma writeChanges_unlimited {w : Storage} (h : w.IsUnlimited) (vars : List VcdVar)
    (values : List ℕ) : (writeChanges w vars values).DoneWith fun x => x.1.IsUnlimited := by
  induction vars generalizing w values with
  | nil => cases values <;> exact ⟨_, rfl, h⟩
  | cons var rest ih =>
    cases values with
    | nil => exact ⟨_, rfl, h⟩
    | cons value values =>
      rw [writeChanges]
      split
      · exact (ih h values).map fun _ hw => hw
      · obtain ⟨w', hwrite, hw'⟩ := h.write (var.line value ++ "\n")
        simp only [hwrite, Attempt.done]
        exact (ih hw' values).map fun _ hw => hw

lemma IsUnlimited.writeValues (h : k.IsUnlimited) (values : List ℕ) :
    (k.writeValues values).DoneWith IsUnlimited :=
  (writeChanges_unlimited h k.vars values).map fun _ hw => hw

lemma IsUnlimited.dump {σ : Type} [Dut σ] (h : k.IsUnlimited) (tick : Tick) (s : σ) :
    (k.dump tick s).DoneWith IsUnlimited := by
  rw [VcdSink.dump]
  split
  · exact (h.writeLine _).andThen fun _ hk => hk.writeValues _
  · exact (h.writeHeader _).andThen fun _ hk => (hk.writeLines _).andThen fun _ hk =>
      (hk.writeValues _).andThen fun _ hk => hk.writeLine _

lemma IsUnlimited.close (h : k.IsUnlimited) : k.close.DoneWith IsUnlimited := by
  have hheader : (if k.headerWritten then .done k else k.writeHeader []).DoneWith IsUnlimited := by
    split
    · exact ⟨k, rfl, h⟩
    · exact h.writeHeader []
  refine hheader.andThen fun k' hk' => ?_
  have hflush : k'.storage.flush = .done k'.storage := by
    rw [Storage.flush, show k'.storage.medium = .unlimited from hk']
  rw [hflush]
  exact ⟨_, rfl, hk'⟩

end VcdSink

/-- A value change dump on a store into which everything fits. -/
def TraceSink.IsUnlimitedVcd {κ : Type} : TraceSink κ → Prop
  | .vcd _ sink => sink.IsUnlimited
  | _ => False

lemma TraceSink.IsUnlimitedVcd.dump {κ σ : Type} [Dut σ] [Sink κ σ] {k : TraceSink κ}
    (h : k.IsUnlimitedVcd) (tick : Tick) (s : σ) :
    (Sink.dump k tick s).DoneWith fun x => x.1.IsUnlimitedVcd ∧ x.2 = s := by
  cases k with
  | vcd path sink =>
    obtain ⟨sink', hdump, hsink'⟩ := VcdSink.IsUnlimited.dump h tick s
    refine ⟨(.vcd path sink', s), ?_, hsink', rfl⟩
    simp only [Sink.dump, TraceSink.dump, hdump, Attempt.map_done]
  | native => exact h.elim
  | custom sink => exact h.elim

lemma TraceSink.IsUnlimitedVcd.close {κ σ : Type} [Dut σ] [Sink κ σ] {k : TraceSink κ}
    (h : k.IsUnlimitedVcd) (s : σ) : (Sink.close k s).DoneWith fun x => x.2 = s := by
  cases k with
  | vcd path sink =>
    obtain ⟨sink', hclose, -⟩ := VcdSink.IsUnlimited.close h
    refine ⟨(.vcd path sink', s), ?_, rfl⟩
    simp only [Sink.close, TraceSink.close, hclose, Attempt.map_done]
  | native => exact h.elim
  | custom sink => exact h.elim

lemma TraceSink.onlyLook_isUnlimitedVcd {κ σ : Type} [Dut σ] [Sink κ σ] :
    Sink.OnlyLook (TraceSink.IsUnlimitedVcd (κ := κ)) σ where
  dump h tick s := by
    obtain ⟨⟨k', _⟩, hdump, hk', rfl⟩ := h.dump tick s
    exact ⟨_, k', hdump, hk'⟩
  close h s := by
    obtain ⟨⟨k', _⟩, hclose, rfl⟩ := h.close s
    exact ⟨_, k', hclose⟩

namespace Recorder.WritesTo

variable {κ σ : Type} [Dut σ] [Sink κ σ] {r : Recorder (TraceSink κ)}

lemma storesNext (h : r.WritesTo TraceSink.IsUnlimitedVcd) (s : σ) : StoresNext (r, s) := by
  intro sink issued next hslot _
  obtain ⟨y, hdump, -⟩ := (h sink hslot).dump issued s
  exact ⟨y, hdump⟩

lemma closes (h : r.WritesTo TraceSink.IsUnlimitedVcd) (s : σ) :
    ∃ x, Recorder.close (r, s) = .done x := by
  obtain ⟨slot, tick, samples⟩ := r
  cases slot with
  | absent => exact ⟨_, rfl⟩
  | closed sink => exact ⟨_, rfl⟩
  | active sink =>
    obtain ⟨x, hclose, -⟩ := (h sink rfl).close s
    rw [Recorder.close, hclose]
    exact ⟨_, rfl⟩

end Recorder.WritesTo

namespace Bench

variable {σ κ β : Type} [Dut σ] [Sink κ σ] [Bridge β]

/-- Along a run the recorder keeps writing to sinks of the same kind. -/
lemma Course.writesTo {P : κ → Prop} (hP : Sink.OnlyLook P σ) {pace : Pace} {b c : Bench σ κ β}
    {phase : Phase} {h : History σ κ β} (hb : b.recorder.WritesTo P)
    (hc : Course pace b phase h c) : c.recorder.WritesTo P := by
  induction hc with
  | powered hsample =>
    obtain ⟨recorder, dut, hdone, rfl⟩ := sampleStart_eq_done hsample
    obtain ⟨outcome, r, hwritten, hr⟩ := hb.sampleOnce hP (powerOn b.dut)
    cases hwritten.symm.trans hdone
    exact hr
  | released _ _ ih => exact ih
  | started _ _ ih => exact ih
  | @toggled _ _ _ _ found _ _ _ hpass hsample ih =>
    obtain ⟨recorder, dut, hdone, rfl⟩ := sample_eq_done hsample
    rw [(passed_passIn hpass).recorder_eq] at hdone
    obtain ⟨outcome, r, hwritten, hr⟩ := ih.sampleTwice hP found.dut
    cases hwritten.symm.trans hdone
    exact hr

/-- **A value change dump on a store without limit stores all it is given.** -/
lemma stores_of_unlimited {b : Bench σ (TraceSink κ) β} (pace : Pace)
    (hb : b.recorder.WritesTo TraceSink.IsUnlimitedVcd) : b.Stores pace where
  atStart _ := hb.storesNext _
  afterToggle := by
    intro phase h c edge found hc _ hpass _
    have hfound : found.recorder.WritesTo TraceSink.IsUnlimitedVcd := by
      rw [(passed_passIn hpass).recorder_eq]
      exact hc.writesTo TraceSink.onlyLook_isUnlimitedVcd hb
    refine ⟨hfound.storesNext _, fun y hwrite => ?_⟩
    obtain ⟨outcome, r, hwritten, hr⟩ :=
      hfound.writeOne TraceSink.onlyLook_isUnlimitedVcd found.dut
    cases hwritten.symm.trans hwrite
    exact hr.storesNext _
  atEnd := by
    intro h c hc _
    obtain ⟨x, hclose⟩ := (hc.writesTo TraceSink.onlyLook_isUnlimitedVcd hb).closes c.dut
    exact ⟨_, Attempt.map_eq_done.mpr ⟨x, hclose, rfl⟩⟩

end Bench

end SocBench
