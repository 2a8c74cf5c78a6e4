import SocBench.Cli.Execute
import SocBench.Proofs.LineRates

/-!
# Accepted settings have a bit period

A configuration is checked once, after the options of the command line are in place, and the line
rate is turned into a bit period later and elsewhere.  The two do the same division, so what was
accepted has a bit period: the bench cannot be refused for its rates any more, and neither can a
report on the settings.  The other way round, rates without a bit period are found by the check,
which blames the line rate.

The only other one who could complain about the length of a bit is the tracer of a device, whose
errors are handed on as they are.  The two devices of the program never do.
-/

namespace SocBench

namespace Config

lemma isZero_iff (c : Config) :
    c.clock.frequency.isZero = true ↔ c.clock.frequency.hz = 0 := by
  simp [Frequency.isZero]

/-- What makes a configuration fit to be run. -/
structure Runnable (c : Config) : Prop where
  clock_ne : c.clock.frequency.hz ≠ 0
  baud_pos : 0 < c.uart.baud.toNat
  hold_pos : 0 < bitHold c.clock.frequency c.uart.baud
  path_ne : c.trace.path.isEmpty = false
  pace_ne : c.jtag.tckPeriod ≠ 0

/-- Validation finds fault with the line rate just when it does not leave an edge for a bit. -/
lemma cycles_getD_eq_zero_iff (c : Config) (hbaud : 0 < c.uart.baud.toNat) :
    (c.clock.frequency.cyclesPer ⟨c.uart.baud.toUInt64⟩).getD 0 = 0
      ↔ bitHold c.clock.frequency c.uart.baud = 0 := by
  obtain ⟨cycles, hcycles, htoNat⟩ := cyclesPer_baud c.clock.frequency hbaud
  rw [hcycles, Option.getD_some, ← UInt64.toNat_inj, htoNat]
  rfl

/-- Validation accepts just what can be run. -/
lemma validate_eq_ok_iff {c : Config} : c.validate = .ok () ↔ c.Runnable := by
  constructor
  · intro h
    unfold validate at h
    split_ifs at h with hclock hbaud hfast hpath hpace
    have hpos : 0 < c.uart.baud.toNat := baud_ne_zero_iff.1 hbaud
    rw [c.cycles_getD_eq_zero_iff hpos] at hfast
    exact ⟨mt c.isZero_iff.2 hclock, hpos, Nat.pos_of_ne_zero hfast, Bool.eq_false_iff.2 hpath,
      hpace⟩
  · rintro ⟨hclock, hbaud, hhold, hpath, hpace⟩
    have hfast := mt (c.cycles_getD_eq_zero_iff hbaud).1 hhold.ne'
    rw [validate, if_neg (mt c.isZero_iff.1 hclock), if_neg (baud_ne_zero_iff.2 hbaud),
      if_neg hfast, if_neg (Bool.eq_false_iff.1 hpath), if_neg hpace]

/-- Validation blames the line rate if it is too fast for the clock and neither is zero. -/
lemma validate_of_too_fast {c : Config} (hclock : c.clock.frequency.hz ≠ 0)
    (hbaud : c.uart.baud ≠ 0) (hfast : bitHold c.clock.frequency c.uart.baud = 0) :
    c.validate = .error (.invalid "uart.baud" (toString c.uart.baud.toNat ++ " is too fast for a "
      ++ c.clock.frequency.toText ++ " clock")) := by
  have hcycles := (c.cycles_getD_eq_zero_iff (baud_ne_zero_iff.1 hbaud)).2 hfast
  rw [validate, if_neg (mt c.isZero_iff.1 hclock), if_neg hbaud, if_pos hcycles]

lemma Runnable.exists_period {c : Config} (h : c.Runnable) :
    ∃ period, BitPeriod.ofRates c.clock.frequency c.uart.baud = .ok period :=
  ⟨_, ofRates_eq h.baud_pos h.hold_pos⟩

end Config

/-! ## Setting up a bench -/

namespace Bench

variable {σ κ β : Type} [Dut σ]

/-- Why a bench could not be set up. -/
def setupError? (made : Except (BenchError × σ) (Bench σ (TraceSink κ) β) × Host) :
    Option BenchError :=
  match made.1 with
  | .ok _ => none
  | .error (e, _) => some e

/-- Whatever else goes wrong, a bench with these settings is not refused for the length of a bit. -/
def NoPeriodError (settings : BenchSettings) (dut : σ) : Prop :=
  ∀ (κ β : Type) (queue : Option ByteQueue) (producer : Producer) (host : Host) (hz baud : ℕ),
    setupError? (create settings queue producer host dut :
      Except (BenchError × σ) (Bench σ (TraceSink κ) β) × Host) ≠ some (.invalidBitPeriod hz baud)

lemma lineFor_ok {settings : BenchSettings} {period : BitPeriod}
    (h : BitPeriod.ofRates settings.clock settings.baud = .ok period) (queue : Option ByteQueue)
    (producer : Producer) : ∃ line, lineFor settings queue producer = .ok line := by
  cases queue with
  | none => exact ⟨none, rfl⟩
  | some queue =>
    rw [lineFor, h]
    exact ⟨_, rfl⟩

/-- With a bit period for its line, a bench is refused only if its trace cannot be started. -/
lemma setupError_of_rates {settings : BenchSettings} {period : BitPeriod}
    (h : BitPeriod.ofRates settings.clock settings.baud = .ok period) {queue : Option ByteQueue}
    {producer : Producer} {host : Host} {dut : σ} {e : BenchError}
    (he : setupError? (create settings queue producer host dut :
      Except (BenchError × σ) (Bench σ (TraceSink κ) β) × Host) = some e) :
    ∃ trace, settings.trace = some trace
      ∧ (TraceSink.start trace host dut : Except BenchError (TraceSink κ) × Host × σ).1
        = .error e := by
  obtain ⟨line, hline⟩ := lineFor_ok h queue producer
  rw [create, hline] at he
  cases htrace : settings.trace with
  | none =>
    rw [htrace] at he
    cases he
  | some trace =>
    refine ⟨trace, rfl, ?_⟩
    rw [htrace] at he
    rcases hstart : (TraceSink.start trace host dut : Except BenchError (TraceSink κ) × Host × σ)
      with ⟨_ | sink, host', dut'⟩
    · simp only [hstart] at he
      rw [← Option.some.inj he]
    · simp only [hstart] at he
      cases he

end Bench

/-- A trace that cannot be started for a reason that has nothing to do with files: the tracer of the
device has given it. -/
lemma TraceSink.start_error {σ κ : Type} [Dut σ] {trace : TraceSettings} {host : Host} {dut : σ}
    {e : BenchError} (hfile : ∀ path reason, e ≠ .traceOpen path reason)
    (h : (start trace host dut : Except BenchError (TraceSink κ) × Host × σ).1 = .error e) :
    (Dut.traceOpen trace.path trace.depth dut).1 = .error e := by
  unfold start at h
  split at h
  · -- a trace in a file of the host
    split at h
    · cases h
    · exact absurd (Except.error.inj h).symm (hfile _ _)
  · rcases hopen : Dut.traceOpen trace.path trace.depth dut with ⟨_ | _, dut'⟩
    · rw [hopen] at h
      exact congrArg Except.error (Except.error.inj h)
    · rw [hopen] at h
      cases h

/-- The built-in system has no tracer, and says so. -/
lemma Soc.traceOpen_ne (path : String) (depth : ℕ) (s : Soc) (hz baud : ℕ) :
    (Dut.traceOpen path depth s).1 ≠ .error (.invalidBitPeriod hz baud) := by
  intro h
  cases h

/-- A library has no tracer, or its tracer cannot open the file. -/
lemma LibraryDut.traceOpen_ne {ℓ : Type} (path : String) (depth : ℕ) (d : LibraryDut ℓ)
    (hz baud : ℕ) : (Dut.traceOpen path depth d).1 ≠ .error (.invalidBitPeriod hz baud) := by
  intro h
  change (LibraryDut.traceOpen path depth d).1 = _ at h
  unfold LibraryDut.traceOpen at h
  split_ifs at h
  · cases h
  · cases h
  · dsimp only at h
    split_ifs at h <;> cases h

namespace Cli

variable {i : Invocation} {c c' : Config}

lemma applyTo_eq_ok_iff :
    i.applyTo c = .ok c' ↔ (i.override c).validate = .ok () ∧ i.override c = c' := by
  rw [Invocation.applyTo]
  cases hvalid : (i.override c).validate with
  | error e => simp [Except.map]
  | ok _ => simp [Except.map]

lemma runnable_of_applyTo (h : i.applyTo c = .ok c') : c'.Runnable := by
  obtain ⟨hvalid, rfl⟩ := applyTo_eq_ok_iff.1 h
  exact Config.validate_eq_ok_iff.1 hvalid

/-- Rates without a bit period are refused with the options of the command line in place. -/
lemma applyTo_eq_error (hclock : (i.override c).clock.frequency.hz ≠ 0)
    (hbaud : (i.override c).uart.baud ≠ 0) {e : BenchError}
    (h : BitPeriod.ofRates (i.override c).clock.frequency (i.override c).uart.baud = .error e) :
    ∃ reason, i.applyTo c = .error (.invalid "uart.baud" reason) := by
  have hfast : bitHold (i.override c).clock.frequency (i.override c).uart.baud = 0 := by
    by_contra hhold
    rw [ofRates_eq (baud_ne_zero_iff.1 hbaud) (Nat.pos_of_ne_zero hhold)] at h
    cases h
  exact ⟨_, congrArg (Except.map fun _ => i.override c)
    (Config.validate_of_too_fast hclock hbaud hfast)⟩

lemma maxCycles_ne (c : Config) (trace : Bool) : (benchSettings c trace).maxCycles ≠ some 0 := by
  intro h
  simp only [benchSettings] at h
  split_ifs at h with hlimit
  exact hlimit (UInt64.toNat_inj.1 (Option.some.inj h))

lemma tckPeriod_ne (h : c.Runnable) {trace : Bool} {jtag : JtagSettings}
    (hjtag : (benchSettings c trace).jtag = some jtag) : jtag.tckPeriod ≠ 0 := by
  simp only [benchSettings] at hjtag
  split_ifs at hjtag
  intro hzero
  rw [← Option.some.inj hjtag] at hzero
  exact h.pace_ne (UInt32.toNat_inj.1 hzero)

/-- With settings that were accepted, only the tracer of a device could complain about the length of
a bit. -/
lemma noPeriodError {σ : Type} [Dut σ] (h : c.Runnable) (trace : Bool) {dut : σ}
    (hdut : ∀ path depth hz baud,
      (Dut.traceOpen path depth dut).1 ≠ .error (.invalidBitPeriod hz baud)) :
    Bench.NoPeriodError (benchSettings c trace) dut := by
  intro κ β queue producer host hz baud he
  obtain ⟨period, hperiod⟩ := h.exists_period
  obtain ⟨settings, -, hstart⟩ := Bench.setupError_of_rates hperiod he
  refine hdut settings.path settings.depth hz baud (TraceSink.start_error ?_ hstart)
  intro path reason hne
  cases hne

/-- Settings that were accepted are shown. -/
lemma check_of_ok {host : Host} (h : (i.configuration host.folder).bind i.applyTo = .ok c') :
    (check i host).exitCode = 0 ∧ (check i host).stderr = "" := by
  obtain ⟨c, -, hc⟩ : ∃ c, i.configuration host.folder = .ok c ∧ i.applyTo c = .ok c' := by
    cases hread : i.configuration host.folder with
    | error e =>
      rw [hread] at h
      cases h
    | ok c =>
      rw [hread] at h
      exact ⟨c, rfl, h⟩
  obtain ⟨period, hperiod⟩ := (runnable_of_applyTo hc).exists_period
  simp only [check, h, hperiod, and_self]

lemma check_of_error {host : Host} {e : ConfigError}
    (h : (i.configuration host.folder).bind i.applyTo = .error e) :
    check i host = failure host "" e.message := by
  simp only [check, h]

/-- Checking a configuration and deriving the length of a bit from it come to the same.  There is a
bit period just if the line rate is at least one and at most twice the clock, and then it is the
ratio rounded half up.  Neither the sums on the way nor the result are too large for their types,
and rounding adds at most one to the whole part.  Settings that were accepted therefore have a bit
period, no limit and no pace of zero, and no bench and no report on them fails for the length of a
bit.  If the rates are not zero and have no bit period, then the line rate is blamed. -/
theorem validation_matches_bit_period (clock rate : Frequency) (baud : UInt32) (i : Invocation)
    (c : Config) :
    ((∃ period, BitPeriod.ofRates clock baud = .ok period)
      ↔ 1 ≤ baud.toNat ∧ baud.toNat ≤ 2 * clock.hz.toNat)
    ∧ (∀ period, BitPeriod.ofRates clock baud = .ok period → ∀ p : ℤ,
      ((2 * p - 1) * baud.toNat ≤ 2 * clock.hz.toNat
        ∧ 2 * clock.hz.toNat < (2 * p + 1) * baud.toNat) ↔ p = period.edges)
    ∧ (rate.hz ≠ 0 → 2 * clock.hz.toNat + rate.hz.toNat < 2 ^ 128 ∧ 2 * rate.hz.toNat < 2 ^ 128
      ∧ ∃ rounded whole, clock.cyclesPer rate = some rounded
        ∧ clock.cyclesPerFloor rate = some whole
        ∧ (rounded.toNat = whole.toNat ∨ rounded.toNat = whole.toNat + 1))
    ∧ (∀ c', i.applyTo c = .ok c' →
      (∃ period, BitPeriod.ofRates c'.clock.frequency c'.uart.baud = .ok period)
      ∧ ∀ trace, (benchSettings c' trace).maxCycles ≠ some 0
        ∧ (∀ jtag, (benchSettings c' trace).jtag = some jtag → jtag.tckPeriod ≠ 0)
        ∧ (∀ soc : Soc, Bench.NoPeriodError (benchSettings c' trace) soc)
        ∧ (∀ (ℓ : Type) (dut : LibraryDut ℓ), Bench.NoPeriodError (benchSettings c' trace) dut)
        ∧ ∀ (σ : Type) [Dut σ] (dut : σ),
          (∀ path depth hz baud,
            (Dut.traceOpen path depth dut).1 ≠ .error (.invalidBitPeriod hz baud)) →
          Bench.NoPeriodError (benchSettings c' trace) dut)
    ∧ (∀ host,
      (∀ c', (i.configuration host.folder).bind i.applyTo = .ok c' →
        (check i host).exitCode = 0 ∧ (check i host).stderr = "")
      ∧ ∀ e, (i.configuration host.folder).bind i.applyTo = .error e →
        check i host = failure host "" e.message)
    ∧ ((i.override c).clock.frequency.hz ≠ 0 → (i.override c).uart.baud ≠ 0 →
      ∀ e, BitPeriod.ofRates (i.override c).clock.frequency (i.override c).uart.baud = .error e →
        ∃ reason, i.applyTo c = .error (.invalid "uart.baud" reason)) := by
  refine ⟨exists_ofRates_iff, ?_, ?_, ?_, ?_, ?_⟩
  · intro period hperiod p
    obtain ⟨hbaud, hedges⟩ := edges_of_ofRates hperiod
    rw [hedges]
    exact roundHalfUp_unique _ hbaud p
  · intro hrate
    have hpos : 0 < rate.hz.toNat := rate.hz_ne_zero_iff.1 hrate
    have hclock_lt := clock.hz.toNat_lt
    have hrate_lt := rate.hz.toNat_lt
    obtain ⟨rounded, hrounded, hrounded_eq⟩ := clock.cyclesPer_eq rate hpos
    obtain ⟨whole, hwhole, hwhole_eq⟩ := clock.cyclesPerFloor_eq rate hpos
    refine ⟨by omega, by omega, rounded, whole, hrounded, hwhole, ?_⟩
    rw [hrounded_eq, hwhole_eq]
    exact roundHalfUp_eq_or _ hpos
  · intro c' haccepted
    have hrun := runnable_of_applyTo haccepted
    refine ⟨hrun.exists_period, fun trace => ⟨maxCycles_ne c' trace,
      fun jtag hjtag => tckPeriod_ne hrun hjtag, fun soc => ?_, fun ℓ dut => ?_, ?_⟩⟩
    · exact noPeriodError hrun trace fun path depth => soc.traceOpen_ne path depth
    · exact noPeriodError hrun trace fun path depth => dut.traceOpen_ne path depth
    · intro σ _ dut hdut
      exact noPeriodError hrun trace hdut
  · exact fun host => ⟨fun c' hc => check_of_ok hc, fun e he => check_of_error he⟩
  · intro hclock hbaud e he
    exact applyTo_eq_error hclock hbaud he

/-- The board's own settings are accepted; three times as many bits as clock cycles are not. -/
theorem board_rates_accepted :
    (∃ period, BitPeriod.ofRates (({} : Config).clock.frequency) (({} : Config).uart.baud)
      = .ok period)
    ∧ ∃ reason, ({ verb := .run, clock := some ⟨1⟩, baud := some 3 } : Invocation).applyTo {}
      = .error (.invalid "uart.baud" reason) := by
  have haccepted : ({ verb := .run } : Invocation).applyTo {} = .ok {} := by rfl
  have hboard := validation_matches_bit_period ⟨1⟩ ⟨1⟩ 3 { verb := .run } {}
  have hfast := validation_matches_bit_period ⟨1⟩ ⟨1⟩ 3
    { verb := .run, clock := some ⟨1⟩, baud := some 3 } {}
  refine ⟨(hboard.2.2.2.1 _ haccepted).1, hfast.2.2.2.2.2 ?_ ?_ (.invalidBitPeriod 1 3) ?_⟩
  · decide
  · decide
  · rfl

end Cli

end SocBench
