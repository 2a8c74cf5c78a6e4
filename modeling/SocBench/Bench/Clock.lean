import SocBench.Bench.Phase
import SocBench.Dut.Basic

/-!
# Clock and reset

The clock of a device is toggled one level at a time, and the device is evaluated after every
toggle.  The reset sequence holds the device in reset for some toggles, releases it, and lets it
warm up for some more; whoever watches is called after each of them and may stop it.
-/

namespace SocBench

/-- The two kinds of clock toggles. -/
inductive Edge where
  | rising
  | falling
  deriving DecidableEq

/-- How often the clock was toggled, and how often it rose. -/
structure Clock where
  toggles : Nat := 0
  risingEdges : Nat := 0

variable {σ ρ : Type} [Dut σ]

/-- Puts the pins of a device to rest and evaluates it. -/
def powerOn (s : σ) : σ :=
  Dut.eval (Dut.setUartRx true (Dut.setRstN false (Dut.setClk false s)))

namespace Clock

/-- Toggles the clock of a device. -/
def step (c : Clock) (s : σ) : Edge × Clock × σ :=
  let level := !Dut.clk s
  let s := Dut.eval (Dut.setClk level s)
  if level then (.rising, ⟨c.toggles + 1, c.risingEdges + 1⟩, s)
  else (.falling, { c with toggles := c.toggles + 1 }, s)

/-- Some toggles in a phase, each followed by a call of the watcher. -/
def hold (watch : Phase → σ × ρ → Attempt (σ × ρ)) (phase : Phase) :
    Nat → Clock → σ × ρ → Attempt (Clock × σ × ρ)
  | 0, c, s => .done (c, s)
  | n + 1, c, (s, r) =>
    let (_, c, s) := c.step s
    match watch phase (s, r) with
    | (.ok _, s) => hold watch phase n c s
    | (.error e, s) => .failed e (c, s)

/-- Holds the device in reset, releases it, and lets it warm up. -/
def resetSequence (watch : Phase → σ × ρ → Attempt (σ × ρ)) (resetToggles warmupToggles : Nat)
    (c : Clock) (s : σ × ρ) : Attempt (Clock × σ × ρ) :=
  match hold watch .resetting resetToggles c (Dut.setRstN false s.1, s.2) with
  | (.ok _, c, s, r) => hold watch .warmingUp warmupToggles c (Dut.eval (Dut.setRstN true s), r)
  | (.error e, s) => .failed e s

end Clock

end SocBench
