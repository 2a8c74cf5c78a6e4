import SocBench.Bench.Error
import SocBench.Frequency.Basic

/-!
# The length of a bit

A bit on the serial line is held for a whole number of rising clock edges, at least one.
-/

namespace SocBench

/-- A number of rising clock edges that is not zero. -/
structure BitPeriod where
  edges : Nat
  pos : 0 < edges

namespace BitPeriod

/-- The period of the given number of edges, none if it is zero. -/
def ofEdges? (edges : Nat) : Option BitPeriod :=
  if pos : 0 < edges then some ⟨edges, pos⟩ else none

/-- The period that a clock gives to a line rate: the ratio of the two, rounded, a half up. -/
def ofRates (clock : Frequency) (baud : UInt32) : Except BenchError BitPeriod :=
  match (clock.cyclesPer ⟨baud.toUInt64⟩).bind (ofEdges? ·.toNat) with
  | some period => .ok period
  | none => .error (.invalidBitPeriod clock.hz.toNat baud.toNat)

end BitPeriod

end SocBench
