import SocBench.Fault

/-!
# Sample numbers

A tick numbers one sample of a waveform.  Ticks are handed out in order, starting at any 64-bit
number, and none is handed out twice: past the last one the counter refuses to move.
-/

namespace SocBench

/-- The number of the next sample. -/
structure Tick where
  value : UInt64
  deriving DecidableEq

namespace Tick

/-- The first tick. -/
def zero : Tick := ⟨0⟩

/-- A tick is written as a number sign and its number. -/
def toText (t : Tick) : String :=
  "#" ++ toString t.value.toNat

/-- Hands out the current tick and moves to the next one. -/
def advance (t : Tick) : Except Fault (Tick × Tick) :=
  if t.value.toNat + 1 < UInt64.size then .ok (t, ⟨t.value + 1⟩) else .error .addOverflow

/-- The tick handed out is the current one and the next is one larger. -/
theorem advance_eq_ok {t issued next : Tick} (h : t.advance = .ok (issued, next)) :
    issued = t ∧ next.value.toNat = t.value.toNat + 1 := by
  unfold advance at h
  split at h
  case isTrue hlt =>
    simp only [Except.ok.injEq, Prod.mk.injEq] at h
    obtain ⟨rfl, rfl⟩ := h
    refine ⟨rfl, ?_⟩
    rw [UInt64.size] at hlt
    rw [UInt64.toNat_add]
    simp only [UInt64.reduceToNat]
    omega
  case isFalse => simp at h

end Tick

end SocBench
