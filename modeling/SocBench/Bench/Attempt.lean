import SocBench.Bench.Error

/-!
# Attempts

An attempt changes a state and may fail on the way.  The state survives a failure as it was when
the attempt stopped, because what was done until then, a file half written or a device half driven,
can still be seen.
-/

namespace SocBench

/-- Whether an attempt succeeded, and the state it left. -/
abbrev Attempt (α : Type) : Type :=
  Except BenchError Unit × α

namespace Attempt

variable {α β : Type}

/-- The attempt that succeeds with a state. -/
def done (a : α) : Attempt α :=
  (.ok (), a)

/-- The attempt that fails and leaves a state. -/
def failed (e : BenchError) (a : α) : Attempt α :=
  (.error e, a)

/-- Goes on with the state if the attempt succeeded. -/
def andThen (x : Attempt α) (f : α → Attempt α) : Attempt α :=
  match x with
  | (.ok _, a) => f a
  | (.error e, a) => (.error e, a)

/-- The same attempt seen on a larger state. -/
def map (f : α → β) (x : Attempt α) : Attempt β :=
  (x.1, f x.2)

@[simp]
theorem done_andThen (a : α) (f : α → Attempt α) : (done a).andThen f = f a :=
  rfl

@[simp]
theorem failed_andThen (e : BenchError) (a : α) (f : α → Attempt α) :
    (failed e a).andThen f = failed e a :=
  rfl

@[simp]
theorem map_done (f : α → β) (a : α) : (done a).map f = done (f a) :=
  rfl

@[simp]
theorem map_failed (f : α → β) (e : BenchError) (a : α) : (failed e a).map f = failed e (f a) :=
  rfl

/-- An attempt either succeeds or fails. -/
theorem eq_done_or_failed (x : Attempt α) : x = done x.2 ∨ ∃ e, x = failed e x.2 := by
  match x with
  | (.ok _, _) => exact .inl rfl
  | (.error e, _) => exact .inr ⟨e, rfl⟩

end Attempt

end SocBench
