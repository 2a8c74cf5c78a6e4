import SocBench.Bus.Error

/-!
# Accesses that may be refused

An access answers with a value or is refused, and either way it leaves a state.  Whether a refused
access has changed anything is a question about the device, so its state is there to be looked at.
-/

namespace SocBench

/-- What an access answered, and the state it left. -/
abbrev Access (σ α : Type) : Type :=
  Except BusError α × σ

namespace Access

variable {σ τ α β : Type}

/-- The access that answers with a value. -/
def done (a : α) (s : σ) : Access σ α :=
  (.ok a, s)

/-- The access that is refused. -/
def refused (e : BusError) (s : σ) : Access σ α :=
  (.error e, s)

/-- Goes on with the answer and the state if the access was not refused. -/
def andThen (x : Access σ α) (f : α → σ → Access σ β) : Access σ β :=
  match x with
  | (.ok a, s) => f a s
  | (.error e, s) => refused e s

/-- The same access seen on a larger state. -/
def map (f : σ → τ) (x : Access σ α) : Access τ α :=
  (x.1, f x.2)

@[simp]
theorem snd_done (a : α) (s : σ) : (done a s).2 = s :=
  rfl

@[simp]
theorem snd_refused (e : BusError) (s : σ) : (refused e s : Access σ α).2 = s :=
  rfl

@[simp]
theorem done_andThen (a : α) (s : σ) (f : α → σ → Access σ β) : (done a s).andThen f = f a s :=
  rfl

@[simp]
theorem refused_andThen (e : BusError) (s : σ) (f : α → σ → Access σ β) :
    (refused e s).andThen f = refused e s :=
  rfl

@[simp]
theorem map_done (f : σ → τ) (a : α) (s : σ) : (done a s).map f = done a (f s) :=
  rfl

@[simp]
theorem map_refused (f : σ → τ) (e : BusError) (s : σ) :
    (refused e s : Access σ α).map f = refused e (f s) :=
  rfl

/-- What an access and all that follows it keep. -/
theorem andThen_keeps {P : σ → Prop} {x : Access σ α} {f : α → σ → Access σ β} (hx : P x.2)
    (hf : ∀ a s, P s → P (f a s).2) : P (x.andThen f).2 := by
  obtain ⟨answer, s⟩ := x
  cases answer with
  | error e => exact hx
  | ok a => exact hf a s hx

end Access

end SocBench
