import SocBench.Waveform.Sink

/-!
# A sink that keeps a log

The sink writes down what is asked of it.  From a chosen sample on it fails, and it can refuse to be
closed.
-/

namespace SocBench.Sample

/-- A logging sink: its name, the number of the first sample that fails, whether closing fails, how
many samples it was given, and its log, newest line first. -/
structure LogSink where
  name : String
  failAt : Option Nat := none
  closeFails : Bool := false
  dumps : Nat := 0
  log : List String := []

namespace LogSink

/-- Whether the next sample fails. -/
def failing (k : LogSink) : Bool :=
  match k.failAt with
  | some n => n ≤ k.dumps + 1
  | none => false

/-- Writes a line. -/
def note (k : LogSink) (line : String) : LogSink :=
  { k with log := (k.name ++ " " ++ line) :: k.log }

/-- Takes a sample. -/
def dump (k : LogSink) (tick : Tick) : Attempt LogSink :=
  let counted := { k with dumps := k.dumps + 1 }
  if k.failing then .failed (.waveform "disk full") (counted.note ("fail " ++ tick.toText))
  else .done (counted.note ("dump " ++ tick.toText))

/-- Ends the log. -/
def close (k : LogSink) : Attempt LogSink :=
  let k := k.note "close"
  if k.closeFails then .failed (.unsupported "close refused") k else .done k

end LogSink

instance {σ : Type} : Sink LogSink σ where
  dump k tick s := (k.dump tick).map (·, s)
  close k s := k.close.map (·, s)

end SocBench.Sample
