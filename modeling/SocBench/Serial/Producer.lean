import SocBench.Serial.ByteQueue

/-!
# Filling the queue from an input

A producer reads an input one byte at a time and puts each byte into the queue.  A read that was
only interrupted is tried again; any other failure counts as the end of the input.  While the queue
is full the producer waits with its byte, and when it is done it closes the queue.
-/

namespace SocBench

/-- What one read from an input gives. -/
inductive ReadOutcome where
  | byte (value : UInt8)
  | interrupted
  | failed
  | ended
  deriving DecidableEq

/-- A producer: the reads still to come, the number of bytes the queue has taken, and whether it is
done. When no reads are left the input has ended. -/
structure Producer where
  script : List ReadOutcome
  pushed : Nat := 0
  done : Bool := false

namespace Producer

/-- A producer of the given bytes. -/
def ofBytes (bytes : List UInt8) : Producer :=
  { script := bytes.map .byte }

/-- A producer with nothing to do, which leaves the queue as it is. -/
def silent : Producer :=
  { script := [], done := true }

/-- Ends the production and closes the queue. -/
def finish (p : Producer) (q : ByteQueue) : Producer × ByteQueue :=
  ({ p with done := true }, q.close)

/-- Whether the producer holds a byte for which the queue has no room. -/
def isBlocked (p : Producer) (q : ByteQueue) : Bool :=
  match p.script with
  | .byte _ :: _ => !p.done && !q.closed && q.isFull
  | _ => false

/-- One read and, if it gave a byte, its way into the queue. Nothing happens while the producer
waits for room, or once it is done. -/
def step (p : Producer) (q : ByteQueue) : Producer × ByteQueue :=
  if p.done then (p, q)
  else
    match p.script with
    | .byte value :: rest =>
      match q.push value with
      | .accepted q => ({ p with script := rest, pushed := p.pushed + 1 }, q)
      | .refused => p.finish q
      | .full => (p, q)
    | .interrupted :: rest => ({ p with script := rest }, q)
    | .failed :: _ | .ended :: _ | [] => p.finish q

/-- Some steps; they stop early when nothing more can happen. -/
def advance : Nat → Producer → ByteQueue → Producer × ByteQueue
  | 0, p, q => (p, q)
  | n + 1, p, q =>
    if p.done || p.isBlocked q then (p, q)
    else
      let (p, q) := p.step q
      advance n p q

/-- Enough steps for the producer to end or to wait. -/
def steps (p : Producer) : Nat :=
  p.script.length + 1

/-- Runs the producer until it is done or must wait for room. -/
def settle (p : Producer) (q : ByteQueue) : Producer × ByteQueue :=
  advance p.steps p q

/-- Runs the producer and a consumer that takes bytes whenever there are any, until `limit` bytes
are taken or the queue has run dry. The result has the bytes that were taken. -/
def drain : (limit : Nat) → Producer → ByteQueue → List UInt8 × Producer × ByteQueue
  | 0, p, q =>
    let (p, q) := p.settle q
    ([], p, q)
  | limit + 1, p, q =>
    let (p, q) := p.settle q
    match q.pop with
    | (none, q) => ([], p, q)
    | (some byte, q) =>
      let (rest, p, q) := drain limit p q
      (byte :: rest, p, q)

end Producer

end SocBench
