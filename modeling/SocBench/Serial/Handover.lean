import SocBench.Serial.ByteQueue

/-!
# A queue with a producer at its door

When a queue is full, the producer of a byte waits until a byte is taken out or the queue is
closed.  A handover is a queue together with the byte that waits, of which there is at most one.
-/

namespace SocBench

/-- A queue and the byte that waits for room in it. -/
structure Handover where
  queue : ByteQueue
  waiting : Option UInt8 := none

/-- What became of a byte brought to a handover: it is in the queue or was turned away, it waits
for room, or it could not even wait because another byte does. -/
inductive Offer where
  | settled (accepted : Bool)
  | waiting
  | busy

namespace Handover

/-- Brings a byte. -/
def offer (h : Handover) (byte : UInt8) : Offer × Handover :=
  if h.waiting.isSome then (.busy, h)
  else
    match h.queue.push byte with
    | .accepted queue => (.settled true, { h with queue })
    | .refused => (.settled false, h)
    | .full => (.waiting, { h with waiting := some byte })

/-- Lets the waiting byte try again. If there was one and it no longer has to wait, the result says
whether it got in. -/
def retry (h : Handover) : Option Bool × Handover :=
  match h.waiting with
  | none => (none, h)
  | some byte =>
    match h.queue.push byte with
    | .accepted queue => (some true, ⟨queue, none⟩)
    | .refused => (some false, { h with waiting := none })
    | .full => (none, h)

/-- Takes the first byte, if there is one, after which a waiting byte may get in. -/
def pop (h : Handover) : Option UInt8 × Option Bool × Handover :=
  let (byte, queue) := h.queue.pop
  let (entered, h) := retry { h with queue }
  (byte, entered, h)

/-- Closes the queue, which turns a waiting byte away. -/
def close (h : Handover) : Option Bool × Handover :=
  retry { h with queue := h.queue.close }

end Handover

end SocBench
