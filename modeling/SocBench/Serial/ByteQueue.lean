/-!
# The queue in front of the serial line

Bytes wait here, first in, first out, until the line is free.  A bounded queue takes no byte while
it is full, and a closed queue takes none at all, but what is in it can still be taken out.
-/

namespace SocBench

/-- Bytes in the order of their arrival. Without a capacity there is no bound. -/
structure ByteQueue where
  contents : List UInt8 := []
  capacity : Option Nat := none
  closed : Bool := false

/-- What became of a byte offered to a queue: it was taken, it was turned away for good, or there
is no room for it now. -/
inductive PushOutcome where
  | accepted (queue : ByteQueue)
  | refused
  | full

namespace ByteQueue

/-- An empty queue without a bound. -/
def unbounded : ByteQueue := {}

/-- An empty queue that holds `depth` bytes, and at least one. -/
def bounded (depth : Nat) : ByteQueue :=
  { capacity := some (max depth 1) }

/-- An empty queue of a depth, where zero is no bound. -/
def ofDepth (depth : Nat) : ByteQueue :=
  if depth = 0 then unbounded else bounded depth

/-- How many bytes wait. -/
def size (q : ByteQueue) : Nat :=
  q.contents.length

/-- Whether no byte waits. -/
def isEmpty (q : ByteQueue) : Bool :=
  q.contents.isEmpty

/-- Whether a byte waits. -/
def hasPending (q : ByteQueue) : Bool :=
  !q.isEmpty

/-- Whether as many bytes wait as the queue may hold. -/
def isFull (q : ByteQueue) : Bool :=
  match q.capacity with
  | some capacity => capacity ≤ q.size
  | none => false

/-- Offers a byte. A closed queue turns it away whether or not there is room. -/
def push (q : ByteQueue) (byte : UInt8) : PushOutcome :=
  if q.closed then .refused
  else if q.isFull then .full
  else .accepted { q with contents := q.contents ++ [byte] }

/-- Offers bytes in order; one that is not taken is dropped. -/
def pushAll (q : ByteQueue) (bytes : List UInt8) : ByteQueue :=
  bytes.foldl (fun q byte =>
    match q.push byte with
    | .accepted q => q
    | _ => q) q

/-- Takes the first byte, if there is one. -/
def pop (q : ByteQueue) : Option UInt8 × ByteQueue :=
  match q.contents with
  | [] => (none, q)
  | byte :: rest => (some byte, { q with contents := rest })

/-- Closes the queue. -/
def close (q : ByteQueue) : ByteQueue :=
  { q with closed := true }

/-! ## The contents after an operation -/

/-- Nothing is lost by taking a byte: it stood in front of what is left. -/
theorem contents_pop (q : ByteQueue) :
    q.pop.1.toList ++ q.pop.2.contents = q.contents := by
  unfold pop
  split <;> simp_all

/-- A byte that is taken in stands behind what was there. -/
theorem contents_of_push {q r : ByteQueue} {byte : UInt8} (h : q.push byte = .accepted r) :
    r.contents = q.contents ++ [byte] := by
  unfold push at h
  split at h
  case isTrue => cases h
  case isFalse =>
    split at h
    case isTrue => cases h
    case isFalse => cases h; rfl

/-- Closing keeps the contents. -/
@[simp]
theorem contents_close (q : ByteQueue) : q.close.contents = q.contents :=
  rfl

end ByteQueue

end SocBench
