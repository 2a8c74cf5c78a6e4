import SocBench.Serial.BitPeriod
import SocBench.Serial.ByteQueue

/-!
# Frames on the serial line

A byte goes over the line as a frame of ten bits: a low start bit, the eight bits of the byte with
the lowest first, and a high stop bit.  Every bit is held for one bit period, and between frames
the line is high.
-/

namespace SocBench

/-- How many bits a frame has. -/
def frameBits : Nat := 10

/-- The bits of the frame of a byte, the first bit of the frame lowest. -/
def frameOf (byte : UInt8) : Nat :=
  512 + 2 * byte.toNat

/-- Where the encoder stands: between frames, or at a tick of a bit of a frame. -/
inductive FrameState where
  | idle
  | sending (frame bit tick : Nat)
  deriving DecidableEq

/-- The encoder that drives the line. -/
structure FrameEncoder where
  period : BitPeriod
  state : FrameState := .idle
  level : Bool := true
  started : Nat := 0
  completed : Nat := 0

namespace FrameEncoder

/-- Whether no frame is on the line. -/
def isIdle (e : FrameEncoder) : Bool :=
  e.state == .idle

/-- Starts a frame if none is on the line and there is a byte for it. -/
def load (e : FrameEncoder) (offer : Option UInt8) : FrameEncoder :=
  match e.state, offer with
  | .idle, some byte => { e with state := .sending (frameOf byte) 0 0, started := e.started + 1 }
  | _, _ => e

/-- One tick of the frame on the line.  The level changes on the first tick of a bit. -/
def shift (e : FrameEncoder) : FrameEncoder :=
  match e.state with
  | .idle => e
  | .sending frame bit tick =>
    let level := if tick = 0 then frame.testBit bit else e.level
    if tick + 1 < e.period.edges then { e with state := .sending frame bit (tick + 1), level }
    else if bit + 1 < frameBits then { e with state := .sending frame (bit + 1) 0, level }
    else { e with state := .idle, level := true, completed := e.completed + 1 }

/-- One tick with a byte on offer, if one is wanted; the level of the result is what the line shows
until the next tick. -/
def tick (e : FrameEncoder) (offer : Option UInt8) : FrameEncoder :=
  (e.load offer).shift

/-- One tick fed from a source of bytes.  The source is asked only between frames, and only if a
byte is said to be pending; it may have none all the same. -/
def tickAsking {σ : Type} (e : FrameEncoder) (pending : Bool) (pop : σ → Option UInt8 × σ) (s : σ) :
    FrameEncoder × σ :=
  if e.isIdle && pending then
    let (byte, s) := pop s
    (e.tick byte, s)
  else (e.tick none, s)

/-- One tick fed from a queue. A byte leaves the queue when its frame starts. -/
def tickFrom (e : FrameEncoder) (q : ByteQueue) : FrameEncoder × ByteQueue :=
  e.tickAsking q.hasPending ByteQueue.pop q

/-- Asking an empty queue would do nothing, so only frames matter. -/
theorem tickFrom_eq (e : FrameEncoder) (q : ByteQueue) :
    e.tickFrom q = if e.isIdle then (e.tick q.pop.1, q.pop.2) else (e.tick none, q) := by
  cases hidle : e.isIdle with
  | false => simp [tickFrom, tickAsking, hidle]
  | true =>
    cases hq : q.contents <;>
      simp [tickFrom, tickAsking, hidle, ByteQueue.hasPending, ByteQueue.isEmpty, ByteQueue.pop, hq]

end FrameEncoder

end SocBench
