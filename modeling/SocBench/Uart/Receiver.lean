/-!
# The receiver of a serial line

The receiver watches the line once per clock edge.  A low level starts a frame; half a bit later
the line must still be low, and from there the eight data bits and the stop bit are sampled a whole
bit apart.
-/

namespace SocBench

/-- What the receiver is waiting for, and how many edges it has counted. -/
inductive Receiver where
  | idle
  | start (count : Nat)
  | data (bit shift count : Nat)
  | stop (shift count : Nat)
  deriving DecidableEq

namespace Receiver

/-- One clock edge with a bit of `n` edges.  At the end of a frame the result is the byte and the
level of its stop bit. -/
def step (n : Nat) (r : Receiver) (rx : Bool) : Receiver × Option (UInt8 × Bool) :=
  match r with
  | .idle => (if rx then .idle else .start 1, none)
  | .start count =>
    if n / 2 ≤ count then (if rx then .idle else .data 0 0 1, none) else (.start (count + 1), none)
  | .data bit shift count =>
    if n ≤ count then
      let shift := shift ||| (rx.toNat <<< bit)
      (if bit = 7 then .stop shift 1 else .data (bit + 1) shift 1, none)
    else (.data bit shift (count + 1), none)
  | .stop shift count =>
    if n ≤ count then (.idle, some (UInt8.ofNat shift, rx)) else (.stop shift (count + 1), none)

end Receiver

end SocBench
