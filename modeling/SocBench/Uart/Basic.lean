import SocBench.Bus.RegisterBlock
import SocBench.Uart.Receiver

/-!
# The serial receiver and its registers

A receiver with a queue of sixteen bytes, seen by the bus through eight words.  One bit of the line
control word switches the first two of them to the divisor, which gives the length of a bit in
clock edges.  The line status word keeps a framing or overrun error until it is read.
-/

namespace SocBench

namespace Uart

/-- The offset of the receive and transmit data, and of the low divisor byte. -/
def dataOffset : Nat := 0x00

/-- The offset of the interrupt enable word, and of the high divisor byte. -/
def enableOffset : Nat := 0x04

/-- The offset of the interrupt cause when read, and of the queue control when written. -/
def queueOffset : Nat := 0x08

/-- The offset of the line control word. -/
def controlOffset : Nat := 0x0C

/-- The offset of the modem control word. -/
def modemOffset : Nat := 0x10

/-- The offset of the line status word. -/
def statusOffset : Nat := 0x14

/-- The offset of the modem status word. -/
def modemStatusOffset : Nat := 0x18

/-- The offset of the scratch word. -/
def scratchOffset : Nat := 0x1C

/-- The size of the block. -/
def size : Nat := 0x20

/-- Line status: a byte is waiting. -/
def dataReady : UInt32 := 0x01

/-- Line status: a byte was lost because the queue was full. -/
def overrunError : UInt32 := 0x02

/-- Line status: a frame had no stop bit. -/
def framingError : UInt32 := 0x08

/-- Line status: the transmitter is empty, which it always is. -/
def transmitterEmpty : UInt32 := 0x60

/-- Line status: both errors. -/
def lineErrors : UInt32 := 0x0A

/-- How many bytes the receive queue holds. -/
def queueDepth : Nat := 16

/-- How many waiting bytes raise an interrupt. -/
inductive Trigger where
  | one
  | four
  | eight
  | fourteen
  deriving DecidableEq

/-- The number of bytes of a trigger. -/
def Trigger.level : Trigger → Nat
  | .one => 1
  | .four => 4
  | .eight => 8
  | .fourteen => 14

/-- The trigger that bits 6 and 7 of the queue control word select. -/
def Trigger.ofControl (value : UInt32) : Trigger :=
  match (value >>> 6 &&& 3).toNat with
  | 0 => .one
  | 1 => .four
  | 2 => .eight
  | _ => .fourteen

end Uart

/-- A UART: its registers, the divisor, the receive queue, the receiver, and how many bytes it sent
and received. -/
structure Uart where
  regs : RegisterBlock Uart.size
  divisorLow : UInt8
  divisorHigh : UInt8
  trigger : Uart.Trigger
  queue : List UInt8
  receiver : Receiver
  sent : Nat
  received : Nat

namespace Uart

/-- Brings the line status up to date with the queue, keeping the errors. -/
def refreshStatus (u : Uart) : Uart :=
  let kept := u.regs.word statusOffset &&& lineErrors
  let ready := if u.queue.isEmpty then 0 else dataReady
  { u with regs := u.regs.setWord statusOffset (kept ||| transmitterEmpty ||| ready) }

/-- A UART with everything cleared but its counts. -/
def cleared (sent received : Nat) : Uart :=
  refreshStatus
    { regs := RegisterBlock.zero size, divisorLow := 0, divisorHigh := 0, trigger := .one
      queue := [], receiver := .idle, sent, received }

/-- A new UART. -/
def initial : Uart :=
  cleared 0 0

/-- Clears everything but the counts. -/
def reset (u : Uart) : Uart :=
  cleared u.sent u.received

/-- The divisor. -/
def divisor (u : Uart) : Nat :=
  u.divisorLow.toNat + 256 * u.divisorHigh.toNat

/-- The length of a bit in clock edges. -/
def bitCycles (u : Uart) : Nat :=
  u.divisor + 1

/-- Whether a divisor was set; without one the receiver stands still. -/
def isConfigured (u : Uart) : Bool :=
  u.divisor != 0

/-- The line status word. -/
def status (u : Uart) : UInt32 :=
  u.regs.word statusOffset

/-- Whether the first two words show the divisor. -/
def divisorShown (u : Uart) : Bool :=
  u.regs.word controlOffset &&& 0x80 != 0

/-- Whether enough bytes wait for an interrupt that is enabled. -/
def dataInterrupt (u : Uart) : Bool :=
  u.regs.word enableOffset &&& 0x01 != 0 && u.trigger.level ≤ u.queue.length

/-- Whether a line error waits for an interrupt that is enabled. -/
def errorInterrupt (u : Uart) : Bool :=
  u.regs.word enableOffset &&& 0x04 != 0 && u.status &&& lineErrors != 0

/-- Whether the UART interrupts. -/
def interrupting (u : Uart) : Bool :=
  u.dataInterrupt || u.errorInterrupt

/-- The interrupt cause word. -/
def cause (u : Uart) : UInt32 :=
  if u.errorInterrupt then 0xC6 else if u.dataInterrupt then 0xC4 else 0xC1

/-- Reads a word.  Reading data takes a byte off the queue, zero if there is none, and reading the
line status clears its errors. -/
def read (u : Uart) (offset : Nat) : Access Uart UInt32 :=
  if offset = dataOffset then
    if u.divisorShown then .done u.divisorLow.toUInt32 u
    else .done (u.queue.headD 0).toUInt32 (refreshStatus { u with queue := u.queue.tail })
  else if offset = enableOffset ∧ u.divisorShown then .done u.divisorHigh.toUInt32 u
  else if offset = queueOffset then .done u.cause u
  else if offset = statusOffset then
    .done u.status { u with regs := u.regs.updateWord statusOffset lineErrors 0 }
  else if offset = enableOffset ∨ offset = controlOffset ∨ offset = modemOffset
      ∨ offset = modemStatusOffset ∨ offset = scratchOffset then
    .done (u.regs.word offset) u
  else .refused (.unmapped offset) u

/-- Writes a word.  The two status words do not change. -/
def write (u : Uart) (offset : Nat) (value : UInt32) : Access Uart Unit :=
  if offset = dataOffset then
    if u.divisorShown then .done () { u with divisorLow := value.toUInt8 }
    else .done () { u with sent := u.sent + 1 }
  else if offset = enableOffset then
    if u.divisorShown then .done () { u with divisorHigh := value.toUInt8 }
    else .done () { u with regs := u.regs.setWord enableOffset (value &&& 0x0F) }
  else if offset = queueOffset then
    .done () (refreshStatus
      { u with queue := if value &&& 0x02 != 0 then [] else u.queue
               trigger := .ofControl value })
  else if offset = controlOffset ∨ offset = modemOffset ∨ offset = scratchOffset then
    .done () { u with regs := u.regs.setWord offset (value &&& 0xFF) }
  else if offset = statusOffset ∨ offset = modemStatusOffset then .done () u
  else .refused (.unmapped offset) u

/-- Sets an error in the line status. -/
def flag (u : Uart) (error : UInt32) : Uart :=
  { u with regs := u.regs.updateWord statusOffset 0 error }

/-- Takes a complete frame: without a stop bit or room in the queue it is only an error. -/
def accept (u : Uart) (byte : UInt8) (stop : Bool) : Uart × Option UInt8 :=
  if !stop then (u.flag framingError, none)
  else if queueDepth ≤ u.queue.length then (u.flag overrunError, none)
  else
    (refreshStatus { u with queue := u.queue ++ [byte], received := u.received + 1 }, some byte)

/-- One clock edge with a level on the line.  The result is the byte that arrived, if one did. -/
def clock (u : Uart) (rx : Bool) : Uart × Option UInt8 :=
  if u.isConfigured then
    match u.receiver.step u.bitCycles rx with
    | (receiver, none) => ({ u with receiver }, none)
    | (receiver, some (byte, stop)) => accept { u with receiver } byte stop
  else (u, none)

end Uart

end SocBench
