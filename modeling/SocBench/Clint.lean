import SocBench.Bus.RegisterBlock

/-!
# The core timer

The timer has a 64-bit counter of clock edges, a 64-bit number to compare it with, and one bit that
software sets to interrupt itself.  The bus sees them as five words.
-/

namespace SocBench

namespace Clint

/-- The offset of the software interrupt bit. -/
def msipOffset : Nat := 0x0000

/-- The offset of the number to compare with. -/
def mtimecmpOffset : Nat := 0x4000

/-- The offset of the counter. -/
def mtimeOffset : Nat := 0xBFF8

/-- The size of the block. -/
def size : Nat := 0xC000

end Clint

/-- The core timer. -/
structure Clint where
  regs : RegisterBlock Clint.size

namespace Clint

/-- After reset the counter stands at zero and the number to compare with at its largest. -/
def initial : Clint :=
  ⟨(RegisterBlock.zero size).poke 8 mtimecmpOffset (UInt64.size - 1)⟩

/-- The counter. -/
def mtime (c : Clint) : UInt64 :=
  UInt64.ofNat (c.regs.peek 8 mtimeOffset)

/-- The number to compare with. -/
def mtimecmp (c : Clint) : UInt64 :=
  UInt64.ofNat (c.regs.peek 8 mtimecmpOffset)

/-- Counts one edge; after the largest number comes zero. -/
def tick (c : Clint) : Clint :=
  let next := c.mtime + 1
  ⟨c.regs.poke 8 mtimeOffset next.toNat⟩

/-- Whether the counter has reached the number to compare with. -/
def timerPending (c : Clint) : Bool :=
  c.mtimecmp ≤ c.mtime

/-- Whether software has asked to be interrupted. -/
def softwarePending (c : Clint) : Bool :=
  c.regs.word msipOffset &&& 1 != 0

/-- Whether an offset lies in one of the five words. -/
def isMapped (offset : Nat) : Bool :=
  let word := offset - offset % 4
  word == msipOffset
    || (mtimecmpOffset ≤ word && word < mtimecmpOffset + 8)
    || (mtimeOffset ≤ word && word < mtimeOffset + 8)

/-- Reads a word. -/
def read (c : Clint) (offset : Nat) : Except BusError UInt32 :=
  if isMapped offset then (c.regs.read .word offset).map UInt32.ofNat
  else .error (.unmapped offset)

/-- Writes a word. The software interrupt keeps one bit. -/
def write (c : Clint) (offset : Nat) (value : UInt32) : Access Clint Unit :=
  if isMapped offset then
    let value := if offset = msipOffset then value &&& 1 else value
    (c.regs.write .word offset value.toNat).map Clint.mk
  else .refused (.unmapped offset) c

end Clint

end SocBench
