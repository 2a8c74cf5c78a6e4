import SocBench.Bus.RegisterBlock

/-!
# The interrupt controller

Eleven sources each have a line, an enable bit, a priority, a vector and an argument.  On request
the controller selects, among the sources whose line is high and whose bit is set, one of the
highest priority, the first of them in the order of the sources, and latches its vector and
argument for the core to read.
-/

namespace SocBench

namespace Plic

/-- The interrupt sources, in order. -/
inductive Source where
  | timer0
  | timer1
  | timer2
  | timer3
  | spi
  | i2c0
  | i2c1
  | uart0
  | uart1
  | gpio0
  | gpio1
  deriving DecidableEq

namespace Source

/-- All sources, in order. -/
def all : List Source :=
  [.timer0, .timer1, .timer2, .timer3, .spi, .i2c0, .i2c1, .uart0, .uart1, .gpio0, .gpio1]

/-- The number of a source. -/
def id : Source → Nat
  | .timer0 => 0
  | .timer1 => 1
  | .timer2 => 2
  | .timer3 => 3
  | .spi => 4
  | .i2c0 => 5
  | .i2c1 => 6
  | .uart0 => 7
  | .uart1 => 8
  | .gpio0 => 9
  | .gpio1 => 10

/-- How a source is named. -/
def name : Source → String
  | .timer0 => "Timer0"
  | .timer1 => "Timer1"
  | .timer2 => "Timer2"
  | .timer3 => "Timer3"
  | .spi => "Spi"
  | .i2c0 => "I2c0"
  | .i2c1 => "I2c1"
  | .uart0 => "Uart0"
  | .uart1 => "Uart1"
  | .gpio0 => "Gpio0"
  | .gpio1 => "Gpio1"

end Source

/-- How many sources there are. -/
def sources : Nat := 11

/-- The offset of the enable bits. -/
def enableOffset : Nat := 0x0000

/-- The offset of the latched vector. -/
def vectorOffset : Nat := 0x0100

/-- The offset of the latched argument. -/
def argumentOffset : Nat := 0x0104

/-- The offset of the priorities, a byte each. -/
def priorityTable : Nat := 0x1000

/-- The offset of the vectors, a word each. -/
def vectorTable : Nat := 0x2000

/-- The offset of the arguments, a word each. -/
def argumentTable : Nat := 0x3000

/-- The size of the block. -/
def size : Nat := 0x4000

end Plic

/-- The interrupt controller: its registers, the levels of the lines, and the selected source. -/
structure Plic where
  regs : RegisterBlock Plic.size
  lines : Vector Bool Plic.sources
  selected : Option Plic.Source

namespace Plic

/-- After reset everything is zero and nothing is selected. -/
def initial : Plic where
  regs := RegisterBlock.zero size
  lines := Vector.replicate sources false
  selected := none

/-- Sets the level of a line. -/
def setLine (p : Plic) (s : Source) (level : Bool) : Plic :=
  { p with lines := p.lines.setIfInBounds s.id level }

/-- Whether a line is high. -/
def isPending (p : Plic) (s : Source) : Bool :=
  p.lines[s.id]?.getD false

/-- The bit of a source in the enable word. -/
def sourceBit (s : Source) : UInt32 :=
  1 <<< UInt32.ofNat s.id

/-- Whether a source is enabled. -/
def isEnabled (p : Plic) (s : Source) : Bool :=
  p.regs.word enableOffset &&& sourceBit s != 0

/-- Enables a source. -/
def enable (p : Plic) (s : Source) : Plic :=
  { p with regs := p.regs.updateWord enableOffset 0 (sourceBit s) }

/-- Disables a source. -/
def disable (p : Plic) (s : Source) : Plic :=
  { p with regs := p.regs.updateWord enableOffset (sourceBit s) 0 }

/-- The priority of a source. -/
def priority (p : Plic) (s : Source) : UInt8 :=
  p.regs.byte (priorityTable + s.id)

/-- Sets the priority of a source. -/
def setPriority (p : Plic) (s : Source) (value : UInt8) : Plic :=
  { p with regs := p.regs.setByte (priorityTable + s.id) value }

/-- The vector of a source. -/
def vector (p : Plic) (s : Source) : UInt32 :=
  p.regs.word (vectorTable + 4 * s.id)

/-- The argument of a source. -/
def argument (p : Plic) (s : Source) : UInt32 :=
  p.regs.word (argumentTable + 4 * s.id)

/-- Sets the vector and the argument of a source. -/
def setHandler (p : Plic) (s : Source) (vector argument : UInt32) : Plic :=
  let regs := p.regs.setWord (vectorTable + 4 * s.id) vector
  { p with regs := regs.setWord (argumentTable + 4 * s.id) argument }

/-- The better of a source and the best one before it: a later source wins only by a higher
priority. -/
def better (p : Plic) (best : Option Source) (s : Source) : Option Source :=
  if p.isPending s && p.isEnabled s then
    match best with
    | none => some s
    | some b => if p.priority b < p.priority s then some s else some b
  else best

/-- The source to select. -/
def choose (p : Plic) : Option Source :=
  Source.all.foldl p.better none

/-- Selects a source and latches its vector and argument, zeros if there is none. -/
def update (p : Plic) : Plic :=
  let best := p.choose
  let vector := best.elim 0 p.vector
  let argument := best.elim 0 p.argument
  { p with
    regs := (p.regs.setWord vectorOffset vector).setWord argumentOffset argument
    selected := best }

/-- Whether a source is selected. -/
def interrupting (p : Plic) : Bool :=
  p.selected.isSome

/-- Whether an access may start at an offset.  Priorities may be accessed as bytes or words. -/
def isMapped (width : Width) (offset : Nat) : Bool :=
  if offset == enableOffset || offset == vectorOffset || offset == argumentOffset then
    width == .word
  else if priorityTable ≤ offset && offset < priorityTable + sources then true
  else if vectorTable ≤ offset && offset < vectorTable + 4 * sources then width == .word
  else if argumentTable ≤ offset && offset < argumentTable + 4 * sources then width == .word
  else false

/-- Reads a number from the bus. -/
def read (p : Plic) (width : Width) (offset : Nat) : Except BusError Nat :=
  if isMapped width offset then p.regs.read width offset else .error (.unmapped offset)

/-- Writes a byte from the bus. -/
def writeByte (p : Plic) (offset : Nat) (value : UInt8) : Access Plic Unit :=
  if isMapped .byte offset then
    (p.regs.write .byte offset value.toNat).map fun regs => { p with regs }
  else .refused (.unmapped offset) p

/-- Writes a word from the bus.  The latched words do not change, and the enable word keeps a bit
per source. -/
def writeWord (p : Plic) (offset : Nat) (value : UInt32) : Access Plic Unit :=
  if isMapped .word offset then
    if offset = vectorOffset ∨ offset = argumentOffset then .done () p
    else
      let value := if offset = enableOffset then value &&& 0x7FF else value
      (p.regs.write .word offset value.toNat).map fun regs => { p with regs }
  else .refused (.unmapped offset) p

end Plic

end SocBench
