import SocBench.Clint
import SocBench.Plic

/-!
# The memory map

Eight peripherals share one range of the address space in slots of equal size; the two interrupt
controllers have ranges of their own.  Every other address belongs to no device.
-/

namespace SocBench

/-- The devices on the bus. -/
inductive Region where
  | pwm
  | spi0
  | i2c0
  | i2c1
  | uart0
  | uart1
  | gpio0
  | gpio1
  | clint
  | plic
  deriving DecidableEq

namespace Region

/-- How a device is named. -/
def name : Region → String
  | .pwm => "Pwm"
  | .spi0 => "Spi0"
  | .i2c0 => "I2c0"
  | .i2c1 => "I2c1"
  | .uart0 => "Uart0"
  | .uart1 => "Uart1"
  | .gpio0 => "Gpio0"
  | .gpio1 => "Gpio1"
  | .clint => "Clint"
  | .plic => "Plic"

/-- The devices that share the peripheral range, by slot. -/
def slots : List Region :=
  [.pwm, .spi0, .i2c0, .i2c1, .uart0, .uart1, .gpio0, .gpio1]

/-- Where the peripheral range starts. -/
def peripheralBase : Nat := 0x84000000

/-- The size of a slot. -/
def slotSize : Nat := 0x1000

/-- Where the core timer stands. -/
def clintBase : Nat := 0x02000000

/-- Where the interrupt controller stands. -/
def plicBase : Nat := 0x0C000000

/-- The device in a slot, and the offset in it. -/
def inSlot? (address : Nat) : Option (Region × Nat) :=
  if peripheralBase ≤ address then
    let offset := address - peripheralBase
    slots[offset / slotSize]?.map (·, offset % slotSize)
  else none

/-- The device in a range of its own, and the offset in it. -/
def inRange? (region : Region) (base size address : Nat) : Option (Region × Nat) :=
  if base ≤ address ∧ address < base + size then some (region, address - base) else none

/-- The device that an address belongs to, and the offset in it. -/
def decode (address : Nat) : Option (Region × Nat) :=
  (inSlot? address).or
    ((inRange? .clint clintBase Clint.size address).or
      (inRange? .plic plicBase Plic.size address))

end Region

end SocBench
