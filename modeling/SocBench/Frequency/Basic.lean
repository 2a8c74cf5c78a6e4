import SocBench.Fault
import SocBench.Numeral.Rounding
import SocBench.Numeral.Shortest

/-!
# Frequencies

A frequency is a whole number of hertz in 64 bits.  It is shown in the largest of the units GHz,
MHz, KHz and Hz that it reaches, and the ratio of two frequencies gives the clock cycles that one
period of the slower one lasts.
-/

namespace SocBench

/-- A whole number of hertz. -/
structure Frequency where
  hz : UInt64
  deriving DecidableEq

/-- The units a frequency is written in. -/
inductive FrequencyUnit where
  | hz
  | khz
  | mhz
  | ghz
  deriving DecidableEq

namespace FrequencyUnit

/-- How many hertz a unit is. -/
def scale : FrequencyUnit → Nat
  | .hz => 1
  | .khz => 1000
  | .mhz => 1000000
  | .ghz => 1000000000

/-- How a unit is written. -/
def symbol : FrequencyUnit → String
  | .hz => "Hz"
  | .khz => "KHz"
  | .mhz => "MHz"
  | .ghz => "GHz"

end FrequencyUnit

namespace Frequency

/-- A frequency given in megahertz, if it fits. -/
def ofMHz (mhz : UInt64) : Except Fault Frequency :=
  if mhz.toNat * 1000000 < UInt64.size then .ok ⟨UInt64.ofNat (mhz.toNat * 1000000)⟩
  else .error .multiplyOverflow

/-- Whether the frequency is zero. -/
def isZero (f : Frequency) : Bool :=
  f.hz == 0

/-- The double nearest to the frequency in a unit. -/
def inUnit (f : Frequency) (unit : FrequencyUnit) : Binary64 :=
  (Binary64.ofNat f.hz.toNat).div (Binary64.ofNat unit.scale)

/-- The largest unit that the frequency reaches. -/
def displayUnit (f : Frequency) : FrequencyUnit :=
  if FrequencyUnit.ghz.scale ≤ f.hz.toNat then .ghz
  else if FrequencyUnit.mhz.scale ≤ f.hz.toNat then .mhz
  else if FrequencyUnit.khz.scale ≤ f.hz.toNat then .khz
  else .hz

/-- The text of a frequency: the shortest number in its display unit. -/
def toText (f : Frequency) : String :=
  let unit := f.displayUnit
  (match unit with
    | .hz => toString f.hz.toNat
    | _ => (f.inUnit unit).toText) ++ unit.symbol

/-- The text of a frequency that says what it is. -/
def toDebugText (f : Frequency) : String :=
  "Frequency(" ++ f.toText ++ ")"

/-- How many cycles of `clock` one period of `rate` lasts, rounded, a half up; none for a rate of
zero. -/
def cyclesPer (clock rate : Frequency) : Option UInt64 :=
  if rate.hz = 0 then none
  else
    let cycles := roundHalfUp clock.hz.toNat rate.hz.toNat
    if cycles < UInt64.size then some (UInt64.ofNat cycles) else none

/-- How many whole cycles of `clock` fit into one period of `rate`; none for a rate of zero. -/
def cyclesPerFloor (clock rate : Frequency) : Option UInt64 :=
  if rate.hz = 0 then none else some (clock.hz / rate.hz)

end Frequency

end SocBench
