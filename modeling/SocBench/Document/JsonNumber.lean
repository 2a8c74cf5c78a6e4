import SocBench.Document.Shape
import SocBench.Numeral.Reading

/-!
# Numbers in JSON text

A number has no zero in front of other digits.  One without fraction and exponent that fits a 64-bit
word is an integer.  Every other number is a double: its leading digits that fit 64 bits are taken
as a whole number, and that number is multiplied or divided once by the power of ten that puts the
point in its place.
-/

namespace SocBench.JsonNumber

/-- The largest whole number that is kept exactly. -/
def wordMax : Nat := UInt64.size - 1

/-- The digits read so far, and the power of ten they stand at. -/
structure Digits where
  significand : Nat
  exponent : Int

/-- Takes the digits before the point.  Once one does not fit, it and those after it only move the
point. -/
def takeWhole : Digits → List Char → Digits
  | d, [] => d
  | d, c :: rest =>
    if d.exponent = 0 ∧ d.significand * 10 + digitValue c ≤ wordMax then
      takeWhole ⟨d.significand * 10 + digitValue c, 0⟩ rest
    else ⟨d.significand, d.exponent + (rest.length + 1)⟩

/-- Takes the digits after the point.  From the first one that does not fit, all are dropped. -/
def takeFraction : Digits → List Char → Digits
  | d, [] => d
  | d, c :: rest =>
    if d.significand * 10 + digitValue c ≤ wordMax then
      takeFraction ⟨d.significand * 10 + digitValue c, d.exponent - 1⟩ rest
    else d

/-- The double nearest to a power of ten. -/
def powerOfTen (n : Nat) : Binary64 :=
  Binary64.ofNat (Nat.pow 10 n)

/-- Divides by `10 ^ 308` until the exponent is within a table of 308 powers.  A significand of 64
bits is zero after three such divisions. -/
def divideDown : Nat → Binary64 → Nat → Binary64
  | 0, value, _ => value
  | rounds + 1, value, places =>
    if places ≤ 308 then value.div (powerOfTen places)
    else divideDown rounds (value.div (powerOfTen 308)) (places - 308)

/-- Puts the point in its place; none if the number is too large for a double. -/
def toBinary64? (d : Digits) : Option Binary64 :=
  let value := Binary64.ofNat d.significand
  if d.significand = 0 then some value
  else if 0 ≤ d.exponent then
    if 308 < d.exponent then none
    else
      match value.mul (powerOfTen d.exponent.toNat) with
      | .infinite _ => none
      | product => some product
  else some (divideDown 4 value (-d.exponent).toNat)

/-- A whole number with its sign.  Minus zero, and what is below the least 64-bit integer, are
doubles. -/
def whole (negative : Bool) (n : Nat) : Shape :=
  if !negative then .integer n
  else if n = 0 ∨ 0x8000000000000000 < n then .float (Binary64.ofNat n).neg
  else .integer (-(n : Int))

/-- Reads a JSON number; none if it is malformed or too large. -/
def read? (cs : List Char) : Option Shape := do
  let (negative, body) := match cs with
    | '-' :: rest => (true, rest)
    | rest => (false, rest)
  let digits := body.takeWhile Char.isDigit
  let before := takeWhole ⟨0, 0⟩ digits
  let (point, fraction, rest) :=
    match body.dropWhile Char.isDigit with
    | '.' :: after => (true, after.takeWhile Char.isDigit, after.dropWhile Char.isDigit)
    | after => (false, [], after)
  if digits = [] ∨ (digits.head? = some '0' ∧ digits ≠ ['0']) ∨ (point ∧ fraction = []) then none
  else if rest = [] ∧ !point ∧ before.exponent = 0 then
    return whole negative before.significand
  else
    let exponent ← Binary64.readExponent? rest
    let placed := takeFraction before fraction
    let value ← toBinary64? ⟨placed.significand, placed.exponent + exponent⟩
    return .float (if negative then value.neg else value)

end SocBench.JsonNumber
