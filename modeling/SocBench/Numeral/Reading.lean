import SocBench.Numeral.Binary64

/-!
# Reading decimal numerals

A numeral is an optional sign, digits with an optional point (at least one digit in all), and an
optional exponent; `inf`, `infinity` and `nan` are read in any letter case.  The exact decimal is
rounded once to the nearest double.
-/

namespace SocBench

/-- The value of a decimal digit. -/
def digitValue (c : Char) : Nat :=
  c.toNat - '0'.toNat

/-- The number a list of decimal digits denotes. -/
def digitsValue (cs : List Char) : Nat :=
  cs.foldl (fun n c => 10 * n + digitValue c) 0

/-- A character in lower case, where only the 26 letters have one. -/
def lowerChar (c : Char) : Char :=
  if 'A' ≤ c ∧ c ≤ 'Z' then Char.ofNat (c.toNat + 32) else c

namespace Binary64

/-- The double nearest to `± digits · 10 ^ exponent`.  A number with more than 310 digits before
the point is infinite and one below `10 ^ -330` is zero, whatever its digits are. -/
def ofDecimal (negative : Bool) (digits : Nat) (exponent : Int) : Binary64 :=
  if digits = 0 then .finite negative 0 minExponent
  else
    let top : Int := (Nat.toDigits 10 digits).length + exponent
    if 310 < top then .infinite negative
    else if top < -330 then .finite negative 0 minExponent
    else if 0 ≤ exponent then round negative (digits * Nat.pow 10 exponent.toNat) 1 0
    else round negative digits (Nat.pow 10 (-exponent).toNat) 0

/-- Splits a leading sign off; no sign means plus. -/
def splitSign : List Char → Bool × List Char
  | '-' :: rest => (true, rest)
  | '+' :: rest => (false, rest)
  | cs => (false, cs)

/-- Reads an exponent part to the end of the text: nothing, or `e`, a sign and digits. -/
def readExponent? : List Char → Option Int
  | [] => some 0
  | c :: rest =>
    if c = 'e' ∨ c = 'E' then
      let (negative, digits) := splitSign rest
      if digits ≠ [] ∧ digits.all Char.isDigit then
        some (if negative then -(digitsValue digits : Int) else digitsValue digits)
      else none
    else none

/-- Reads unsigned digits, point and exponent. -/
def readMagnitude? (negative : Bool) (cs : List Char) : Option Binary64 := do
  let whole := cs.takeWhile Char.isDigit
  let (fraction, rest) :=
    match cs.dropWhile Char.isDigit with
    | '.' :: after => (after.takeWhile Char.isDigit, after.dropWhile Char.isDigit)
    | after => ([], after)
  if whole = [] ∧ fraction = [] then none
  else
    let exponent ← readExponent? rest
    return ofDecimal negative (digitsValue (whole ++ fraction)) (exponent - fraction.length)

/-- Reads a whole text as a double. -/
def read? (cs : List Char) : Option Binary64 :=
  let (negative, body) := splitSign cs
  match String.ofList (body.map lowerChar) with
  | "inf" | "infinity" => some (.infinite negative)
  | "nan" => some .nan
  | _ => readMagnitude? negative body

end Binary64

end SocBench
