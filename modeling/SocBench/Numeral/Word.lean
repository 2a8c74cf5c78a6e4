import SocBench.Numeral.Reading

/-!
# Whole numbers on the command line

A whole number is an optional sign and at least one digit, nothing else; it is refused when it does
not fit.  A byte may also be given in base 16 after `0x`.
-/

namespace SocBench

/-- Whether a character is a digit in base 16. -/
def isHexDigit (c : Char) : Bool :=
  c.isDigit || ('a' ≤ lowerChar c && lowerChar c ≤ 'f')

/-- The value of a digit in base 16. -/
def hexValue (c : Char) : Nat :=
  if c.isDigit then digitValue c else 10 + ((lowerChar c).toNat - 'a'.toNat)

/-- The number that digits denote in a base. -/
def valueInBase (base : Nat) (digits : List Char) : Nat :=
  digits.foldl (fun n c => base * n + hexValue c) 0

/-- Reads digits to the end of a text. -/
def readDigits? (base : Nat) (isDigit : Char → Bool) (cs : List Char) : Option Nat :=
  if cs ≠ [] ∧ cs.all isDigit then some (valueInBase base cs) else none

/-- Reads a number below `limit` that may have a plus sign. -/
def readNatural? (limit : Nat) (cs : List Char) : Option Nat :=
  let body := match cs with
    | '+' :: rest => rest
    | rest => rest
  (readDigits? 10 Char.isDigit body).filter (· < limit)

/-- Reads a number that may have either sign, and accepts it from zero up to `limit`. -/
def readSigned? (limit : Nat) (cs : List Char) : Option Nat :=
  let (negative, body) := Binary64.splitSign cs
  (readDigits? 10 Char.isDigit body).filter fun n => n < limit && (!negative || n == 0)

/-- Reads a byte, in base 16 after `0x` and in base 10 otherwise. -/
def readByte? (cs : List Char) : Option UInt8 :=
  let hex (rest : List Char) : Option Nat :=
    let body := match rest with
      | '+' :: rest => rest
      | rest => rest
    (readDigits? 16 isHexDigit body).filter (· < 256)
  (match cs with
    | '0' :: 'x' :: rest => hex rest
    | '0' :: 'X' :: rest => hex rest
    | _ => readNatural? 256 cs).map Nat.toUInt8

end SocBench
