import SocBench.Document.Shape
import SocBench.Frequency.Basic
import SocBench.Numeral.Reading
import SocBench.Text.Blank

/-!
# Reading frequencies

A frequency is written as a decimal numeral and a unit in any letter case, with blanks around the
text and between the two; without a unit it is in hertz.  The numeral is read as a double, scaled
by the unit, and rounded to a whole number, a half away from zero.  In a document a frequency may
also be a bare number of hertz.
-/

namespace SocBench

/-- The text that is no frequency, without the blanks around it. -/
structure FrequencyTextError where
  input : String
  deriving DecidableEq

/-- The wording of the error. -/
def FrequencyTextError.message (e : FrequencyTextError) : String :=
  "invalid frequency: '" ++ e.input ++ "'"

namespace Frequency

/-- A double as a whole number of hertz.  Anything that rounds below zero or above `2 ^ 64` is
refused, and `2 ^ 64` itself becomes the largest frequency. -/
def ofBinary64? : Binary64 → Option Frequency
  | .finite negative significand exponent =>
    let hz := Binary64.roundMagnitude significand exponent
    if (negative ∧ hz ≠ 0) ∨ UInt64.size < hz then none
    else some ⟨UInt64.ofNat (min hz (UInt64.size - 1))⟩
  | _ => none

/-- A numeral in a unit. -/
def ofNumeral? (numeral : List Char) (unit : FrequencyUnit) : Option Frequency :=
  match Binary64.read? (trimBlanks numeral) with
  | some value => ofBinary64? (value.mul (Binary64.ofNat unit.scale))
  | none => none

/-- The text before a suffix, if the text ends with it. -/
def stripSuffix? (suffix text : List Char) : Option (List Char) :=
  if suffix.isSuffixOf text then some (text.take (text.length - suffix.length)) else none

/-- Splits a lower-case text into numeral and unit.  Every other unit ends in `hz`, so that one is
tried last; no unit means hertz. -/
def splitUnit (lower : List Char) : List Char × FrequencyUnit :=
  let named := [FrequencyUnit.ghz, .mhz, .khz, .hz].findSome? fun unit =>
    (stripSuffix? (unit.symbol.toList.map lowerChar) lower).map (·, unit)
  named.getD (lower, .hz)

/-- Reads a frequency from text. -/
def read (s : String) : Except FrequencyTextError Frequency :=
  let text := trimBlanks s.toList
  let (numeral, unit) := splitUnit (text.map lowerChar)
  match ofNumeral? numeral unit with
  | some f => .ok f
  | none => .error ⟨String.ofList text⟩

/-- Reads a frequency from a place of a document: hertz as a number, or a text with a unit. -/
def ofShape : Shape → Except DecodeError Frequency
  | .integer value =>
    if 0 ≤ value then .ok ⟨UInt64.ofNat value.toNat⟩
    else .error (.unusable ("frequency cannot be negative: " ++ toString value))
  | .float value =>
    match ofBinary64? value with
    | some f => .ok f
    | none => .error (.unusable ("invalid frequency: " ++ value.toText))
  | .text s =>
    match read s with
    | .ok f => .ok f
    | .error e => .error (.unusable e.message)
  | other => .error (.wrongType other "a frequency in Hz or a string such as \"242MHz\"")

end Frequency

end SocBench
