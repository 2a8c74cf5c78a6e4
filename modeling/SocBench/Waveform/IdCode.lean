/-!
# Identifier codes

A waveform file refers to its variables by short codes over the 94 printable characters from `!`
to `~`.  The code of a number is its expansion in base 94, lowest digit first, where a digit after
the first counts from one: so all codes of one character come first, then all of two, and no two
numbers share a code.
-/

namespace SocBench

/-- The character of a digit. -/
def idChar (digit : Nat) : Char :=
  Char.ofNat (33 + digit % 94)

/-- The code of a number. -/
def idCode (index : Nat) : List Char :=
  if index < 94 then [idChar index] else idChar index :: idCode (index / 94 - 1)
termination_by index
decreasing_by omega

end SocBench
