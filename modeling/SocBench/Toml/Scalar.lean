import SocBench.Numeral.Word
import SocBench.Toml.Node

/-!
# Numbers and dates in TOML

Readers take characters from the front of a text and return what is left.  A number may have
underscores between its digits and no leading zero; a date is checked against the calendar.
-/

namespace SocBench.Toml

/-- Reads something from the front of a text. -/
abbrev Reader (α : Type) := List Char → Option (α × List Char)

/-- Removes a fixed text from the front. -/
def literal? (expected : List Char) (cs : List Char) : Option (List Char) :=
  if expected.isPrefixOf cs then some (cs.drop expected.length) else none

/-- Digits that may be separated by single underscores, from a place after a first digit. -/
def digitTail (isDigit : Char → Bool) : List Char → List Char × List Char
  | '_' :: c :: rest =>
    if isDigit c then
      let (digits, after) := digitTail isDigit rest
      (c :: digits, after)
    else ([], '_' :: c :: rest)
  | c :: rest =>
    if isDigit c then
      let (digits, after) := digitTail isDigit rest
      (c :: digits, after)
    else ([], c :: rest)
  | [] => ([], [])

/-- One or more digits that may be separated by single underscores. -/
def digits? (isDigit : Char → Bool) : Reader (List Char)
  | c :: rest =>
    if isDigit c then
      let (digits, after) := digitTail isDigit rest
      some (c :: digits, after)
    else none
  | [] => none

/-- A decimal integer: a sign, then zero or digits that do not start with zero. -/
def decimal? (cs : List Char) : Option ((Bool × List Char) × List Char) :=
  let (negative, body) := Binary64.splitSign cs
  match body with
  | '0' :: rest => some ((negative, ['0']), rest)
  | _ => (digits? Char.isDigit body).map fun (digits, rest) => ((negative, digits), rest)

/-- An integer must fit a signed 64-bit word. -/
def integerNode? (value : Int) : Option Node :=
  if -0x8000000000000000 ≤ value ∧ value < 0x8000000000000000 then some (.integer value) else none

/-- An unsigned integer in base 16, 8 or 2, or a decimal integer. -/
def integer? (cs : List Char) : Option (Node × List Char) :=
  let based (base : Nat) (isDigit : Char → Bool) (rest : List Char) :
      Option (Node × List Char) := do
    let (digits, after) ← digits? isDigit rest
    let node ← integerNode? (valueInBase base digits)
    return (node, after)
  match cs with
  | '0' :: 'x' :: rest => based 16 isHexDigit rest
  | '0' :: 'o' :: rest => based 8 (fun c => '0' ≤ c && c ≤ '7') rest
  | '0' :: 'b' :: rest => based 2 (fun c => c == '0' || c == '1') rest
  | _ => do
    let ((negative, digits), after) ← decimal? cs
    let size : Int := digitsValue digits
    let node ← integerNode? (if negative then -size else size)
    return (node, after)

/-- The exponent of a float, as a number. -/
def exponent? : Reader Int
  | c :: rest =>
    if c == 'e' || c == 'E' then do
      let (negative, body) := Binary64.splitSign rest
      let (digits, after) ← digits? Char.isDigit body
      let size : Int := digitsValue digits
      return (if negative then -size else size, after)
    else none
  | [] => none

/-- A float: a decimal integer with a fraction, an exponent or both, or a named one.  A positive
number too large for a double is refused. -/
def float? (cs : List Char) : Option (Node × List Char) := do
  let (sign, body) := Binary64.splitSign cs
  if let some rest := literal? ['i', 'n', 'f'] body then
    return (.float (.infinite sign), rest)
  if let some rest := literal? ['n', 'a', 'n'] body then
    return (.float .nan, rest)
  let ((negative, whole), afterWhole) ← decimal? cs
  let (fraction, exponent, rest) ←
    match afterWhole with
    | '.' :: after => do
      let (fraction, rest) ← digits? Char.isDigit after
      match exponent? rest with
      | some (exponent, rest) => some (fraction, exponent, rest)
      | none => some (fraction, 0, rest)
    | _ => do
      let (exponent, rest) ← exponent? afterWhole
      some ([], exponent, rest)
  let value := Binary64.ofDecimal negative (digitsValue (whole ++ fraction))
    (exponent - fraction.length)
  if value = .infinite false then none else return (.float value, rest)

/-- A number of exactly `count` digits. -/
def fixedDigits? (count : Nat) (cs : List Char) : Option (Nat × List Char) :=
  let digits := cs.take count
  if digits.length = count ∧ digits.all Char.isDigit then some (digitsValue digits, cs.drop count)
  else none

/-- The days of a month. -/
def daysInMonth (year month : Nat) : Nat :=
  if month = 2 then
    if year % 4 = 0 ∧ (year % 100 ≠ 0 ∨ year % 400 = 0) then 29 else 28
  else if month = 4 ∨ month = 6 ∨ month = 9 ∨ month = 11 then 30
  else 31

/-- A calendar date; returns what follows it. -/
def date? (cs : List Char) : Option (List Char) := do
  let (year, cs) ← fixedDigits? 4 cs
  let (month, cs) ← fixedDigits? 2 (← literal? ['-'] cs)
  let (day, cs) ← fixedDigits? 2 (← literal? ['-'] cs)
  if 1 ≤ month ∧ month ≤ 12 ∧ 1 ≤ day ∧ day ≤ daysInMonth year month then some cs else none

/-- Hours and minutes; returns what follows them. -/
def hourMinute? (cs : List Char) : Option (List Char) := do
  let (hour, cs) ← fixedDigits? 2 cs
  let (minute, cs) ← fixedDigits? 2 (← literal? [':'] cs)
  if hour ≤ 23 ∧ minute ≤ 59 then some cs else none

/-- A time of day, a leap second included; returns what follows it. -/
def time? (cs : List Char) : Option (List Char) := do
  let cs ← hourMinute? cs
  let (second, cs) ← fixedDigits? 2 (← literal? [':'] cs)
  if 60 < second then none
  else
    match cs with
    | '.' :: c :: rest => if c.isDigit then some (rest.dropWhile Char.isDigit) else none
    | cs => some cs

/-- The offset from universal time, if there is one; returns what follows it. -/
def offset (cs : List Char) : List Char :=
  match cs with
  | 'Z' :: rest | 'z' :: rest => rest
  | '+' :: rest | '-' :: rest => (hourMinute? rest).getD cs
  | _ => cs

/-- A date, a time, or both. -/
def moment? (cs : List Char) : Option (Node × List Char) :=
  match date? cs with
  | some rest =>
    match rest with
    | 'T' :: after | 't' :: after | ' ' :: after =>
      match time? after with
      | some rest => some (.moment, offset rest)
      | none => some (.moment, rest)
    | _ => some (.moment, rest)
  | none => (time? cs).map (Node.moment, ·)

/-- A number, a date or a truth value. -/
def scalar? (cs : List Char) : Option (Node × List Char) :=
  match literal? "true".toList cs, literal? "false".toList cs with
  | some rest, _ => some (.boolean true, rest)
  | _, some rest => some (.boolean false, rest)
  | none, none => (moment? cs).or ((float? cs).or (integer? cs))

end SocBench.Toml
