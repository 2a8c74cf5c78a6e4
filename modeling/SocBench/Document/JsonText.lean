import SocBench.Document.JsonNumber
import SocBench.Numeral.Word

/-!
# Reading JSON text

A text is read as one JSON value, of which only the shape is kept: what stands inside lists and
objects must be well formed, but it is not looked at.  Readers take characters from the front of a
text and return what is left.
-/

namespace SocBench.JsonText

/-- The blanks between the parts of a value. -/
def isSpace (c : Char) : Bool :=
  c == ' ' || c == '\t' || c == '\n' || c == '\r'

/-- Removes the blanks from the front. -/
def skipSpace (cs : List Char) : List Char :=
  cs.dropWhile isSpace

/-- Removes a fixed text from the front. -/
def word? (expected : String) (cs : List Char) : Option (List Char) :=
  if expected.toList.isPrefixOf cs then some (cs.drop expected.length) else none

/-- Four hexadecimal digits. -/
def unit? (cs : List Char) : Option (Nat × List Char) :=
  let digits := cs.take 4
  if digits.length = 4 ∧ digits.all isHexDigit then some (valueInBase 16 digits, cs.drop 4)
  else none

/-- A character given by its number.  One above `0xFFFF` is given by two halves, and a half that
stands alone is refused. -/
def numbered? (cs : List Char) : Option (Char × List Char) := do
  let (high, rest) ← unit? cs
  if 0xD800 ≤ high ∧ high < 0xDC00 then
    let (low, rest) ← unit? (← word? "\\u" rest)
    if 0xDC00 ≤ low ∧ low < 0xE000 then
      return (Char.ofNat (0x10000 + (high - 0xD800) * 0x400 + (low - 0xDC00)), rest)
    else none
  else if high.isValidChar then return (Char.ofNat high, rest)
  else none

/-- The character that an escape stands for, after its backslash. -/
def escape? : List Char → Option (Char × List Char)
  | '"' :: rest => some ('"', rest)
  | '\\' :: rest => some ('\\', rest)
  | '/' :: rest => some ('/', rest)
  | 'b' :: rest => some ('\x08', rest)
  | 'f' :: rest => some ('\x0c', rest)
  | 'n' :: rest => some ('\n', rest)
  | 'r' :: rest => some ('\r', rest)
  | 't' :: rest => some ('\t', rest)
  | 'u' :: rest => numbered? rest
  | _ => none

/-- The rest of a text in quotes.  Every round takes a character, so the length of the text bounds
the rounds. -/
def body? : Nat → List Char → Option (List Char × List Char)
  | 0, _ => none
  | rounds + 1, cs =>
    match cs with
    | '"' :: rest => some ([], rest)
    | '\\' :: rest => do
      let (c, rest) ← escape? rest
      let (body, rest) ← body? rounds rest
      return (c :: body, rest)
    | c :: rest =>
      if c < ' ' then none
      else (body? rounds rest).map fun (body, rest) => (c :: body, rest)
    | [] => none

/-- A text in quotes. -/
def text? : List Char → Option (String × List Char)
  | '"' :: rest => (body? (rest.length + 1) rest).map fun (body, r) => (String.ofList body, r)
  | _ => none

/-- Whether a character can stand in a number. -/
def isNumberChar (c : Char) : Bool :=
  c.isDigit || c == '-' || c == '+' || c == '.' || c == 'e' || c == 'E'

/-- A value that is neither a list nor an object. -/
def scalar? (cs : List Char) : Option (Shape × List Char) :=
  match word? "null" cs, word? "true" cs, word? "false" cs with
  | some rest, _, _ => some (.null, rest)
  | _, some rest, _ => some (.boolean true, rest)
  | _, _, some rest => some (.boolean false, rest)
  | _, _, _ =>
    match text? cs with
    | some (text, rest) => some (.text text, rest)
    | none =>
      (JsonNumber.read? (cs.takeWhile isNumberChar)).map fun shape =>
        (shape, cs.dropWhile isNumberChar)

/-- One or more items with commas between them, up to a closing bracket.  Every round takes an
item, so the length of the text bounds the rounds. -/
def items? (item : List Char → Option (List Char)) (close : Char) :
    Nat → List Char → Option (List Char)
  | 0, _ => none
  | rounds + 1, cs => do
    match skipSpace (← item (skipSpace cs)) with
    | ',' :: rest => items? item close rounds rest
    | c :: rest => if c == close then some rest else none
    | [] => none

/-- Items after an opening bracket; there may be none. -/
def bracketed? (item : List Char → Option (List Char)) (close : Char) (cs : List Char) :
    Option (List Char) :=
  match skipSpace cs with
  | [] => none
  | c :: rest => if c == close then some rest else items? item close (rest.length + 1) (c :: rest)

/-- A value with at most `depth` lists and objects around its innermost part. -/
def value? : Nat → List Char → Option (Shape × List Char)
  | 0, cs => scalar? cs
  | depth + 1, cs =>
    let inner (cs : List Char) : Option (List Char) := (value? depth cs).map (·.2)
    match cs with
    | '[' :: rest => (bracketed? inner ']' rest).map (Shape.sequence, ·)
    | '\x7b' :: rest =>
      let field (cs : List Char) : Option (List Char) := do
        let (_, rest) ← text? cs
        inner (skipSpace (← word? ":" (skipSpace rest)))
      (bracketed? field '\x7d' rest).map (Shape.map, ·)
    | _ => scalar? cs

/-- How deep lists and objects may be nested. -/
def maxDepth : Nat := 127

/-- Reads a whole text as one value. -/
def read? (s : String) : Option Shape := do
  let (shape, rest) ← value? maxDepth (skipSpace s.toList)
  if (skipSpace rest).isEmpty then some shape else none

end SocBench.JsonText
