import SocBench.Toml.Scalar

/-!
# Texts and names in TOML

A text stands in double quotes with escapes or in single quotes without; three quotes open a text
of several lines.  A name is a run of letters, digits, hyphens and underscores, or a text of one
line; names joined by points form a path.
-/

namespace SocBench.Toml

/-- Blanks within a line. -/
def isInlineBlank (c : Char) : Bool :=
  c == ' ' || c == '\t'

/-- What may stand in a line: everything but control characters, the tab excepted. -/
def isPrintable (c : Char) : Bool :=
  c == '\t' || (0x20 ≤ c.toNat && c.toNat != 0x7F)

/-- Removes a line end from the front. -/
def lineBreak? : List Char → Option (List Char)
  | '\n' :: rest => some rest
  | '\r' :: '\n' :: rest => some rest
  | _ => none

/-- Removes the blanks within a line from the front. -/
def skipInline (cs : List Char) : List Char :=
  cs.dropWhile isInlineBlank

/-- A character given by `count` hexadecimal digits of its code point. -/
def codePoint? (count : Nat) (cs : List Char) : Option (Char × List Char) :=
  let digits := cs.take count
  let value := valueInBase 16 digits
  if digits.length = count ∧ digits.all isHexDigit ∧ value.isValidChar then
    some (Char.ofNat value, cs.drop count)
  else none

/-- The character that an escape stands for, after its backslash. -/
def escape? : List Char → Option (Char × List Char)
  | 'b' :: rest => some ('\x08', rest)
  | 't' :: rest => some ('\t', rest)
  | 'n' :: rest => some ('\n', rest)
  | 'f' :: rest => some ('\x0c', rest)
  | 'r' :: rest => some ('\r', rest)
  | '"' :: rest => some ('"', rest)
  | '\\' :: rest => some ('\\', rest)
  | 'u' :: rest => codePoint? 4 rest
  | 'U' :: rest => codePoint? 8 rest
  | _ => none

/-- The rest of a text of one line in double quotes.  Every round takes a character, so the length
of the text bounds the rounds. -/
def basicBody : Nat → Reader (List Char)
  | 0, _ => none
  | rounds + 1, cs =>
    match cs with
    | '"' :: rest => some ([], rest)
    | '\\' :: rest => do
      let (c, rest) ← escape? rest
      let (body, rest) ← basicBody rounds rest
      return (c :: body, rest)
    | c :: rest =>
      if isPrintable c then do
        let (body, rest) ← basicBody rounds rest
        return (c :: body, rest)
      else none
    | [] => none

/-- The rest of a text of one line in single quotes. -/
def literalBody : Reader (List Char)
  | '\'' :: rest => some ([], rest)
  | c :: rest =>
    if isPrintable c then (literalBody rest).map fun (body, rest) => (c :: body, rest) else none
  | [] => none

/-- Up to two more quotes may stand right before the three that close a text. -/
def closing? (quote : Char) (cs : List Char) : Option (List Char × List Char) :=
  match literal? [quote, quote, quote] cs with
  | none => none
  | some rest =>
    let extra := (rest.take 2).takeWhile (· == quote)
    some (extra, rest.drop extra.length)

/-- Removes blanks and line ends from the front. -/
def skipLines : List Char → List Char
  | '\n' :: rest => skipLines rest
  | '\r' :: '\n' :: rest => skipLines rest
  | c :: rest => if isInlineBlank c then skipLines rest else c :: rest
  | [] => []

/-- After a backslash at the end of a line, the line end and all blanks up to the next character
are left out. -/
def continuation? (cs : List Char) : Option (List Char) :=
  (lineBreak? (skipInline cs)).map skipLines

/-- The rest of a text of several lines.  Every round takes a character, so the length of the text
bounds the rounds. -/
def longBody (quote : Char) : Nat → Reader (List Char)
  | 0, _ => none
  | rounds + 1, cs =>
    match closing? quote cs with
    | some closed => some closed
    | none =>
      match lineBreak? cs with
      | some rest => (longBody quote rounds rest).map fun (body, rest) => ('\n' :: body, rest)
      | none =>
        match cs with
        | [] => none
        | c :: rest =>
          if quote == '"' && c == '\\' then
            match continuation? rest with
            | some rest => longBody quote rounds rest
            | none => do
              let (c, rest) ← escape? rest
              let (body, rest) ← longBody quote rounds rest
              return (c :: body, rest)
          else if isPrintable c then
            (longBody quote rounds rest).map fun (body, rest) => (c :: body, rest)
          else none

/-- A text of one line. -/
def shortText? : Reader String
  | '"' :: rest => (basicBody (rest.length + 1) rest).map fun (body, r) => (String.ofList body, r)
  | '\'' :: rest => (literalBody rest).map fun (body, r) => (String.ofList body, r)
  | _ => none

/-- A text, of one line or several.  A line end right after three opening quotes is left out. -/
def text? (cs : List Char) : Option (String × List Char) :=
  let long (quote : Char) (rest : List Char) : Option (String × List Char) :=
    let rest := (lineBreak? rest).getD rest
    (longBody quote (rest.length + 1) rest).map fun (body, r) => (String.ofList body, r)
  match cs with
  | '"' :: '"' :: '"' :: rest => long '"' rest
  | '\'' :: '\'' :: '\'' :: rest => long '\'' rest
  | _ => shortText? cs

/-- Whether a character may stand in a name without quotes. -/
def isNameChar (c : Char) : Bool :=
  c.isAlphanum || c == '-' || c == '_'

/-- One name. -/
def name? (cs : List Char) : Option (String × List Char) :=
  (shortText? cs).or
    (let bare := cs.takeWhile isNameChar
     if bare.isEmpty then none else some (String.ofList bare, cs.dropWhile isNameChar))

/-- Names joined by points, with blanks around each.  Every round takes a name, so the length of
the text bounds the rounds. -/
def path? : Nat → Reader (List String)
  | 0, _ => none
  | rounds + 1, cs => do
    let (name, rest) ← name? (skipInline cs)
    match skipInline rest with
    | '.' :: rest =>
      let (names, rest) ← path? rounds rest
      return (name :: names, rest)
    | rest => return ([name], rest)

/-- How deep lists and tables may be nested, and how many names a path may have. -/
def maxDepth : Nat := 79

/-- A path as the tables it leads through and the name at its end. -/
def key? (cs : List Char) : Option ((List String × String) × List Char) := do
  let (names, rest) ← path? (cs.length + 1) cs
  guard (names.length ≤ maxDepth)
  let last ← names.getLast?
  return ((names.dropLast, last), rest)

end SocBench.Toml
