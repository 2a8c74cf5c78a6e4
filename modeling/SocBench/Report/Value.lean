import SocBench.Text.Quoted

/-!
# Reports for programs

A report that programs read is a record of named values, written as JSON with one value per line
and two more blanks for every level.  The fields keep their order.
-/

namespace SocBench

/-- A value of a report. -/
inductive ReportValue where
  | null
  | boolean (value : Bool)
  | number (value : Nat)
  | text (value : String)
  | record (fields : List (String × ReportValue))

namespace ReportValue

/-- One character inside the quotes: quotes, backslashes and control characters are escaped. -/
def escaped (c : Char) : String :=
  match c with
  | '"' => "\\\""
  | '\\' => "\\\\"
  | '\n' => "\\n"
  | '\r' => "\\r"
  | '\t' => "\\t"
  | '\x08' => "\\b"
  | '\x0c' => "\\f"
  | c =>
    if c.toNat < 16 then "\\u000" ++ Text.hex c.toNat
    else if c.toNat < 32 then "\\u00" ++ Text.hex c.toNat
    else c.toString

/-- A text in quotes. -/
def quoted (s : String) : String :=
  "\"" ++ String.join (s.toList.map escaped) ++ "\""

/-- A new line at a level. -/
def newLine (level : Nat) : String :=
  "\n" ++ String.ofList (List.replicate (2 * level) ' ')

mutual

/-- The text of a value that starts at a level. -/
def toText (level : Nat) : ReportValue → String
  | .null => "null"
  | .boolean value => if value then "true" else "false"
  | .number value => toString value
  | .text value => quoted value
  | .record [] => "\x7b\x7d"
  | .record (field :: fields) =>
    "\x7b" ++ fieldsToText (level + 1) (field :: fields) ++ newLine level ++ "\x7d"

/-- The text of fields at a level, each on its own line, with commas between them. -/
def fieldsToText (level : Nat) : List (String × ReportValue) → String
  | [] => ""
  | (name, value) :: rest =>
    newLine level ++ quoted name ++ ": " ++ value.toText level
      ++ (if rest.isEmpty then "" else ",") ++ fieldsToText level rest

end

end ReportValue

end SocBench
