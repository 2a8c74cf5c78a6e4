import SocBench.Numeral.Shortest
import SocBench.Text.Quoted

/-!
# What stands at a place of a document

A reader of settings looks at one place of a document at a time.  `Shape` is what it finds there,
whatever format the document is written in, and `DecodeError` is what it says when the place does
not hold what it needs.
-/

namespace SocBench

/-- The content of one place of a document, without the inner structure of lists and maps. -/
inductive Shape where
  | null
  | boolean (value : Bool)
  | integer (value : Int)
  | float (value : Binary64)
  | text (value : String)
  | sequence
  | map

/-- How a reader names what it found. -/
def Shape.describe : Shape → String
  | .null => "null"
  | .boolean value => "boolean `" ++ (if value then "true" else "false") ++ "`"
  | .integer value => "integer `" ++ toString value ++ "`"
  | .float value => "floating point `" ++ value.toPointedText ++ "`"
  | .text value => "string " ++ Text.quoted value
  | .sequence => "sequence"
  | .map => "map"

/-- Why a place of a document could not be read. -/
inductive DecodeError where
  | wrongType (found : Shape) (expected : String)
  | outOfRange (value : Int) (expected : String)
  | unknownField (name : String) (known : List String)
  | unknownVariant (name : String) (known : List String)
  | unusable (reason : String)

namespace DecodeError

/-- A choice between names, as an error lists it. -/
def choice (known : List String) : String :=
  match known.map (fun name => "`" ++ name ++ "`") with
  | [] => "nothing"
  | [only] => only
  | [one, other] => one ++ " or " ++ other
  | many => "one of " ++ ", ".intercalate many

/-- The wording of an error. -/
def message : DecodeError → String
  | .wrongType found expected => "invalid type: " ++ found.describe ++ ", expected " ++ expected
  | .outOfRange value expected =>
    "invalid value: integer `" ++ toString value ++ "`, expected " ++ expected
  | .unknownField name known => "unknown field `" ++ name ++ "`, expected " ++ choice known
  | .unknownVariant name known => "unknown variant `" ++ name ++ "`, expected " ++ choice known
  | .unusable reason => reason

end DecodeError

namespace Shape

/-- Reads a natural number below `limit`. -/
def toBounded (expected : String) (limit : Nat) : Shape → Except DecodeError Nat
  | .integer value =>
    if 0 ≤ value ∧ value < limit then .ok value.toNat else .error (.outOfRange value expected)
  | other => .error (.wrongType other expected)

/-- Reads a truth value. -/
def toBool : Shape → Except DecodeError Bool
  | .boolean value => .ok value
  | other => .error (.wrongType other "a boolean")

/-- Reads the path of a file. -/
def toPath : Shape → Except DecodeError String
  | .text value => .ok value
  | other => .error (.wrongType other "path string")

end Shape

end SocBench
