import SocBench.Document.Shape

/-!
# TOML documents as trees

A document is a table of named nodes.  A table remembers how it came about, because that decides
what may still be added to it: a table written in braces is complete, one with a header of its own
may not be reopened, and one that only a longer name mentioned may still get a header.
-/

namespace SocBench.Toml

/-- How a table came about. -/
inductive Origin where
  /-- Written in braces. -/
  | braces
  /-- Mentioned by a dotted name inside braces. -/
  | bracesName
  /-- Has a header of its own, or is the document. -/
  | header
  /-- Mentioned by a longer header. -/
  | outer
  /-- Mentioned by a dotted name. -/
  | dotted
  deriving DecidableEq

/-- A value, a table, or a list of tables with one header each. -/
inductive Node where
  | boolean (value : Bool)
  | integer (value : Int)
  | float (value : Binary64)
  | text (value : String)
  | moment
  | list (items : List Node)
  | tables (items : List (List (String × Node)))
  | table (origin : Origin) (entries : List (String × Node))

/-- The named nodes of a table, in the order they were added. -/
abbrev Entries := List (String × Node)

namespace Origin

/-- Whether the table was only mentioned so far. -/
def isMentioned : Origin → Bool
  | .bracesName | .outer | .dotted => true
  | .braces | .header => false

/-- Whether the table belongs to a value in braces. -/
def isBraces : Origin → Bool
  | .braces | .bracesName => true
  | .header | .outer | .dotted => false

end Origin

namespace Entries

/-- The node with a name. -/
def node? (es : Entries) (name : String) : Option Node :=
  List.lookup name es

/-- Replaces the node with a name where it stands, or adds it at the end. -/
def put (es : Entries) (name : String) (node : Node) : Entries :=
  if es.any (·.1 == name) then es.map fun e => if e.1 == name then (name, node) else e
  else es ++ [(name, node)]

/-- Removes the node with a name. -/
def erase (es : Entries) (name : String) : Entries :=
  es.filter (·.1 != name)

/-- Adds a node under a name that must be free. -/
def add? (es : Entries) (name : String) (node : Node) : Option Entries :=
  if es.any (·.1 == name) then none else some (es ++ [(name, node)])

/-- Works on the table at the end of a path, making the tables on the way that are missing.  A list
of tables stands for its last one.  A dotted name may not pass a table that has a header. -/
def descend {α : Type} (dotted : Bool) (f : Origin → Entries → Option (α × Entries)) :
    List String → Origin → Entries → Option (α × Entries)
  | [], origin, es => f origin es
  | name :: rest, _, es =>
    match (node? es name).getD (.table (if dotted then .dotted else .outer) []) with
    | .table origin inner =>
      if origin.isBraces || (dotted && !origin.isMentioned) then none
      else (descend dotted f rest origin inner).map fun (a, inner) =>
        (a, put es name (.table origin inner))
    | .tables items =>
      match items.getLast? with
      | none => none
      | some last => (descend dotted f rest .header last).map fun (a, last) =>
          (a, put es name (.tables (items.dropLast ++ [last])))
    | _ => none

/-- The same inside braces, where a dotted name may only pass tables that dotted names made. -/
def descendBraces (f : Origin → Entries → Option Entries) :
    List String → Origin → Entries → Option Entries
  | [], origin, es => f origin es
  | name :: rest, _, es =>
    match (node? es name).getD (.table .bracesName []) with
    | .table .bracesName inner =>
      (descendBraces f rest .bracesName inner).map fun inner =>
        put es name (.table .bracesName inner)
    | _ => none

/-- Adds a value under a dotted name to a table that has a header. -/
def addDotted? (es : Entries) (path : List String) (name : String) (node : Node) :
    Option Entries :=
  (descend true (fun origin inner =>
    if (origin == .dotted) == path.isEmpty then none
    else (add? inner name node).map ((), ·)) path .header es).map (·.2)

/-- Adds a value under a dotted name to a table in braces. -/
def addBraces? (es : Entries) (path : List String) (name : String) (node : Node) :
    Option Entries :=
  descendBraces (fun _ inner => add? inner name node) path .braces es

end Entries

/-- What a reader of settings sees of a node.  A date counts as a map. -/
def Node.shape : Node → Shape
  | .boolean value => .boolean value
  | .integer value => .integer value
  | .float value => .float value
  | .text value => .text value
  | .moment => .map
  | .list _ | .tables _ => .sequence
  | .table .. => .map

/-- The format's own name for the kind of a node. -/
def Node.kindName : Node → String
  | .boolean _ => "boolean"
  | .integer _ => "integer"
  | .float _ => "float"
  | .text _ => "string"
  | .moment => "datetime"
  | .list _ => "array"
  | .tables _ => "array of tables"
  | .table origin _ => if origin.isBraces then "inline table" else "table"

end SocBench.Toml
