import SocBench.Toml.Text

/-!
# Reading a TOML document

A document is read line by line.  A line under a header adds to the table of that header; when the
next header comes, the table is put in its place in the document.  The result is none for any text
that is not well formed, names given twice included.
-/

namespace SocBench.Toml

/-- Blanks, line ends and comments between the items of a list. -/
def skipTrivia (inComment : Bool) : List Char → List Char
  | [] => []
  | c :: rest =>
    if inComment && isPrintable c then skipTrivia true rest
    else if isInlineBlank c || c == '\n' then skipTrivia false rest
    else if c == '\r' && rest.head? == some '\n' then skipTrivia false rest
    else if c == '#' then skipTrivia true rest
    else c :: rest

/-- The items of a list after its opening bracket; a comma may follow the last one. -/
def items? (item : Reader Node) : Nat → Reader (List Node)
  | 0, _ => none
  | rounds + 1, cs =>
    match skipTrivia false cs with
    | ']' :: rest => some ([], rest)
    | cs => do
      let (node, rest) ← item cs
      match skipTrivia false rest with
      | ',' :: rest =>
        let (nodes, rest) ← items? item rounds rest
        return (node :: nodes, rest)
      | ']' :: rest => return ([node], rest)
      | _ => none

/-- A name, an equals sign and a value. -/
def pair? (value : Reader Node) (cs : List Char) :
    Option ((List String × String × Node) × List Char) := do
  let ((path, name), rest) ← key? cs
  let rest ← literal? ['='] rest
  let (node, rest) ← value (skipInline rest)
  return ((path, name, node), rest)

/-- The pairs of a table in braces after the first brace; no comma may follow the last one. -/
def pairs? (value : Reader Node) : Nat → Entries → Reader Entries
  | 0, _, _ => none
  | rounds + 1, es, cs => do
    let ((path, name, node), rest) ← pair? value cs
    let es ← es.addBraces? path name node
    match skipInline rest with
    | ',' :: rest => pairs? value rounds es rest
    | '\x7d' :: rest => return (es, rest)
    | _ => none

/-- A value with at most `depth` lists and tables around its innermost part. -/
def value? : Nat → Reader Node
  | 0, cs => ((text? cs).map fun (s, rest) => (.text s, rest)).or (scalar? cs)
  | depth + 1, cs =>
    match cs with
    | '[' :: rest =>
      (items? (value? depth) (rest.length + 1) rest).map fun (nodes, rest) => (.list nodes, rest)
    | '\x7b' :: rest =>
      match skipInline rest with
      | '\x7d' :: rest => some (.table .braces [], rest)
      | rest =>
        (pairs? (value? depth) (rest.length + 1) [] rest).map fun (es, rest) =>
          (.table .braces es, rest)
    | _ => ((text? cs).map fun (s, rest) => (.text s, rest)).or (scalar? cs)

/-- The end of a line: blanks, a comment, and a line end or the end of the text. -/
def lineEnd? (cs : List Char) : Option (List Char) :=
  let rest := match skipInline cs with
    | '#' :: comment => comment.dropWhile isPrintable
    | rest => rest
  if rest.isEmpty then some [] else lineBreak? rest

/-- A document being read: the tables in place, and the table of the last header. -/
structure Draft where
  root : Entries := []
  path : List String := []
  name : String := ""
  repeated : Bool := false
  opened : Bool := false
  current : Entries := []

namespace Draft

/-- Puts the table of the last header in its place. -/
def settle? (d : Draft) : Option Entries :=
  if !d.opened then some d.current
  else
    (Entries.descend false (fun _ es =>
      match es.node? d.name with
      | none =>
        some ((), es ++ [(d.name, if d.repeated then .tables [d.current]
          else .table .header d.current)])
      | some (.tables items) =>
        if d.repeated then some ((), es.put d.name (.tables (items ++ [d.current]))) else none
      | some _ => none) d.path .header d.root).map (·.2)

/-- Opens the table of a header.  A table that was only mentioned by a longer header is taken out,
to be put back with what is added to it. -/
def openTable? (d : Draft) (path : List String) (name : String) : Option Draft := do
  let root ← d.settle?
  let (current, root) ← Entries.descend false (fun _ es =>
    match es.node? name with
    | none => some ([], es)
    | some (.table .outer inner) => some (inner, es.erase name)
    | some _ => none) path .header root
  return { root, path, name, repeated := false, opened := true, current }

/-- Opens one more table of a list of tables. -/
def openRepeated? (d : Draft) (path : List String) (name : String) : Option Draft := do
  let root ← d.settle?
  let (_, root) ← Entries.descend false (fun _ es =>
    match es.node? name with
    | none => some ((), es ++ [(name, .tables [])])
    | some (.tables _) => some ((), es)
    | some _ => none) path .header root
  return { root, path, name, repeated := true, opened := true, current := [] }

/-- Adds one line. -/
def line? (d : Draft) (cs : List Char) : Option (Draft × List Char) :=
  match cs with
  | '[' :: '[' :: rest => do
    let ((path, name), rest) ← key? rest
    let rest ← lineEnd? (← literal? [']', ']'] rest)
    return (← d.openRepeated? path name, rest)
  | '[' :: rest => do
    let ((path, name), rest) ← key? rest
    let rest ← lineEnd? (← literal? [']'] rest)
    return (← d.openTable? path name, rest)
  | _ => do
    let ((path, name, node), rest) ← pair? (value? maxDepth) cs
    let current ← d.current.addDotted? path name node
    return ({ d with current }, ← lineEnd? rest)

/-- Adds all lines.  Every round takes a line, so the length of the text bounds the rounds. -/
def lines? : Nat → Draft → List Char → Option Draft
  | 0, _, _ => none
  | rounds + 1, d, cs =>
    match skipInline cs with
    | [] => some d
    | cs =>
      match lineEnd? cs with
      | some rest => lines? rounds d rest
      | none =>
        match d.line? cs with
        | some (d, rest) => lines? rounds d rest
        | none => none

end Draft

/-- Reads a document; a byte order mark may stand first. -/
def read? (s : String) : Option Entries := do
  let cs := match s.toList with
    | '\uFEFF' :: rest => rest
    | cs => cs
  let d ← Draft.lines? (cs.length + 1) {} cs
  d.settle?

end SocBench.Toml
