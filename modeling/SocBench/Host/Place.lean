/-!
# Places in the tree of directories

A place is known by the names that lead down to it from the root.  A path is a list of steps from
one place to another.
-/

namespace SocBench

/-- A place in the tree of directories: the names that lead down to it from the root. -/
abbrev Place := List String

namespace Place

/-- The place that one step of a path leads to: a dot stays, and two dots lead up.  Nothing is
above the root, so a step up from there stays. -/
def step (p : Place) (name : String) : Place :=
  match name with
  | "." => p
  | ".." => p.dropLast
  | name => p ++ [name]

/-- The steps of a path. Two slashes count as one. -/
def steps (path : String) : List String :=
  (path.splitOn "/").filter (· ≠ "")

/-- Where a path starts: at the root if it has a slash in front, otherwise at `home`. -/
def start (home : Place) (path : String) : Place :=
  if path.toList.head? = some '/' then [] else home

/-- The place a path leads to, if every step before the last finds a directory. -/
def ofPath (home : Place) (path : String) : Place :=
  (steps path).foldl step (start home path)

/-- The name that a path gives to what it leads to.  Dots that stay do not count; a path that ends
by leading up, and that of the root, give none. -/
def lastName? (path : String) : Option String :=
  (((steps path).filter (· ≠ ".")).getLast?).filter (· ≠ "..")

end Place

end SocBench
