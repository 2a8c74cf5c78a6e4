import SocBench.Host.Place

/-!
# The folder a program works in

A folder lies somewhere in the tree of directories, together with the files in and around it.  A
place is a directory if some file lies below it, or if every system has a directory there.  Paths
are followed step by step, and every step starts from a directory.
-/

namespace SocBench

/-- Why a file cannot be read or made. -/
inductive FileError where
  | notFound
  | notDirectory
  | isDirectory
  | nameTooLong
  | containsNul
  | notText
  deriving DecidableEq

/-- The wording of the error. -/
def FileError.message : FileError → String
  | .notFound => "No such file or directory (os error 2)"
  | .notDirectory => "Not a directory (os error 20)"
  | .isDirectory => "Is a directory (os error 21)"
  | .nameTooLong => "File name too long (os error 36)"
  | .containsNul => "file name contained an unexpected NUL byte"
  | .notText => "stream did not contain valid UTF-8"

/-- What a file holds: a text, or bytes that are none. -/
inductive Content where
  | text (text : String)
  | binary
  deriving DecidableEq

/-- What a file of some bytes holds. -/
def Content.ofBytes (bytes : ByteArray) : Content :=
  (String.fromUTF8? bytes).elim .binary .text

/-- What stands at a place. -/
inductive Entry where
  | file (content : Content)
  | directory
  deriving DecidableEq

/-- A folder: its place, and the files in it and around it, each at its place. -/
structure Folder where
  home : Place := ["tmp", "bench"]
  files : List (Place × Content) := []

namespace Folder

/-- The most bytes in a name. -/
def maxNameSize : Nat := 255

/-- The most bytes in a path. -/
def maxPathSize : Nat := 4095

/-- The directories that every system has, by the paths that lead to them from the root. -/
def systemDirectories : List String :=
  ["bin", "boot", "dev", "dev/fd", "dev/pts", "dev/shm", "etc", "home", "lib", "lib64", "media",
   "mnt", "opt", "proc", "proc/self", "proc/self/fd", "root", "run", "sbin", "srv", "sys", "tmp",
   "usr", "usr/bin", "usr/games", "usr/include", "usr/lib", "usr/libexec", "usr/local",
   "usr/local/bin", "usr/local/etc", "usr/local/games", "usr/local/include", "usr/local/lib",
   "usr/local/man", "usr/local/sbin", "usr/local/share", "usr/local/src", "usr/sbin", "usr/share",
   "usr/share/doc", "usr/share/man", "usr/src", "var", "var/cache", "var/lib", "var/local",
   "var/lock", "var/log", "var/mail", "var/opt", "var/run", "var/spool", "var/tmp"]

/-- The programs that every system has, by the paths that lead to them from the root. -/
def systemPrograms : List String :=
  ["bin/cat", "bin/echo", "bin/ls", "bin/sh", "bin/true", "usr/bin/cat", "usr/bin/echo",
   "usr/bin/env", "usr/bin/ls", "usr/bin/sh", "usr/bin/true"]

/-- The file that is always empty, whatever is written to it. -/
def nullDevice : Place := ["dev", "null"]

/-- The file that has no room for anything. -/
def fullDevice : Place := ["dev", "full"]

/-- What every system has at a place. -/
def systemEntry? (place : Place) : Option Entry :=
  if place = nullDevice ∨ place = fullDevice then some (.file (.text ""))
  else
    let path := "/".intercalate place
    if place.isEmpty || systemDirectories.contains path then some .directory
    else if systemPrograms.contains path then some (.file .binary)
    else none

/-- What stands at a place. -/
def entry? (f : Folder) (place : Place) : Option Entry :=
  match f.files.lookup place with
  | some content => some (.file content)
  | none =>
    if place.isPrefixOf f.home || f.files.any (place.isPrefixOf ·.1) then some .directory
    else systemEntry? place

/-- Follows steps from a place.  The last one need not find anything. -/
def walk (f : Folder) : (place : Place) → (steps : List String) → Except FileError Place
  | place, [] => .ok place
  | place, name :: rest =>
    match f.entry? place with
    | none => .error .notFound
    | some (.file _) => .error .notDirectory
    | some .directory =>
      if maxNameSize < name.utf8ByteSize then .error .nameTooLong
      else f.walk (place.step name) rest

/-- Whether a path asks for a directory by ending in a slash. -/
def asksForDirectory (path : String) : Bool :=
  path.toList.getLast? = some '/'

/-- The steps of a path that can be followed at all. -/
def stepsOf (path : String) : Except FileError (List String) :=
  if path.toList.contains '\x00' then .error .containsNul
  else if path.isEmpty then .error .notFound
  else if maxPathSize < path.utf8ByteSize then .error .nameTooLong
  else .ok (Place.steps path)

/-- The place a path leads to. -/
def locate (f : Folder) (path : String) : Except FileError Place := do
  f.walk (Place.start f.home path) (← stepsOf path)

/-- Whether a path leads to a given place. -/
def leadsTo (f : Folder) (path : String) (place : Place) : Bool :=
  match f.locate path with
  | .ok found => found = place
  | .error _ => false

/-- What a path leads to, if anything. -/
def find? (f : Folder) (path : String) : Option Entry :=
  match f.locate path with
  | .ok place => f.entry? place
  | .error _ => none

/-- Whether a path leads to a directory. -/
def isDirectory (f : Folder) (path : String) : Bool :=
  f.find? path == some .directory

/-- Whether a path leads to a file. -/
def isFile (f : Folder) (path : String) : Bool :=
  match f.find? path with
  | some (.file _) => !asksForDirectory path
  | _ => false

/-- The file that a path leads to. -/
def openFile (f : Folder) (path : String) : Except FileError (Place × Content) := do
  let place ← f.locate path
  match f.entry? place with
  | none => .error .notFound
  | some .directory => .error .isDirectory
  | some (.file content) =>
    if asksForDirectory path then .error .notDirectory else .ok (place, content)

/-- Reads a file of text. -/
def read (f : Folder) (path : String) : Except FileError String := do
  match (← f.openFile path).2 with
  | .text text => .ok text
  | .binary => .error .notText

/-- Puts a content at a place.  The devices keep nothing. -/
def put (f : Folder) (place : Place) (content : Content) : Folder :=
  if place = nullDevice ∨ place = fullDevice then f
  else { f with files := f.files.filter (·.1 ≠ place) ++ [(place, content)] }

/-- Takes the files at some places away. -/
def without (f : Folder) (places : List Place) : Folder :=
  { f with files := f.files.filter (!places.contains ·.1) }

/-- The folder with the files of the given paths. -/
def ofFiles (files : List (String × Content)) : Folder :=
  let f : Folder := {}
  files.foldl (fun f (path, content) => f.put (Place.ofPath f.home path) content) f

/-- The text of a file, which is empty if there is none. -/
def textAt (f : Folder) (place : Place) : String :=
  match f.files.lookup place with
  | some (.text text) => text
  | _ => ""

/-- The texts of the files that lie in the folder itself and were not there before, by name. -/
def newTexts (f before : Folder) : List (String × String) :=
  f.files.filterMap fun (place, content) =>
    match f.home.isPrefixOf place, place.drop f.home.length, content with
    | true, [name], .text text =>
      if (before.files.lookup place).isNone then some (name, text) else none
    | _, _, _ => none

/-- Makes a file empty, or makes a new empty one.  A path that ends in a slash can only be that of
a directory, whether there is one or not. -/
def create (f : Folder) (path : String) : Except FileError Folder := do
  let steps ← stepsOf path
  if asksForDirectory path then
    let _ ← f.walk (Place.start f.home path) (steps.dropLast ++ ["."])
    .error .isDirectory
  else
    let place ← f.walk (Place.start f.home path) steps
    match f.entry? place with
    | some .directory => .error .isDirectory
    | _ => .ok (f.put place (.text ""))

/-- Gives a file a new text, if the path leads to a place for it. -/
def save (f : Folder) (path text : String) : Folder :=
  match f.locate path with
  | .ok place => f.put place (.text text)
  | .error _ => f

end Folder

/-- The machine that a bench runs on: its folder and the network ports in use. -/
structure Host where
  folder : Folder := {}
  portsInUse : List Nat := []

end SocBench
