import Rollcall.Path

/-!
# File trees

A snapshot of a file system without symbolic links.  An entry is found by its location, the components that lead to
it from the top of the tree; every beginning of a location is a directory.  A path that is not absolute starts at the
working directory.

Names and paths have bounded lengths.  A name that is too long cannot be looked for, which is noticed where the search
gets to it.
-/

namespace Rollcall

/-- What stands at a location. -/
inductive Entry where
  | directory
  | file (bytes : ByteArray)
  /-- A file that must not be read. -/
  | locked
deriving Inhabited

/-- A snapshot of a file system. -/
structure FileTree where
  /-- The location of the working directory. -/
  workingDirectory : List String
  /-- The entries in the order in which they were made; the last entry at a location is the one that holds. -/
  entries : List (List String × Entry)
deriving Inhabited

namespace FileTree

/-- The tree that holds only the working directory. -/
def empty (workingDirectory : List String) : FileTree := ⟨workingDirectory, []⟩

/-- Makes an entry at a path below the working directory. -/
def insert (t : FileTree) (path : Path) (entry : Entry) : FileTree :=
  { t with entries := t.entries ++ [(t.workingDirectory ++ path.parts, entry)] }

/-- What stands at a location. -/
def entry? (t : FileTree) (location : List String) : Option Entry :=
  match t.entries.reverse.find? fun e => e.1 == location with
  | some e => some e.2
  | none =>
    if location.isPrefixOf t.workingDirectory || t.entries.any (fun e => location.isPrefixOf e.1) then
      some .directory
    else none

/-- Whether a location is a directory. -/
def isDirectory (t : FileTree) (location : List String) : Bool :=
  match t.entry? location with
  | some .directory => true
  | _ => false

/-- Where a path starts. -/
def origin (t : FileTree) (path : Path) : List String :=
  if path.isAbsolute then [] else t.workingDirectory

/-- The result of looking for a path. -/
inductive Sighting where
  | found (location : List String)
  | missing
  | tooLong
deriving DecidableEq, Repr, Inhabited

/-- The most bytes that a name may have. -/
def maxNameSize : Nat := 255

/-- The most bytes that a path may have. -/
def maxPathSize : Nat := 4095

/-- Follows components from a location: only a directory can be left. -/
def follow (t : FileTree) : (location : List String) → List String → Sighting
  | location, [] => .found location
  | location, component :: components =>
    if !t.isDirectory location then .missing
    else if component = ".." then t.follow location.dropLast components
    else if maxNameSize < component.utf8ByteSize then .tooLong
    else
      let next := location ++ [component]
      if (t.entry? next).isSome then t.follow next components else .missing

/-- Looks for a path.  Nothing stands at a path with a null character. -/
def locate (t : FileTree) (path : Path) : Sighting :=
  if path.hasNull then .missing
  else if maxPathSize < path.render.utf8ByteSize then .tooLong
  else t.follow (t.origin path) path.parts

/-- The absolute path of a path, whether something stands there or not: two dots undo the component before
them. -/
def resolve (t : FileTree) (path : Path) : Path where
  root := .slash
  parts := path.parts.foldl (fun location c => if c = ".." then location.dropLast else location ++ [c])
    (t.origin path)

/-- The locations of everything that stands below a directory, relative to it. -/
def allBelow (t : FileTree) (location : List String) : List (List String) :=
  let known := t.workingDirectory :: t.entries.map (·.1)
  let below := known.filterMap fun l => if location.isPrefixOf l then some (l.drop location.length) else none
  (below.flatMap fun l => (List.range l.length).map fun n => l.take (n + 1)).eraseDups

end FileTree

end Rollcall
