import Rollcall.Text.Search

/-!
# Paths

A path is a root and a row of components.  Reading one drops empty components and single dots; two dots stay, because
what they mean depends on the file tree.  Paths are compared component by component.
-/

namespace Rollcall

/-- Where a path starts: at the working directory, or at the top of the file tree.  A path with two slashes in front
starts at the top too, but it is another path than the one with a single slash. -/
inductive Path.Root where
  | relative
  | slash
  | slashes
deriving DecidableEq, Repr, Inhabited

/-- A file path. -/
structure Path where
  root : Path.Root
  parts : List String
deriving DecidableEq, Repr, Inhabited

namespace Path

/-- The root of a path, by the number of slashes in front of it: three and more are one. -/
def Root.ofCount : Nat → Root
  | 0 => .relative
  | 2 => .slashes
  | _ => .slash

/-- A root as text. -/
def Root.text : Root → String
  | .relative => ""
  | .slash => "/"
  | .slashes => "//"

/-- Reads a path. -/
def ofString (text : String) : Path where
  root := .ofCount (text.toList.takeWhile (· == '/')).length
  parts := ((Text.pieces '/' text.toList).map String.ofList).filter fun c => c != "" && c != "."

/-- A path as text; the relative path without components is a dot. -/
def render (p : Path) : String :=
  if p.root = .relative ∧ p.parts.isEmpty then "." else p.root.text ++ "/".intercalate p.parts

/-- Whether a path starts at the top of the file tree. -/
def isAbsolute (p : Path) : Bool :=
  p.root != .relative

/-- Whether a component holds a null character, which no name may have. -/
def hasNull (p : Path) : Bool :=
  p.parts.any fun c => c.toList.contains '\x00'

/-- The last component. -/
def name (p : Path) : String :=
  p.parts.getLast?.getD ""

/-- The path without its last component. -/
def parent (p : Path) : Path :=
  { p with parts := p.parts.dropLast }

/-- The path of something below a directory. -/
def below (p : Path) (relative : List String) : Path :=
  { p with parts := p.parts ++ relative }

/-- Whether `p` is `q` or lies below it, by their components. -/
def isUnder (p q : Path) : Bool :=
  p.root == q.root && q.parts.isPrefixOf p.parts

/-- A file name divided before the last dot that has something on both sides. -/
def splitName (name : String) : String × String :=
  let behind := name.toList.reverse.takeWhile (· != '.')
  let stem := name.toList.take (name.length - behind.length - 1)
  if behind.isEmpty || stem.isEmpty || behind.length = name.length then (name, "")
  else (String.ofList stem, String.ofList ('.' :: behind.reverse))

/-- The file name without its extension. -/
def stem (p : Path) : String := (splitName p.name).1

/-- The extension of the file name with its dot; none for a name that starts or ends with its only dot. -/
def extension (p : Path) : String := (splitName p.name).2

/-- The order of paths: component by component, by code points. -/
def before (p q : Path) : Bool :=
  !decide (q.parts < p.parts)

end Path

end Rollcall
