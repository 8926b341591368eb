import Rollcall.Syntax.Node

/-!
# Locations

Where a declaration stands: a file path with byte offsets and points.  A location may also come from outside, so its
numbers are any integers.
-/

namespace Rollcall

/-- A row and a byte column, counted from zero. -/
structure Position where
  row : Int
  column : Int
deriving DecidableEq, Repr, Inhabited

/-- The first position of a file. -/
def Position.origin : Position := ⟨0, 0⟩

/-- A stretch of a file. -/
structure Location where
  path : String
  startByte : Int
  endByte : Int
  startPoint : Position
  endPoint : Position
deriving DecidableEq, Repr, Inhabited

namespace Location

/-- The location of a span in the file at `path`. -/
def ofSpan (path : String) (span : Span) : Location where
  path := path
  startByte := span.start
  endByte := span.stop
  startPoint := ⟨span.startPoint.row, span.startPoint.column⟩
  endPoint := ⟨span.stopPoint.row, span.stopPoint.column⟩

/-- The path with the row and column of the start, counted from one. -/
def render (l : Location) : String :=
  l.path ++ ":" ++ toString (l.startPoint.row + 1) ++ ":" ++ toString (l.startPoint.column + 1)

end Location

end Rollcall
