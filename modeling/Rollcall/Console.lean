import Rollcall.Event

/-!
# The console

Commands print on a console.  A text for the console can hold markup, which says how its parts look.  How markup is
written is up to the console; a text whose markup is bad is not shown.
-/

namespace Rollcall

/-- Why a text is not shown. -/
inductive DisplayError where
  | badMarkup (message : String)
  | badStyle (message : String)
deriving DecidableEq, Repr, Inhabited

/-- The message of an error. -/
def DisplayError.message : DisplayError → String
  | .badMarkup message => message
  | .badStyle message => message

/-- A column of a table. -/
structure Console.Column where
  head : String
  cells : List String
deriving DecidableEq, Repr, Inhabited

/-- Where a command prints. -/
structure Console where
  /-- The text with markup that shows a text as it is. -/
  escape : String → String
  /-- The lines of a text with markup. -/
  lines : String → Except DisplayError (List String)
  /-- The lines of a table whose heads and cells are texts with markup. -/
  tableLines : List Console.Column → Except DisplayError (List String)
  /-- The lines of an entry of the log.  The first entry shows the time. -/
  entryLines : (isFirst : Bool) → Event → List String

end Rollcall
