import Rollcall.Console
import Rollcall.LoadError
import Rollcall.Threshold

/-!
# Jobs

A job is a part of a command: it prints on the console, logs events, and may end the command.  What was printed before
the end stays printed.
-/

namespace Rollcall

/-- A failure that a command does not expect. -/
inductive Failure where
  | load (error : LoadError)
  | display (error : DisplayError)
deriving DecidableEq, Repr, Inhabited

/-- The message of a failure. -/
def Failure.message : Failure → String
  | .load error => error.message
  | .display error => error.message

/-- How a command ends before its end. -/
inductive Stop where
  | exit (code : Nat)
  | failure (cause : Failure)
deriving DecidableEq, Repr, Inhabited

/-- What was printed so far. -/
structure Screen where
  lines : List String
  /-- Whether an event was logged: only the first shows the time. -/
  hasLog : Bool
deriving DecidableEq, Repr, Inhabited

/-- A part of a command: it prints, and it may end the command. -/
abbrev Job := ExceptT Stop (StateM Screen)

namespace Job

/-! ### Printing -/

/-- Prints lines. -/
def printLines (lines : List String) : Job Unit :=
  modify fun s => { s with lines := s.lines ++ lines }

/-- Prints a text as it is. -/
def printPlain (text : String) : Job Unit :=
  printLines (text.splitOn "\n")

/-- The result of something that fails where a text cannot be shown. -/
def ofDisplay {α : Type} (result : Except DisplayError α) : Job α :=
  match result with
  | .ok a => pure a
  | .error e => throw (.failure (.display e))

variable (c : Console)

/-- Prints a text with markup. -/
def printMarkup (markup : String) : Job Unit := do
  printLines (← ofDisplay (c.lines markup))

/-- Prints a table whose cells are texts with markup. -/
def printTable (columns : List Console.Column) : Job Unit := do
  printLines (← ofDisplay (c.tableLines columns))

/-! ### The log -/

/-- Logs an event. -/
def logEvent (e : Event) : Job Unit := do
  let isFirst := !(← get).hasLog
  printLines (c.entryLines isFirst e)
  modify fun s => { s with hasLog := true }

/-- Logs the events that reach the threshold. -/
def log (threshold : Threshold) (events : List Event) : Job Unit :=
  (events.filter fun e => threshold.rank ≤ e.level.rank).forM (logEvent c)

end Job

end Rollcall
