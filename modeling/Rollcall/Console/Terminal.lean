import Rollcall.Console.Markup
import Rollcall.Console.Table

/-!
# The terminal

The console that shows texts in lines of a fixed number of columns.
-/

namespace Rollcall.Console

/-- The error of a text whose markup has an error. -/
def MarkupError.display : MarkupError → DisplayError
  | .badColour fault => .badStyle fault.message
  | e => .badMarkup e.message

namespace Terminal

/-- The columns of the terminal. -/
def columns : Nat := 1000

/-- The lines of a markup text. -/
def markupLines (markup : String) : Except MarkupError (List String) := do
  let rendered ← Markup.render markup
  rendered.readStyles
  return (Wrap.lines .fold columns rendered.text).map String.ofList

/-- The lines of a table whose cells are markup texts.  They are read column by column, and then the styles in them. -/
def tableLines (table : List Column) : Except MarkupError (List String) := do
  let rendered ← table.mapM fun c => do return (c.head, ← c.cells.mapM Markup.render)
  (rendered.flatMap (·.2)).forM Markup.Rendered.readStyles
  return Table.lines columns (rendered.map fun (head, cells) =>
    ⟨head, cells.map fun cell => String.ofList cell.text⟩)

/-! ### The log -/

/-- A text with spaces up to some length. -/
def leftAligned (length : Nat) (text : String) : String :=
  String.ofList (text.toList ++ List.replicate (length - text.length) ' ')

/-- The time of the first entry of the log.  The terminal has no clock, so it is always the same. -/
def logTime : String := "[00:00:00]"

/-- The columns that the time and the level take in the lines of the log. -/
def timeWidth : Nat := 11

@[inherit_doc timeWidth]
def levelWidth : Nat := 9

/-- The lines of a log entry: the time, the level, and the message, which has the columns behind them. -/
def entryLines (isFirst : Bool) (e : Event) : List String :=
  let time := if isFirst then logTime else ""
  let start := leftAligned timeWidth time ++ leftAligned levelWidth e.level.label
  let message := e.message.toList.filter fun c => !Markup.isHiddenControl c
  match Wrap.lines .fold (columns - start.length) message with
  | [] => [start]
  | line :: lines =>
    (start ++ String.ofList line) :: lines.map fun line => leftAligned start.length "" ++ String.ofList line

end Terminal

/-- The terminal as a console. -/
def terminal : Console where
  escape := Markup.escape
  lines markup := (Terminal.markupLines markup).mapError MarkupError.display
  tableLines table := (Terminal.tableLines table).mapError MarkupError.display
  entryLines := Terminal.entryLines

end Rollcall.Console
