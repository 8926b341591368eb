import Rollcall.Console.Cluster
import Rollcall.Text.Blank
import Rollcall.Text.Search

/-!
# Lines

A text is shown in lines of a bounded width.  A line ends at a line feed, or before a word that does not fit.  A word
that is too wide for a line is folded or cut.
-/

namespace Rollcall.Console

/-- What is done with a word that is wider than a line. -/
inductive Overflow where
  /-- It is continued in the next lines. -/
  | fold
  /-- It is cut, and an ellipsis stands at its end. -/
  | ellipsis
deriving DecidableEq, Repr, Inhabited

namespace Wrap

/-! ### Tabs -/

/-- The distance between two stops of the tabulator. -/
def tabWidth : Nat := 8

/-- The pieces of a line between its tabs, with spaces in the place of the tabs, where `column` columns are taken. -/
def expandPieces : (column : Nat) → List (List Char) → List Char
  | _, [] => []
  | _, [piece] => piece
  | column, piece :: pieces =>
    let start := piece ++ [' ']
    let stop := column + width start
    let spaces := (tabWidth - stop % tabWidth) % tabWidth
    start ++ List.replicate spaces ' ' ++ expandPieces (stop + spaces) pieces

/-- A line with spaces in the place of tabs. -/
def expandTabs (line : List Char) : List Char :=
  expandPieces 0 (Text.pieces '\t' line)

/-! ### Words -/

/-- A text divided before each character that is not blank and stands behind a blank. -/
def blankEnded : List Char → List (List Char)
  | [] => []
  | c :: cs =>
    match blankEnded cs with
    | [] => [[c]]
    | word :: words =>
      if Text.isBlank c && !word.head?.any Text.isBlank then [c] :: word :: words else (c :: word) :: words

/-- The words of a line with the blanks behind them, and with the blanks before the first one.  Blanks alone are no
word. -/
def wordsOf (line : List Char) : List (List Char) :=
  match blankEnded (line.dropWhile Text.isBlank) with
  | [] => []
  | word :: words => (line.takeWhile Text.isBlank ++ word) :: words

/-- The lines that words fill, behind `line`, which takes `used` columns.  The blanks at the end of a word may stand out
of the line. -/
def fill (overflow : Overflow) (columns : Nat) : (line : List Char) → (used : Nat) → List (List Char) →
    List (List Char)
  | line, _, [] => [line]
  | line, used, word :: words =>
    let needed := width (Text.dropEndWhile Text.isBlank word)
    let finished := if line.isEmpty then [] else [line]
    if used + needed ≤ columns then fill overflow columns (line ++ word) (used + width word) words
    else if needed ≤ columns || overflow = .ellipsis then
      finished ++ fill overflow columns word (width word) words
    else
      let parts := Cluster.fold columns [] 0 (Cluster.ofText word)
      let last := parts.getLast?.getD []
      finished ++ parts.dropLast ++ fill overflow columns last (width last) words

/-! ### Lines -/

/-- A line without blanks at its end that make it longer than `columns` characters. -/
def dropExcess (columns : Nat) (line : List Char) : List Char :=
  let blanks := line.length - (Text.dropEndWhile Text.isBlank line).length
  line.take (line.length - min blanks (line.length - columns))

/-- A line that is cut to its width. -/
def cut (overflow : Overflow) (columns : Nat) (line : List Char) : List Char :=
  if width line ≤ columns then line
  else
    match overflow with
    | .fold => Cluster.take columns (Cluster.ofText line)
    | .ellipsis => Cluster.take (columns - 1) (Cluster.ofText line) ++ ['…']

/-- The lines in which a line without line feeds is shown. -/
def linesOfLine (overflow : Overflow) (columns : Nat) (line : List Char) : List (List Char) :=
  let line := expandTabs line
  let lines :=
    match wordsOf line with
    | [] => [line]
    | words => fill overflow columns [] 0 words
  lines.map fun line => cut overflow columns (dropExcess columns line)

/-- The lines in which a text is shown. -/
def lines (overflow : Overflow) (columns : Nat) (text : List Char) : List (List Char) :=
  (Text.pieces '\n' text).flatMap (linesOfLine overflow columns)

end Wrap

end Rollcall.Console
