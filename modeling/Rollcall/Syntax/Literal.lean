import Rollcall.Syntax.Node
import Rollcall.Text.Numeral

/-!
# Literals

The values of literal expressions in attribute arguments.  A string literal gives the characters between its quotes as
they are written, escapes included; an integer literal gives its number whatever its suffix and digit separators.
-/

namespace Rollcall

/-- The value of a literal. -/
inductive Constant where
  | text (value : String)
  | flag (value : Bool)
  | number (value : Int)
deriving DecidableEq, Repr, Inhabited

namespace Literal

/-- The letters of integer suffixes. -/
def isSuffixLetter (c : Char) : Bool :=
  c == 'u' || c == 'U' || c == 'l' || c == 'L'

/-- The number that an integer literal denotes. -/
def integer? (cs : List Char) : Option Int :=
  Text.readInteger ((Text.dropEndWhile isSuffixLetter cs).filter (· != '_'))

/-- The value of a literal of some kind with its text; other expressions have none. -/
def value? (kind : SyntaxKind) (text : String) : Option Constant :=
  match kind with
  | .stringLiteral => some (.text (String.ofList (text.toList.drop 1).dropLast))
  | .verbatimStringLiteral => some (.text (String.ofList (text.toList.drop 2).dropLast))
  | .booleanLiteral => some (.flag (text == "true"))
  | .integerLiteral => (integer? text.toList).map .number
  | _ => none

end Literal

end Rollcall
