import Rollcall.Console.Literal.Token

/-!
# The grammar of literals

An expression is read from left to right: an operand has to follow an operator, and an operator or a comma has to follow
an operand, unless both are texts.  Inside curly brackets, a colon divides a key from its value; if the first item has
one, all of them need one.
-/

namespace Rollcall.Console

/-- An operand. -/
inductive Operand where
  | text (isBytes : Bool)
  | numeral
  /-- A name, whether it stands first in its item, and whether it is a soft word. -/
  | name (isFirst isSoft : Bool)
  | constant
  | group
deriving DecidableEq, Repr, Inhabited

/-- What was read last. -/
inductive Spot where
  /-- Nothing, an opening bracket or a comma. -/
  | item
  /-- An operator. -/
  | operator
  /-- The colon behind a key. -/
  | value
  /-- An equals sign, and whether a name stands before it. -/
  | equals (isName : Bool)
  | behind (operand : Operand)
deriving DecidableEq, Repr, Inhabited

/-- What is in curly brackets. -/
inductive Content where
  | unknown
  | members
  | pairs
deriving DecidableEq, Repr, Inhabited

/-- An open bracket. -/
structure Frame where
  bracket : Char
  /-- Whether nothing of the item was read. -/
  isEmpty : Bool
  content : Content
  /-- Whether the item has a colon. -/
  hasColon : Bool
deriving DecidableEq, Repr, Inhabited

namespace Literal

/-- The words that are literals. -/
def constants : List String := ["True", "False", "None"]

/-- The words between two operands. -/
def wordOperators : List String := ["and", "or", "in", "is"]

/-- The words that no literal holds. -/
def reservedWords : List String :=
  ["if", "else", "elif", "for", "while", "def", "class", "import", "from", "as", "async", "await", "assert", "break",
    "continue", "del", "except", "finally", "global", "nonlocal", "pass", "raise", "return", "try", "with", "lambda",
    "yield"]

/-- The names that may stand before an operand in other constructs. -/
def softWords : List String := ["match", "case", "_"]

/-- The operand that a token is. -/
def operand? (isFirst : Bool) : LiteralToken → Option Operand
  | .numeral _ => some .numeral
  | .ellipsis => some .numeral
  | .text form _ => some (.text (form = .bytes))
  | .name word => some (if constants.contains word then .constant else .name isFirst (softWords.contains word))
  | _ => none

/-- Whether a token is a word that needs operands around it, or that no literal holds. -/
def isReserved : LiteralToken → Bool
  | .name word => wordOperators.contains word || reservedWords.contains word
  | _ => false

/-- The fault of an operand behind another one. -/
def adjacent (frames : List Frame) (first : Operand) (second : LiteralToken) : LiteralFault :=
  match first, second with
  | .name true true, _ => .malformed
  | .name true false, .text _ _ => .malformed
  | _, _ => if frames.isEmpty then .malformed else .missingComma

/-- The frames behind a closing bracket. -/
def close (frames : List Frame) : Except LiteralFault (List Frame) :=
  match frames with
  | [] => .error .malformed
  | f :: frames => if f.content = .pairs && !f.hasColon && !f.isEmpty then .error .missingColon else .ok frames

/-- The frames behind a comma. -/
def endItem (frames : List Frame) : Except LiteralFault (List Frame) :=
  match frames with
  | [] => .ok []
  | f :: frames =>
    if f.content = .pairs && !f.hasColon then .error .missingColon
    else
      let content := if f.content = .unknown then .members else f.content
      .ok ({ f with content, hasColon := false, isEmpty := true } :: frames)

/-- The frames behind the colon of a key. -/
def endKey (frames : List Frame) : Except LiteralFault (List Frame) :=
  match frames with
  | [] => .error .malformed
  | f :: frames =>
    if f.bracket = '\x7b' && f.content ≠ .members && !f.hasColon then
      .ok ({ f with content := .pairs, hasColon := true } :: frames)
    else .error .malformed

/-- The frames in which an item is not empty any more. -/
def startItem : List Frame → List Frame
  | [] => []
  | f :: frames => { f with isEmpty := false } :: frames

/-- Where the reading of a literal stands: the open brackets and what was read last. -/
structure State where
  frames : List Frame
  spot : Spot
deriving DecidableEq, Repr, Inhabited

/-- Opens a bracket. -/
def State.enter (s : State) (bracket : Char) : State :=
  ⟨⟨bracket, true, .unknown, false⟩ :: startItem s.frames, .item⟩

/-- Reads a token with which an operand starts. -/
def State.start? (s : State) (token : LiteralToken) : Option State :=
  match token with
  | .sign => some ⟨startItem s.frames, .operator⟩
  | .tilde => some ⟨startItem s.frames, .operator⟩
  | .opening bracket => some (s.enter bracket)
  | .name "not" => some ⟨startItem s.frames, .operator⟩
  | token =>
    if isReserved token then none
    else (operand? (s.spot = .item) token).map fun operand => ⟨startItem s.frames, .behind operand⟩

/-- Reads a token that is not behind an operand. -/
def State.start (s : State) (token : LiteralToken) : Except LiteralFault State :=
  match s.spot, token, s.start? token with
  | .equals isName, _, some _ => .error (.assigned isName)
  | _, _, some s => .ok s
  | .item, .closing _, none => do return ⟨← close s.frames, .behind .group⟩
  | .value, .closing _, none => .error .missingValue
  | .value, .comma, none => .error .missingValue
  | _, _, none => .error .malformed

/-- Reads a token behind an operand. -/
def State.continue (s : State) (operand : Operand) (token : LiteralToken) : Except LiteralFault State :=
  match operand, token with
  | .text isBytes, .text form _ => if isBytes = decide (form = .bytes) then .ok s else .error .mixedTexts
  | _, .sign => .ok { s with spot := .operator }
  | _, .operator => .ok { s with spot := .operator }
  | _, .comma => do return ⟨← endItem s.frames, .item⟩
  | _, .colon => do return ⟨← endKey s.frames, .value⟩
  | _, .closing _ => do return ⟨← close s.frames, .behind .group⟩
  | _, .opening '(' => .ok (s.enter '(')
  | _, .opening '[' => .ok (s.enter '[')
  | _, .opening _ => .error (adjacent s.frames operand token)
  | .constant, .equals => .error .malformed
  | .name _ _, .equals => .ok { s with spot := .equals true }
  | _, .equals => .ok { s with spot := .equals false }
  | _, .stranger => .error .malformed
  | _, .tilde => .error .malformed
  | _, .newline => .error .malformed
  | _, .name word =>
    if wordOperators.contains word then .ok { s with spot := .operator }
    else if reservedWords.contains word then .error .malformed
    else .error (adjacent s.frames operand token)
  | _, _ => .error (adjacent s.frames operand token)

/-- Reads a token.  A text may stand in its place and have a fault itself. -/
def State.step (s : State) (token : LiteralToken) : Except LiteralFault State := do
  let next ← match s.spot with
    | .behind operand => s.continue operand token
    | _ => s.start token
  match token with
  | .text _ (some fault) => throw fault
  | _ => return next

/-- The fault of an expression that ends here. -/
def State.endFault? (s : State) : Option LiteralFault :=
  match s.frames, s.spot with
  | f :: _, _ => some (.neverClosed f.bracket)
  | [], .item => none
  | [], .behind _ => none
  | [], _ => some .malformed

/-- What is wrong with tokens that should be an expression. -/
def syntaxFault? (tokens : List LiteralToken) : Option LiteralFault :=
  match tokens.foldlM State.step ⟨[], .item⟩ with
  | .error fault => some fault
  | .ok s => if tokens.isEmpty then some .malformed else s.endFault?

end Literal

end Rollcall.Console
