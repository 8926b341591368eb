import Rollcall.Syntax.Node
import Rollcall.Syntax.Token

/-!
# Pieces

The tokens of a source grouped by their brackets.  A pair of braces may be the body of a declaration, so the group of a
pair of braces also holds the nodes that its contents declare.  Groups are made from the inside out: when a bracket
closes, the contents of its group are already made of pieces.

The directives of a condition, from `#if` to `#endif`, make up a group too.
-/

namespace Rollcall

/-- A token, or a pair of brackets or of conditional directives with its contents. -/
inductive Piece where
  | token (token : Token)
  | group (opening : Token) (items : List Piece) (members : List Node) (closing : Token)
deriving Inhabited

namespace Piece

/-- Where a piece starts. -/
def start : Piece → Nat
  | .token t => t.start
  | .group opening .. => opening.start

/-- Where a piece ends. -/
def stop : Piece → Nat
  | .token t => t.stop
  | .group _ _ _ closing => closing.stop

/-- Whether a piece is a word with this spelling. -/
def isWord (spelling : String) : Piece → Bool
  | .token t => t.kind == .word && t.spelling == spelling
  | _ => false

/-- Whether a piece is one of some words. -/
def isWordOf (spellings : List String) (p : Piece) : Bool :=
  spellings.any fun spelling => p.isWord spelling

/-- Whether a piece is some word. -/
def isAnyWord : Piece → Bool
  | .token t => t.kind == .word
  | _ => false

/-- Whether a piece is a symbol with this spelling. -/
def isSymbol (spelling : String) : Piece → Bool
  | .token t => t.kind == .symbol && t.spelling == spelling
  | _ => false

/-- Whether a piece is one of some symbols. -/
def isSymbolOf (spellings : List String) (p : Piece) : Bool :=
  spellings.any fun spelling => p.isSymbol spelling

/-- Whether a piece is a group that opens with this bracket. -/
def isGroup (bracket : String) : Piece → Bool
  | .group opening .. => opening.spelling == bracket
  | _ => false

/-- A pair of braces. -/
def isBraces : Piece → Bool := isGroup "\x7b"

/-- A pair of parentheses. -/
def isParentheses : Piece → Bool := isGroup "("

/-- A pair of square brackets. -/
def isBrackets : Piece → Bool := isGroup "["

/-- The directives of a condition. -/
def isCondition : Piece → Bool
  | .group opening .. => opening.kind == .directive .opening
  | _ => false

/-- A directive that starts another branch of a condition. -/
def isBranch : Piece → Bool
  | .token t => t.kind == .directive .branch
  | _ => false

/-- The contents of a group. -/
def items : Piece → List Piece
  | .group _ items _ _ => items
  | _ => []

/-- The nodes that the contents of a group declare. -/
def members : Piece → List Node
  | .group _ _ members _ => members
  | _ => []

/-- The brackets that are open at a token, innermost first: what was read before the bracket, in reverse, and the
bracket. -/
abbrev Open := List (List Piece × Token)

/-- Reads one more token: `done` holds what was read since the innermost open bracket, in reverse. -/
def push (declared : List Piece → List Node) (state : List Piece × Open) (t : Token) : List Piece × Open :=
  let (done, stack) := state
  match t.kind, stack with
  | .openBracket, _ | .directive .opening, _ => ([], (done, t) :: stack)
  | .closeBracket, (outer, opening) :: stack | .directive .closing, (outer, opening) :: stack =>
    let items := done.reverse
    (.group opening items (if t.spelling == "\x7d" then declared items else []) t :: outer, stack)
  | _, _ => (.token t :: done, stack)

/-- The pieces of a row of tokens.  `declared` gives the nodes that the contents of braces declare. -/
def ofTokens (declared : List Piece → List Node) (tokens : List Token) : List Piece :=
  let (done, stack) := (tokens.filter fun t => !t.isTrivia).foldl (push declared) ([], [])
  (stack.foldl (fun inner (outer, opening) => inner ++ .token opening :: outer) done).reverse

/-! ### Lists of types -/

/-- The depth of angle brackets behind a piece, given the depth before it. -/
def angleDepth (depth : Nat) (p : Piece) : Nat :=
  if p.isSymbol "<" then depth + 1 else if p.isSymbol ">" then depth - 1 else depth

/-- The number of pieces behind an opening angle bracket up to the closing one; `depth` counts the brackets opened in
between. -/
def angleLength? : (depth : Nat) → List Piece → Option Nat
  | _, [] => none
  | depth, p :: ps =>
    if depth = 0 && p.isSymbol ">" then some 1 else (angleLength? (angleDepth depth p) ps).map (· + 1)

/-- Puts a piece in front of the first part. -/
def prepend (p : Piece) : List (List Piece) → List (List Piece)
  | [] => [[p]]
  | part :: parts => (p :: part) :: parts

/-- The parts of a row of pieces between its commas, except for commas in angle brackets. -/
def splitTypesFrom : (depth : Nat) → List Piece → List (List Piece)
  | _, [] => [[]]
  | depth, p :: ps =>
    if depth = 0 && p.isSymbol "," then [] :: splitTypesFrom 0 ps
    else prepend p (splitTypesFrom (angleDepth depth p) ps)

/-- The non-empty parts of a row of types or names. -/
def splitTypes (pieces : List Piece) : List (List Piece) :=
  (splitTypesFrom 0 pieces).filter fun part => !part.isEmpty

/-- The number of pieces before the first parentheses that do not stand in angle brackets. -/
def untilParentheses : (depth : Nat) → List Piece → Nat
  | _, [] => 0
  | depth, p :: ps => if depth = 0 && p.isParentheses then 0 else untilParentheses (angleDepth depth p) ps + 1

/-! ### Types among expressions -/

/-- The words that are no names of types. -/
def valueWords : List String := ["true", "false", "null", "this", "base", "new", "typeof", "default", "sizeof"]

/-- The words that may stand before a type. -/
def typeModifiers : List String := ["ref", "in", "out", "readonly"]

/-- Whether a piece is the rank of an array. -/
def isRank (p : Piece) : Bool :=
  p.isBrackets && p.items.all fun q => q.isSymbol ","

/-- Whether a piece is a type of tuples. -/
def isTupleType (p : Piece) : Bool :=
  p.isParentheses && (p.items.any fun q => q.isSymbol ",") &&
    p.items.all fun q => (q.isAnyWord && !q.isWordOf valueWords) || q.isParentheses || q.isRank ||
      q.isSymbolOf ["<", ">", ",", ".", "?", "*", "::"]

/-- Whether pieces look like a list of types.  A type starts only where `mayStart` says so: at the beginning, behind a
comma, an opening angle bracket or a dot. -/
def isTypeRow : (mayStart : Bool) → List Piece → Bool
  | _, [] => true
  | mayStart, p :: ps =>
    if p.isAnyWord then mayStart && !p.isWordOf valueWords && isTypeRow (p.isWordOf typeModifiers) ps
    else if p.isTupleType then mayStart && isTypeRow false ps
    else if p.isSymbolOf ["<", ",", ".", "::"] then isTypeRow true ps
    else (p.isSymbolOf [">", "?", "*"] || p.isRank) && isTypeRow false ps

/-- The words that may stand behind a value and go on with the expression. -/
def infixWords : List String := ["is", "as", "and", "or", "switch", "with", "when", "in"]

/-- Whether an expression may go on with these pieces behind a value, apart from parentheses and square brackets.  If
not, a closing angle bracket before them is a comparison. -/
def continuesValue : List Piece → Bool
  | [] => true
  | p :: _ =>
    p.isWordOf infixWords ||
      match p with
      | .token t => t.kind == .symbol && !p.isSymbolOf ["-", "+", "!", "~", "*", "&"]
      | _ => false

/-- Whether pieces start with parentheses or square brackets, which can go on with a value or be one. -/
def startsWithGroup (pieces : List Piece) : Bool :=
  pieces.head?.any fun p => p.isParentheses || p.isBrackets

/-- What can stand at a place in an expression. -/
inductive Expectation where
  | value
  /-- The type of a pattern, behind `is`. -/
  | pattern
  /-- A type that is the right side of an operator, behind `as`. -/
  | operand
  /-- The type of a new value. -/
  | creation
deriving DecidableEq, Repr, Inhabited

/-- What is expected behind a piece, given what was expected before. -/
def expectationAfter (e : Expectation) (p : Piece) : Expectation :=
  if p.isWordOf ["is", "not", "and", "or"] then .pattern
  else if p.isWord "as" then .operand
  else if p.isWordOf ["new", "stackalloc"] then .creation
  else if p.isAnyWord || p.isSymbolOf [".", "::"] then e
  else .value

/-- Whether a list of type arguments may stand before some pieces. -/
def Expectation.allowsTypes : Expectation → List Piece → Bool
  | .value, rest => continuesValue rest || startsWithGroup rest
  | .pattern, rest => !rest.head?.any Piece.isBrackets
  | .operand, rest => continuesValue rest
  | .creation, _ => true

/-- The words for types that are no values. -/
def typeWords : List String :=
  ["bool", "byte", "char", "decimal", "double", "dynamic", "float", "int", "long", "nint", "nuint", "object", "sbyte",
    "short", "string", "uint", "ulong", "ushort", "void"]

/-- Whether pieces that look like a list of types can also be read as comparisons of values: there is nothing in them
that only types have, and every closing angle bracket has a value or another one behind it. -/
def readsAsValues : List Piece → Bool
  | [] => true
  | p :: ps =>
    let isFollowed := !(ps.head?.any fun q => q.isSymbolOf [",", "."])
    !p.isWordOf typeWords && !p.isSymbolOf ["?", "*"] && !p.isRank && (!p.isSymbol ">" || isFollowed) &&
      readsAsValues ps

/-- The number of pieces of a list of type arguments behind its opening angle bracket; zero if the bracket opens no
such list.  A list that can also be read as comparisons is read so if `prefersValues` says so and there are more
arguments. -/
def typeArgumentsLength (e : Expectation) (prefersValues : Bool) (pieces : List Piece) : Nat :=
  match angleLength? 0 pieces with
  | some length =>
    let list := pieces.take length
    let rest := pieces.drop length
    let isAmbiguous := e != .creation && readsAsValues list && !continuesValue rest && !rest.head?.any Piece.isBraces
    if isTypeRow true list && e.allowsTypes rest &&
        !(isAmbiguous && prefersValues && rest.any fun p => p.isSymbol ",") then length
    else 0
  | none => 0

/-- Whether a row of names goes on with a piece. -/
def continuesNames (p : Piece) : Bool :=
  p.isAnyWord || p.isParentheses || p.isBrackets || p.isSymbolOf [".", "::", ":"]

/-- The parts of a row of expressions between its commas, except for commas among type arguments, of which `inside`
pieces are still to come.  Only names were read so far if `isPlain` says so: then comparisons are preferred. -/
def splitFrom : (inside : Nat) → Expectation → (isPlain : Bool) → List Piece → List (List Piece)
  | _, _, _, [] => [[]]
  | inside + 1, e, isPlain, p :: ps => prepend p (splitFrom inside e isPlain ps)
  | 0, e, isPlain, p :: ps =>
    if p.isSymbol "," then [] :: splitFrom 0 .value false ps
    else
      let inside := if p.isSymbol "<" then typeArgumentsLength e isPlain ps else 0
      if inside = 0 then prepend p (splitFrom 0 (expectationAfter e p) (isPlain && continuesNames p) ps)
      else prepend p (splitFrom inside e false ps)

/-- The non-empty parts of a row of expressions. -/
def split (pieces : List Piece) : List (List Piece) :=
  (splitFrom 0 .value true pieces).filter fun part => !part.isEmpty

/-! ### Assignments -/

/-- The words that start or join an expression that is no target of an assignment. -/
def operatorWords : List String :=
  ["is", "as", "and", "or", "not", "await", "throw", "ref", "switch", "with", "in", "from", "delegate", "async",
    "static", "checked", "unchecked"]

/-- The number of pieces at the beginning that can make up the target of an assignment: names and what belongs to them.
A name behind parentheses would make them a cast. -/
def targetLength : (inside : Nat) → (afterParentheses : Bool) → List Piece → Nat
  | _, _, [] => 0
  | inside + 1, afterParentheses, _ :: ps => targetLength inside afterParentheses ps + 1
  | 0, afterParentheses, p :: ps =>
    let inside := if p.isSymbol "<" then typeArgumentsLength .value false ps else 0
    if (p.isAnyWord && !afterParentheses && !p.isWordOf operatorWords) || p.isParentheses || p.isBrackets ||
        p.isSymbolOf [".", "->", "::"] || inside ≠ 0 then
      targetLength inside p.isParentheses ps + 1
    else 0

/-- The operators of assignments, as rows of symbols. -/
def assignmentOperators : List (List String) :=
  [["="], ["+="], ["-="], ["*="], ["/="], ["%="], ["&="], ["|="], ["^="], ["??", "="], ["<", "<="], [">", ">="],
    [">", ">", ">="]]

/-- Whether pieces start with a row of symbols. -/
def startsWith : List String → List Piece → Bool
  | [], _ => true
  | spelling :: spellings, p :: ps => p.isSymbol spelling && startsWith spellings ps
  | _ :: _, [] => false

/-- Whether an expression is an assignment. -/
def isAssignment (pieces : List Piece) : Bool :=
  let pieces := pieces.dropWhile fun p => p.isSymbol "*"
  let target := targetLength 0 false pieces
  target ≠ 0 && assignmentOperators.any fun operator => startsWith operator (pieces.drop target)

end Piece

end Rollcall
