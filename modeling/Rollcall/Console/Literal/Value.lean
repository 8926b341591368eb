import Rollcall.Console.Literal.Grammar

/-!
# The values of literals

An expression is a literal if it is put together from numerals, texts and a few names by tuples, lists, sets and
dictionaries.  The only operations are the sign of a numeral, the sum of a real and an imaginary numeral, and the call
that makes an empty set.  The members of a set and the keys of a dictionary are hashed, which not every value can be.
-/

namespace Rollcall.Console

/-- An expression, as far as it matters for whether it is a literal. -/
inductive Expression where
  | numeral (isImaginary : Bool)
  | signed (isImaginary : Bool)
  /-- The sum of a real and an imaginary numeral. -/
  | sum
  /-- A text or a constant. -/
  | constant
  /-- The name of the function that makes a set. -/
  | setName
  | emptySet
  | tuple (members : List Expression)
  | list (members : List Expression)
  | set (members : List Expression)
  /-- A dictionary with its keys, each before its value. -/
  | dictionary (members : List Expression)
  | other
deriving Repr, Inhabited

namespace Expression

/-! ### Faults -/

/-- The kind of a value that cannot be hashed, if the value of an expression is one or holds one. -/
def unhashable? : Expression → Option String
  | .tuple members => firstUnhashable? members
  | .list _ => some "list"
  | .set _ => some "set"
  | .emptySet => some "set"
  | .dictionary _ => some "dict"
  | _ => none
where
  firstUnhashable? : List Expression → Option String
    | [] => none
    | e :: es => e.unhashable? <|> firstUnhashable? es

/-- The fault of a value that is to be hashed. -/
def hashFault? (e : Expression) : Option LiteralFault :=
  e.unhashable?.map .unhashable

/-- What is wrong with an expression that should be a literal.  Members and keys are hashed one by one. -/
def fault? : Expression → Option LiteralFault
  | .tuple members => membersFault? members
  | .list members => membersFault? members
  | .set members => hashedFault? members
  | .dictionary members => pairsFault? members
  | .setName => some .notLiteral
  | .other => some .notLiteral
  | _ => none
where
  membersFault? : List Expression → Option LiteralFault
    | [] => none
    | e :: es => e.fault? <|> membersFault? es
  hashedFault? : List Expression → Option LiteralFault
    | [] => none
    | e :: es => e.fault? <|> e.hashFault? <|> hashedFault? es
  pairsFault? : List Expression → Option LiteralFault
    | key :: value :: rest => key.fault? <|> value.fault? <|> key.hashFault? <|> pairsFault? rest
    | _ => none

end Expression

/-! ### Reading -/

/-- What was read of an expression. -/
inductive Prospect where
  | nothing
  /-- A sign. -/
  | sign
  /-- A real numeral and a sign. -/
  | sum
  | whole (e : Expression)
  /-- Something that no literal starts with. -/
  | strange
deriving Repr, Inhabited

namespace Prospect

/-- What was read behind one more operand.  Two operands follow each other only if they are texts. -/
def operand : Prospect → Expression → Prospect
  | .nothing, e => .whole e
  | .sign, .numeral isImaginary => .whole (.signed isImaginary)
  | .sum, .numeral true => .whole .sum
  | .whole .constant, .constant => .whole .constant
  | _, _ => .whole .other

/-- What was read behind one more sign. -/
def signed : Prospect → Prospect
  | .nothing => .sign
  | .whole (.numeral false) => .sum
  | .whole (.signed false) => .sum
  | _ => .strange

/-- The expression that ends here. -/
def finish : Prospect → Expression
  | .whole e => e
  | _ => .other

end Prospect

/-- An open bracket with what was read behind it. -/
structure Level where
  bracket : Char
  /-- Whether the bracket stands behind an operand. -/
  isCall : Bool
  /-- What stands before the bracket. -/
  before : Prospect
  /-- The finished members, the last first. -/
  members : List Expression
  /-- The finished keys, the last first. -/
  keys : List Expression
  hasComma : Bool
deriving Repr, Inhabited

namespace Literal

/-- Where the reading of an expression stands. -/
structure Progress where
  levels : List Level
  prospect : Prospect
deriving Repr, Inhabited

/-- The members of a level with the one that was read last. -/
def allMembers (l : Level) (prospect : Prospect) : List Expression :=
  match prospect with
  | .nothing => l.members.reverse
  | prospect => (prospect.finish :: l.members).reverse

/-- The expression in brackets that are closed.  Round brackets without a comma belong to no tuple. -/
def closed (l : Level) (prospect : Prospect) : Expression :=
  let members := allMembers l prospect
  if l.isCall then
    match l.bracket, l.before, members with
    | '(', .whole .setName, [] => .emptySet
    | _, _, _ => .other
  else if l.bracket = '[' then .list members
  else if l.bracket = '(' then
    match members with
    | [e] => if l.hasComma then .tuple [e] else e
    | members => .tuple members
  else if l.keys.isEmpty && !members.isEmpty then .set members
  else .dictionary ((l.keys.reverse.zip members).flatMap fun (key, value) => [key, value])

/-- Reads a token of an expression whose syntax is right. -/
def Progress.step (s : Progress) (token : LiteralToken) : Progress :=
  match token with
  | .numeral isImaginary => { s with prospect := s.prospect.operand (.numeral isImaginary) }
  | .text form _ => { s with prospect := s.prospect.operand (if form = .template then .other else .constant) }
  | .ellipsis => { s with prospect := s.prospect.operand .constant }
  | .name word =>
    let e : Expression := if constants.contains word then .constant else if word = "set" then .setName else .other
    { s with prospect := s.prospect.operand e }
  | .sign => { s with prospect := s.prospect.signed }
  | .opening bracket =>
    let isCall := match s.prospect with
      | .whole _ => true
      | _ => false
    ⟨⟨bracket, isCall, s.prospect, [], [], false⟩ :: s.levels, .nothing⟩
  | .closing _ =>
    match s.levels with
    | [] => { s with prospect := .strange }
    | l :: levels =>
      let e := closed l s.prospect
      ⟨levels, if l.isCall then .whole e else l.before.operand e⟩
  | .comma =>
    match s.levels with
    | [] => { s with prospect := .strange }
    | l :: levels => ⟨{ l with members := s.prospect.finish :: l.members, hasComma := true } :: levels, .nothing⟩
  | .colon =>
    match s.levels with
    | [] => { s with prospect := .strange }
    | l :: levels => ⟨{ l with keys := s.prospect.finish :: l.keys } :: levels, .nothing⟩
  | _ => { s with prospect := .strange }

/-- The expression that tokens stand for, if their syntax is right.  It need not stand in brackets to be a tuple. -/
def expressionOf (tokens : List LiteralToken) : Expression :=
  let s := tokens.foldl Progress.step ⟨[⟨'(', false, .nothing, [], [], false⟩], .nothing⟩
  match s.levels with
  | [l] => closed l s.prospect
  | _ => .other

/-- What is wrong with a text that should be a literal. -/
def fault? (cs : List Char) : Option LiteralFault :=
  match LiteralToken.ofText cs with
  | .error fault => some fault
  | .ok tokens => syntaxFault? tokens <|> (expressionOf tokens).fault?

end Literal

end Rollcall.Console
