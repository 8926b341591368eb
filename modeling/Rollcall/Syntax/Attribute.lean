import Rollcall.Syntax.Literal
import Rollcall.Text.Blank

/-!
# Attributes as written

An attribute has a name and positional arguments.  An argument is a type named by `typeof`, a literal, or something that
is not evaluated.  Assignments to properties are not arguments, and comments count for nothing.
-/

namespace Rollcall

/-- An argument of an attribute as written. -/
inductive WrittenArgument where
  | typeof (operand : String)
  | constant (value : Constant)
  | unevaluated
deriving DecidableEq, Repr, Inhabited

/-- An attribute as written. -/
structure WrittenAttribute where
  name : String
  arguments : List WrittenArgument
deriving DecidableEq, Repr, Inhabited

namespace WrittenArgument

/-- The operand of a `typeof` expression. -/
def operandNode? (n : Node) : Option Node :=
  n.child? .type <|> (n.namedChildren.filter fun c => c.kind != .comment).head?

/-- The argument that a value denotes. -/
def ofValue (value : Node) : WrittenArgument :=
  if value.kind == .typeofExpression then
    match operandNode? value with
    | some operand => if operand.text = "" then .unevaluated else .typeof operand.text
    | none => .unevaluated
  else
    match Literal.value? value.kind value.text with
    | some value => .constant value
    | none => .unevaluated

/-- Whether an argument assigns a property. -/
def isAssignment (argument : Node) : Bool :=
  argument.children.any fun c => c.kind == .nameEquals || c.kind == .equals

/-- The positional argument that a node holds: its last value, unless it assigns a property. -/
def ofNode? (argument : Node) : Option WrittenArgument :=
  if isAssignment argument then none
  else
    match (argument.namedChildren.filter fun c => c.kind != .nameColon && c.kind != .comment).getLast? with
    | some value => if value.kind == .assignment then none else some (ofValue value)
    | none => none

end WrittenArgument

namespace WrittenAttribute

/-- The node that names an attribute. -/
def nameNode? (n : Node) : Option Node :=
  n.child? .name <|> n.namedChildren.head?

/-- The positional arguments of an attribute. -/
def argumentsOf (n : Node) : List WrittenArgument :=
  (n.namedOfKind .attributeArgumentList).flatMap fun list =>
    (list.namedOfKind .attributeArgument).filterMap WrittenArgument.ofNode?

/-- The attribute that a node holds, if it has a name. -/
def ofNode? (n : Node) : Option WrittenAttribute :=
  (nameNode? n).map fun name => ⟨String.ofList (Text.unblank name.text.toList), argumentsOf n⟩

end WrittenAttribute

end Rollcall
