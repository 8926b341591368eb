import Rollcall.Text.Utf8

/-!
# Syntax nodes

A syntax tree of C# as the collector of declarations sees it.  A node knows its kind, its text, where it stands in the
source and under which field its parent holds it.  Trees may have any shape: nothing here assumes that a declaration has
a name or a body.
-/

namespace Rollcall

/-- A position in a source: rows and byte columns count from zero, and only a line feed ends a row. -/
structure Point where
  row : Nat
  column : Nat
deriving DecidableEq, Repr, Inhabited

/-- A stretch of a source in bytes and in points. -/
structure Span where
  start : Nat
  stop : Nat
  startPoint : Point
  stopPoint : Point
deriving DecidableEq, Repr, Inhabited

/-- The kinds of type declarations. -/
inductive TypeKind where
  | classType
  | recordType
  | recordStructType
  | structType
  | interfaceType
  | enumType
  | other (label : String)
deriving DecidableEq, Repr, Inhabited

namespace TypeKind

/-- The word for a kind in reports. -/
def label : TypeKind → String
  | .classType => "class"
  | .recordType => "record"
  | .recordStructType => "record_struct"
  | .structType => "struct"
  | .interfaceType => "interface"
  | .enumType => "enum"
  | .other label => label

/-- The kind that a word stands for. -/
def ofLabel (label : String) : TypeKind :=
  match label with
  | "class" => .classType
  | "record" => .recordType
  | "record_struct" => .recordStructType
  | "struct" => .structType
  | "interface" => .interfaceType
  | "enum" => .enumType
  | _ => .other label

end TypeKind

/-- The kinds of syntax nodes that the reading of declarations tells apart. -/
inductive SyntaxKind where
  | usingDirective
  | namespaceDeclaration
  | fileScopedNamespace
  | typeDeclaration (kind : TypeKind)
  | declarationList
  | typeParameterList
  | typeParameter
  | baseList
  | primaryConstructorBase
  | argumentList
  | attributeList
  | attribute
  | attributeArgumentList
  | attributeArgument
  | nameEquals
  | nameColon
  | equals
  | assignment
  | typeofExpression
  | stringLiteral
  | verbatimStringLiteral
  | booleanLiteral
  | integerLiteral
  | modifier
  | structKeyword
  | comment
  | error
  | other (label : String)
deriving DecidableEq, Repr, Inhabited

namespace SyntaxKind

/-- The kind of a node with this label in a syntax tree. -/
def ofLabel (label : String) : SyntaxKind :=
  match label with
  | "using_directive" => .usingDirective
  | "namespace_declaration" => .namespaceDeclaration
  | "file_scoped_namespace_declaration" => .fileScopedNamespace
  | "class_declaration" => .typeDeclaration .classType
  | "record_declaration" => .typeDeclaration .recordType
  | "record_struct_declaration" => .typeDeclaration .recordStructType
  | "struct_declaration" => .typeDeclaration .structType
  | "interface_declaration" => .typeDeclaration .interfaceType
  | "enum_declaration" => .typeDeclaration .enumType
  | "declaration_list" => .declarationList
  | "type_parameter_list" => .typeParameterList
  | "type_parameter" => .typeParameter
  | "base_list" => .baseList
  | "primary_constructor_base_type" => .primaryConstructorBase
  | "argument_list" => .argumentList
  | "attribute_list" => .attributeList
  | "attribute" => .attribute
  | "attribute_argument_list" => .attributeArgumentList
  | "attribute_argument" => .attributeArgument
  | "name_equals" => .nameEquals
  | "name_colon" => .nameColon
  | "=" => .equals
  | "assignment_expression" => .assignment
  | "typeof_expression" => .typeofExpression
  | "string_literal" => .stringLiteral
  | "verbatim_string_literal" => .verbatimStringLiteral
  | "boolean_literal" => .booleanLiteral
  | "integer_literal" => .integerLiteral
  | "modifier" => .modifier
  | "struct" => .structKeyword
  | "comment" => .comment
  | "ERROR" => .error
  | _ => .other label

end SyntaxKind

/-- The fields under which a node is looked up in its parent. -/
inductive Field where
  | name
  | body
  | type
  | other (label : String)
deriving DecidableEq, Repr, Inhabited

/-- The field with this label in a syntax tree. -/
def Field.ofLabel (label : String) : Field :=
  match label with
  | "name" => .name
  | "body" => .body
  | "type" => .type
  | _ => .other label

/-- A node of a syntax tree. -/
structure Node where
  kind : SyntaxKind
  text : String
  span : Span
  isNamed : Bool
  field : Option Field
  children : List Node
deriving Repr, Inhabited

namespace Node

/-- The children that are not mere punctuation. -/
def namedChildren (n : Node) : List Node :=
  n.children.filter (·.isNamed)

/-- The first child that the node holds under a field. -/
def child? (n : Node) (f : Field) : Option Node :=
  n.children.find? fun c => c.field == some f

/-- The named children of one kind. -/
def namedOfKind (n : Node) (kind : SyntaxKind) : List Node :=
  n.namedChildren.filter fun c => c.kind == kind

theorem sizeOf_lt_of_mem_children {c n : Node} (h : c ∈ n.children) : sizeOf c < sizeOf n := by
  have := List.sizeOf_lt_of_mem h
  cases n
  simp at *
  omega

theorem mem_children_of_child? {n c : Node} {f : Field} (h : n.child? f = some c) : c ∈ n.children :=
  List.mem_of_find?_eq_some h

theorem mem_children_of_mem_namedChildren {n c : Node} (h : c ∈ n.namedChildren) : c ∈ n.children :=
  (List.mem_filter.1 h).1

/-- Whether the node or a node below it marks a syntax error. -/
def hasError (n : Node) : Bool :=
  n.kind == .error || n.children.attach.any fun ⟨c, _⟩ => c.hasError
termination_by sizeOf n
decreasing_by
  exact sizeOf_lt_of_mem_children ‹_›

end Node

/-- A source file's bytes, from which nodes take their text and their points. -/
structure Source where
  bytes : ByteArray

namespace Source

/-- The text between two byte offsets. -/
def text (s : Source) (start stop : Nat) : String :=
  String.ofList (Text.decode (s.bytes.extract start stop).data.toList)

/-- The point of a byte offset. -/
def pointAt (s : Source) (offset : Nat) : Point :=
  (s.bytes.extract 0 offset).data.foldl
    (fun p b => if b == 10 then ⟨p.row + 1, 0⟩ else ⟨p.row, p.column + 1⟩) ⟨0, 0⟩

/-- The span between two byte offsets. -/
def span (s : Source) (start stop : Nat) : Span :=
  ⟨start, stop, s.pointAt start, s.pointAt stop⟩

/-- A node that stands between two byte offsets of a source. -/
def node (s : Source) (kind : SyntaxKind) (start stop : Nat) (isNamed : Bool) (field : Option Field)
    (children : List Node) : Node :=
  ⟨kind, s.text start stop, s.span start stop, isNamed, field, children⟩

/-- A node that stands nowhere in its source. -/
def absentNode (kind : SyntaxKind) (isNamed : Bool) (field : Option Field) (children : List Node) : Node :=
  ⟨kind, "", default, isNamed, field, children⟩

end Source

end Rollcall
