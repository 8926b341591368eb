import Rollcall.Syntax.Attribute
import Rollcall.Syntax.Directive

/-!
# Outlines

The outline of a file is what its syntax tree declares: using directives, namespaces and types with the types inside
them.  Everything else in the tree is left out.  A file-scoped namespace holds its own children and everything
that follows it; the directives among what follows belong to the enclosing level as well.

Reading an outline never fails: a declaration without a name, and a namespace without a name or a body, is skipped
together with what it holds.
-/

namespace Rollcall

/-- What a type declaration says about itself. -/
structure Header where
  kind : TypeKind
  name : String
  /-- The number of type parameters. -/
  arity : Nat
  isPartial : Bool
  /-- The base types as written. -/
  bases : List String
  attributes : List WrittenAttribute
  span : Span
deriving DecidableEq, Repr, Inhabited

namespace Header

/-- The number of type parameters of a declaration. -/
def arityOf (n : Node) : Nat :=
  ((n.namedOfKind .typeParameterList).flatMap fun list => list.namedOfKind .typeParameter).length

/-- The base type that an entry of a base list names.  Constructor arguments and comments name none. -/
def baseOf? (entry : Node) : Option String :=
  match entry.kind with
  | .argumentList => none
  | .comment => none
  | .primaryConstructorBase => (entry.child? .type <|> entry.namedChildren.head?).map (·.text)
  | _ => some entry.text

/-- The base types of a declaration as written. -/
def basesOf (n : Node) : List String :=
  (n.namedOfKind .baseList).flatMap fun list => list.namedChildren.filterMap baseOf?

/-- The attributes of a declaration. -/
def attributesOf (n : Node) : List WrittenAttribute :=
  (n.children.filter fun c => c.kind == .attributeList).flatMap fun list =>
    (list.namedOfKind .attribute).filterMap WrittenAttribute.ofNode?

/-- Whether a declaration is one part of a type. -/
def isPartialNode (n : Node) : Bool :=
  n.children.any fun c => c.kind == .modifier && c.text == "partial"

/-- The kind of a declaration: a record with the keyword `struct` is a record struct. -/
def kindOf (kind : TypeKind) (n : Node) : TypeKind :=
  if kind = .recordType ∧ n.children.any (fun c => c.kind == .structKeyword) then .recordStructType else kind

/-- The header of a type declaration that has a name. -/
def ofNode? (n : Node) : Option Header :=
  match n.kind with
  | .typeDeclaration kind =>
    (n.child? .name).map fun name =>
      { kind := kindOf kind n
        name := name.text
        arity := arityOf n
        isPartial := isPartialNode n
        bases := basesOf n
        attributes := attributesOf n
        span := n.span }
  | _ => none

end Header

/-- A type declaration with the types declared in its body. -/
inductive TypeOutline where
  | mk (header : Header) (members : List TypeOutline)
deriving Repr, Inhabited

namespace TypeOutline

/-- The node that holds the members of a type: its body, else its first list of declarations. -/
def bodyOf? (n : Node) : Option Node :=
  n.child? .body <|> (n.namedOfKind .declarationList).head?

theorem mem_children_of_bodyOf? {n body : Node} (h : bodyOf? n = some body) : body ∈ n.children := by
  unfold bodyOf? at h
  cases hc : n.child? .body with
  | some c =>
    simp [hc] at h
    exact Node.mem_children_of_child? (h ▸ hc)
  | none =>
    simp [hc] at h
    have := List.mem_of_head? h
    exact Node.mem_children_of_mem_namedChildren (List.mem_filter.1 this).1

/-- The type that a node declares. -/
def ofNode? (n : Node) : Option TypeOutline :=
  (Header.ofNode? n).map fun header =>
    .mk header <|
      match _h : bodyOf? n with
      | some body => body.namedChildren.attach.filterMap fun ⟨member, _⟩ => ofNode? member
      | none => []
termination_by sizeOf n
decreasing_by
  have hm := Node.sizeOf_lt_of_mem_children (Node.mem_children_of_mem_namedChildren ‹_›)
  have hb := Node.sizeOf_lt_of_mem_children (mem_children_of_bodyOf? _h)
  omega

end TypeOutline

/-- A type, or a namespace with the directives and members of its body. -/
inductive Member where
  | type (outline : TypeOutline)
  | space (name : String) (directives : List Directive) (members : List Member)
deriving Repr, Inhabited

/-- What a file declares. -/
structure Outline where
  directives : List Directive
  members : List Member
deriving Repr, Inhabited

namespace Outline

/-- The outline in which nothing is declared. -/
def empty : Outline := ⟨[], []⟩

/-- The children of a file-scoped namespace other than its name. -/
def ownMembers (n : Node) : List Node :=
  n.children.eraseP fun c => c.field == some .name

theorem sizeOf_eraseP_le (p : Node → Bool) (nodes : List Node) : sizeOf (nodes.eraseP p) ≤ sizeOf nodes := by
  induction nodes with
  | nil => exact Nat.le_refl _
  | cons n nodes ih =>
    rw [List.eraseP_cons]
    cases p n with
    | true =>
      simp only [cond_true, List.cons.sizeOf_spec]
      omega
    | false =>
      simp only [cond_false, List.cons.sizeOf_spec]
      omega

theorem sizeOf_ownMembers_le (n : Node) : sizeOf (ownMembers n) ≤ sizeOf n.children :=
  sizeOf_eraseP_le _ n.children

/-- The namespace that a block declares, given the outline of its body. -/
def spaceMember (name : Node) (body : Outline) : Member :=
  .space (TypeName.key name.text) body.directives body.members

/-- The outline of a row of nodes followed by what `rest` outlines. -/
def before (nodes : List Node) (rest : Outline) : Outline :=
  match nodes with
  | [] => rest
  | n :: nodes =>
    let rest := before nodes rest
    let directives := (Directive.ofNode? n).toList ++ rest.directives
    match n.kind with
    | .namespaceDeclaration =>
      match n.child? .name, _h : n.child? .body with
      | some name, some body => ⟨directives, spaceMember name (before body.children empty) :: rest.members⟩
      | _, _ => ⟨directives, rest.members⟩
    | .fileScopedNamespace =>
      match n.child? .name with
      | some name => ⟨directives, [spaceMember name (before (ownMembers n) rest)]⟩
      | none => ⟨directives, rest.members⟩
    | _ =>
      match TypeOutline.ofNode? n with
      | some type => ⟨directives, .type type :: rest.members⟩
      | none => ⟨directives, rest.members⟩
termination_by sizeOf nodes
decreasing_by
  · simp only [List.cons.sizeOf_spec]
    omega
  · have hb := Node.sizeOf_lt_of_mem_children (Node.mem_children_of_child? _h)
    cases body
    simp only [Node.mk.sizeOf_spec, List.cons.sizeOf_spec] at *
    omega
  · have ho := sizeOf_ownMembers_le n
    cases n
    simp only [Node.mk.sizeOf_spec, List.cons.sizeOf_spec] at *
    omega

/-- The outline of a syntax tree. -/
def ofNode (root : Node) : Outline :=
  before root.children empty

end Outline

end Rollcall
