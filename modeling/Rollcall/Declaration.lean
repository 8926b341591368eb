import Rollcall.Location
import Rollcall.Outline
import Rollcall.Scope

/-!
# Declarations

The type declarations of a file in document order, each with its full name and the scope in which it stands.  A type
inside another is listed right behind it, before the types that follow.
-/

namespace Rollcall

/-- A type declaration in its scope. -/
structure Declaration where
  kind : TypeKind
  name : String
  fullName : String
  isPartial : Bool
  bases : List String
  attributes : List WrittenAttribute
  scope : Scope
  isGenerated : Bool
  location : Location
deriving DecidableEq, Repr, Inhabited

namespace Declaration

/-- The file from which declarations are collected. -/
structure File where
  path : String
  isGenerated : Bool
deriving DecidableEq, Repr, Inhabited

/-- The name of a type with its arity, if it has one. -/
def metadataName (name : String) (arity : Nat) : String :=
  if arity = 0 then name else name ++ String.ofList (TypeName.aritySuffix arity)

/-- The declaration that a header makes in a scope. -/
def ofHeader (file : File) (scope : Scope) (header : Header) : Declaration where
  kind := header.kind
  name := header.name
  fullName := TypeName.qualify scope.qualifier (metadataName header.name header.arity)
  isPartial := header.isPartial
  bases := header.bases
  attributes := header.attributes
  scope := scope
  isGenerated := file.isGenerated
  location := Location.ofSpan file.path header.span

mutual

/-- The declarations of a type and the types inside it. -/
def ofType (file : File) (scope : Scope) : TypeOutline → List Declaration
  | .mk header members =>
    let declaration := ofHeader file scope header
    declaration :: ofTypes file (scope.enterType declaration.fullName) members

/-- The declarations of several types in one scope. -/
def ofTypes (file : File) (scope : Scope) : List TypeOutline → List Declaration
  | [] => []
  | type :: types => ofType file scope type ++ ofTypes file scope types

end

mutual

/-- The declarations of a member. -/
def ofMember (file : File) (scope : Scope) : Member → List Declaration
  | .type type => ofType file scope type
  | .space name directives members =>
    ofMembers file ((scope.enterNamespace name).withDirectives directives) members

/-- The declarations of several members in one scope. -/
def ofMembers (file : File) (scope : Scope) : List Member → List Declaration
  | [] => []
  | member :: members => ofMember file scope member ++ ofMembers file scope members

end

/-- The declarations of a file, whose directives come on top of the scope `root`. -/
def ofOutline (file : File) (root : Scope) (outline : Outline) : List Declaration :=
  ofMembers file (root.withDirectives outline.directives) outline.members

/-- The declarations in a syntax tree. -/
def collect (file : File) (root : Scope) (tree : Node) : List Declaration :=
  ofOutline file root (Outline.ofNode tree)

end Declaration

end Rollcall
