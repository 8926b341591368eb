import Rollcall.Declaration
import Rollcall.Event
import Rollcall.Program.Basic

/-!
# Binding

Written names are bound to the types of a program.  `Program.resolveIn?` tries an alias for the first segment of the
name; without one it tries the containing types from the innermost out, the enclosing namespaces from the innermost out,
the name itself, and the opened namespaces in order.

`Program.bind` adds the collected declarations to a program.  Declarations of one full name are the parts of one type
when there is only one of them or all are partial; otherwise the full name is ambiguous and gets no type at all.
-/

namespace Rollcall

namespace Scope

/-- The qualified names by which the enclosing namespaces may hold `name`, from the innermost namespace out. -/
def namespaceCandidates (s : Scope) (name : String) : List String :=
  if s.space = "" then []
  else
    let parts := TypeName.segments s.space
    (List.range parts.length).reverse.map fun k => ".".intercalate (parts.take (k + 1) ++ [name])

/-- The full names that a name may stand for, in the order in which they are tried. -/
def candidates (s : Scope) (name : String) : List String :=
  s.containers.reverse.map (· ++ "." ++ name) ++ s.namespaceCandidates name ++ name ::
    s.usings.map (· ++ "." ++ name)

/-- The name that an alias for the first segment of `name` makes of it. -/
def aliased? (s : Scope) (name : String) : Option String :=
  let (head, rest) := Text.cutAt '.' name.toList
  (s.aliases.target? (String.ofList head)).map fun target =>
    match rest with
    | some (c :: cs) => target ++ "." ++ String.ofList (c :: cs)
    | _ => target

end Scope

/-- The ending that attribute types have and attributes may leave out. -/
def attributeEnding : String := "Attribute"

namespace Program

/-- The type that a written name stands for in a scope. -/
def resolveIn? (p : Program) (scope : Scope) (written : String) : Option Symbol :=
  let name := TypeName.key written
  if name = "" then none
  else
    match scope.aliased? name with
    | some target => p.resolve? target
    | none => (scope.candidates name).findSome? p.resolve?

/-- The attribute type that a written attribute name stands for in a scope.  The name with the ending `Attribute` comes
first. -/
def resolveAttributeIn? (p : Program) (scope : Scope) (written : String) : Option Symbol :=
  let name := TypeName.key written
  if attributeEnding.toList.isSuffixOf name.toList then p.resolveIn? scope name
  else p.resolveIn? scope (name ++ attributeEnding) <|> p.resolveIn? scope name

/-- The type that the operand of `typeof` stands for.  A constructed or nullable type is not the definition
itself. -/
def resolveOperandIn? (p : Program) (scope : Scope) (operand : String) : Option Symbol :=
  let cs := Text.unblank operand.toList
  if cs.contains '<' || cs.getLast? == some '?' then none else p.resolveIn? scope (String.ofList cs)

/-- Binds an argument of an attribute. -/
def bindArgument (p : Program) (scope : Scope) : WrittenArgument → Argument
  | .typeof operand =>
    match p.resolveOperandIn? scope operand with
    | some symbol => .type symbol
    | none => .unknown
  | .constant value => .constant value
  | .unevaluated => .unknown

/-- Binds an attribute. -/
def bindAttribute (p : Program) (scope : Scope) (written : WrittenAttribute) : Attribute where
  type := (p.resolveAttributeIn? scope written.name).map (·.fullName)
  arguments := written.arguments.map (p.bindArgument scope)

end Program

/-- The declarations of one full name, in order. -/
structure TypeGroup where
  fullName : String
  parts : List Declaration
deriving Repr, Inhabited

namespace TypeGroup

/-- The declarations grouped by full name, in the order in which the names first appear. -/
def ofDeclarations (declarations : List Declaration) : List TypeGroup :=
  (declarations.map (·.fullName)).eraseDups.map fun fullName =>
    ⟨fullName, declarations.filter fun d => d.fullName == fullName⟩

/-- Whether the declarations are the parts of one type. -/
def isConsistent (g : TypeGroup) : Bool :=
  g.parts.length ≤ 1 || g.parts.all (·.isPartial)

/-- The symbol of the type, which takes its kind and location from the first part. -/
def symbol (g : TypeGroup) (serial : Nat) : Symbol :=
  { serial
    fullName := g.fullName
    kind := (g.parts.head?.map (·.kind)).getD .classType
    location := g.parts.head?.map (·.location) }

/-- The base that a part gives to its type: the first of its bases that stands for a type other than an
interface. -/
def baseOfPart? (p : Program) (part : Declaration) : Option Symbol :=
  part.bases.findSome? fun written =>
    (p.resolveIn? part.scope written).filter fun s => s.kind != .interfaceType

/-- The base of the type: the first that a part gives. -/
def base? (p : Program) (g : TypeGroup) : Option Symbol :=
  g.parts.findSome? (baseOfPart? p)

/-- The attributes of the type: those of all parts, in order, each bound in the scope of its part. -/
def attributes (p : Program) (g : TypeGroup) : List Attribute :=
  g.parts.flatMap fun part => part.attributes.map (p.bindAttribute part.scope)

end TypeGroup

namespace Program

/-- The types of consistent groups with their symbols, numbered from `next`. -/
def symbolsFrom (next : Nat) : List TypeGroup → List (TypeGroup × Symbol)
  | [] => []
  | g :: groups =>
    if g.isConsistent then (g, g.symbol next) :: symbolsFrom (next + 1) groups else symbolsFrom next groups

/-- The site of a declaration. -/
def siteOf (serial : Nat) (d : Declaration) : Site where
  serial := serial
  kind := d.kind
  name := d.name
  attributeNames := d.attributes.map (·.name)
  location := some d.location
  isGenerated := d.isGenerated

/-- The types that declarations make up, with symbols that are new to the program. -/
def newTypes (p : Program) (declarations : List Declaration) : List (TypeGroup × Symbol) :=
  symbolsFrom p.nextSymbol (TypeGroup.ofDeclarations declarations)

/-- The symbol among new types that has some full name. -/
def symbolNamed? (types : List (TypeGroup × Symbol)) (fullName : String) : Option Symbol :=
  (types.find? fun (g, _) => g.fullName == fullName).map (·.2)

/-- Declares new types without their bases and attributes. -/
def declareTypes (p : Program) (types : List (TypeGroup × Symbol)) : Program :=
  types.foldl (fun p (_, symbol) => p.declare symbol none []) p

/-- Declares new types.  Their bases and attributes are bound when the names of all of them are known. -/
def bindTypes (p : Program) (types : List (TypeGroup × Symbol)) : Program :=
  let known := p.declareTypes types
  types.foldl (fun p (g, symbol) => p.declare symbol (g.base? known) (g.attributes known)) p

/-- Adds the sites of declarations, each bound to the new type of its full name if there is one. -/
def bindSites (p : Program) (types : List (TypeGroup × Symbol)) (declarations : List Declaration) : Program :=
  (declarations.zipIdx p.nextSite).foldl
    (fun p (d, serial) => p.addSite (siteOf serial d) (symbolNamed? types d.fullName)) p

/-- Adds the collected declarations to a program. -/
def bind (p : Program) (declarations : List Declaration) : Program × List Event :=
  let types := p.newTypes declarations
  let ambiguous := (TypeGroup.ofDeclarations declarations).filter fun g => !g.isConsistent
  ((p.bindTypes types).bindSites types declarations, ambiguous.map fun g => .duplicateDeclarations g.fullName)

end Program

end Rollcall
