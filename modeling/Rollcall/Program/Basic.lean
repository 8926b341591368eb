import Rollcall.Location
import Rollcall.Syntax.Literal
import Rollcall.Text.Quoted
import Rollcall.TypeName

/-!
# Programs

A program is a graph of types: those declared in its sources and the external ones they refer to.  A type is known by a
symbol, and symbols are told apart by their serial number, never by their name, so two types may share a full name.

* A look-up by full name finds the type added last under that name (`Program.resolve?`), and as a declared type
  only when that last one is declared (`Program.lookup?`).
* The base and the attributes of a symbol are found by its serial number, shadowed or not.
* Declaration sites are kept in the order in which they were added; a site added again is bound anew.
-/

namespace Rollcall

/-- A handle for one type. -/
structure Symbol where
  serial : Nat
  fullName : String
  kind : TypeKind
  location : Option Location
deriving DecidableEq, Repr, Inhabited

namespace Symbol

/-- The simple name of a type. -/
def name (s : Symbol) : String :=
  TypeName.lastSegment s.fullName

/-- A symbol as it is shown: its full name and its kind. -/
def describe (s : Symbol) : String :=
  "TypeSymbol(" ++ Text.quoted s.fullName ++ ", kind=" ++ Text.quoted s.kind.label ++ ")"

/-- Whether two symbols stand for the same type. -/
def same (s t : Symbol) : Bool :=
  s.serial == t.serial

end Symbol

/-- An argument of an attribute. -/
inductive Argument where
  | type (symbol : Symbol)
  | constant (value : Constant)
  | unknown
deriving DecidableEq, Repr, Inhabited

/-- The type that an argument is. -/
def Argument.symbol? : Argument → Option Symbol
  | .type symbol => some symbol
  | _ => none

/-- An attribute of a type, with the full name of the attribute type if it is known. -/
structure Attribute where
  type : Option String
  arguments : List Argument
deriving DecidableEq, Repr, Inhabited

/-- The types that an attribute mentions. -/
def Attribute.symbols (a : Attribute) : List Symbol :=
  a.arguments.filterMap Argument.symbol?

/-- What a program knows about a type. -/
structure TypeRecord where
  symbol : Symbol
  base : Option Symbol
  attributes : List Attribute
  isDeclared : Bool
deriving DecidableEq, Repr, Inhabited

/-- The types that a record mentions. -/
def TypeRecord.symbols (r : TypeRecord) : List Symbol :=
  r.symbol :: r.base.toList ++ r.attributes.flatMap Attribute.symbols

/-- A place where a type is declared. -/
structure Site where
  serial : Nat
  kind : TypeKind
  name : String
  /-- The names of the attributes as written. -/
  attributeNames : List String
  location : Option Location
  isGenerated : Bool
deriving DecidableEq, Repr, Inhabited

/-- The types of one assembly and the places where they are declared. -/
structure Program where
  assembly : String
  /-- The types in the order in which they were added. -/
  records : List TypeRecord
  /-- The sites in the order in which they were added, with the types they were bound to. -/
  bindings : List (Site × Option Symbol)
deriving Repr, Inhabited

namespace Program

/-- The program without types. -/
def empty (assembly : String) : Program := ⟨assembly, [], []⟩

/-! ### Changes -/

/-- Adds a type. -/
def add (p : Program) (record : TypeRecord) : Program :=
  { p with records := p.records ++ [record] }

/-- Adds an external type. -/
def addExternal (p : Program) (symbol : Symbol) (base : Option Symbol) : Program :=
  p.add ⟨symbol, base, [], false⟩

/-- Adds a declared type. -/
def declare (p : Program) (symbol : Symbol) (base : Option Symbol) (attributes : List Attribute) : Program :=
  p.add ⟨symbol, base, attributes, true⟩

/-- Whether a symbol is one of the program's own. -/
def owns (p : Program) (s : Symbol) : Bool :=
  p.records.any fun r => r.symbol.same s

/-- Changes the record of a symbol. -/
def update (p : Program) (s : Symbol) (change : TypeRecord → TypeRecord) : Program :=
  { p with records := p.records.map fun r => if r.symbol.same s then change r else r }

/-- Sets the base of a type; a symbol of another program is refused. -/
def setBase? (p : Program) (s : Symbol) (base : Option Symbol) : Option Program :=
  if p.owns s then some (p.update s fun r => { r with base }) else none

/-- Sets the attributes of a type; a symbol of another program is refused. -/
def setAttributes? (p : Program) (s : Symbol) (attributes : List Attribute) : Option Program :=
  if p.owns s then some (p.update s fun r => { r with attributes }) else none

/-- Adds a site that is bound to a type, or to none. -/
def addSite (p : Program) (site : Site) (symbol : Option Symbol) : Program :=
  { p with bindings := p.bindings ++ [(site, symbol)] }

/-! ### Questions -/

/-- The type added last under a full name. -/
def latest? (p : Program) (fullName : String) : Option TypeRecord :=
  p.records.reverse.find? fun r => r.symbol.fullName == fullName

/-- The type known under a full name. -/
def resolve? (p : Program) (fullName : String) : Option Symbol :=
  (p.latest? fullName).map (·.symbol)

/-- The type known under a full name, if it is declared. -/
def lookup? (p : Program) (fullName : String) : Option Symbol :=
  ((p.latest? fullName).filter (·.isDeclared)).map (·.symbol)

/-- The simple names of all types ever declared, each once, in the order of their first declaration. -/
def declaredNames (p : Program) : List String :=
  ((p.records.filter (·.isDeclared)).map (·.symbol.name)).eraseDups

/-- The record of a symbol. -/
def record? (p : Program) (s : Symbol) : Option TypeRecord :=
  p.records.find? fun r => r.symbol.same s

theorem serial_of_record? {p : Program} {t : Symbol} {r : TypeRecord} (hr : p.record? t = some r) :
    r.symbol.serial = t.serial := by
  unfold record? at hr
  have hsame := List.find?_some hr
  exact beq_iff_eq.mp hsame

/-- The base of a type. -/
def baseOf? (p : Program) (s : Symbol) : Option Symbol :=
  (p.record? s).bind (·.base)

/-- The attributes of a type. -/
def attributesOf (p : Program) (s : Symbol) : List Attribute :=
  ((p.record? s).map (·.attributes)).getD []

/-- The type to which a site was bound last. -/
def symbolOf? (p : Program) (site : Site) : Option Symbol :=
  (p.bindings.reverse.find? fun b => b.1.serial == site.serial).bind (·.2)

/-- The sites in the order in which they were added. -/
def sites (p : Program) : List Site :=
  p.bindings.map (·.1)

/-- The type known under each full name, in the order in which the names first appeared. -/
def types (p : Program) : List TypeRecord :=
  (p.records.map (·.symbol.fullName)).eraseDups.filterMap p.latest?

/-! ### New serial numbers -/

/-- The symbols that the program mentions, its own and those of other programs. -/
def symbols (p : Program) : List Symbol :=
  p.records.flatMap TypeRecord.symbols ++ p.bindings.filterMap (·.2)

/-- A serial number above those of all symbols that the program mentions. -/
def nextSymbol (p : Program) : Nat :=
  (p.symbols.map (·.serial + 1)).foldr max 0

/-- A serial number above those of all sites of the program. -/
def nextSite (p : Program) : Nat :=
  (p.sites.map (·.serial + 1)).foldr max 0

end Program

end Rollcall
