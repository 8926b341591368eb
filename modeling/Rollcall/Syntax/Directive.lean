import Rollcall.Syntax.Node
import Rollcall.Text.Word
import Rollcall.TypeName

/-!
# Using directives

A using directive brings a namespace into scope, gives an alias to a type or namespace, or imports static members,
which has no effect here.  A directive that starts with `global` is meant for every file of the program.
-/

namespace Rollcall

open Text

/-- What a using directive brings into scope. -/
inductive Import where
  | openNamespace (name : String)
  | aliasFor (name target : String)
  | staticMembers
deriving DecidableEq, Repr, Inhabited

/-- A using directive. -/
structure Directive where
  isGlobal : Bool
  brings : Import
deriving DecidableEq, Repr, Inhabited

namespace Directive

/-- The text behind a word and at least one blank. -/
def afterWord? (word cs : List Char) : Option (List Char) :=
  match afterStart? word cs with
  | some (c :: rest) => if isBlank c then some (rest.dropWhile isBlank) else none
  | _ => none

/-- The text behind `using` or `global using`, where the text starts so and something follows. -/
def dropUsing (cs : List Char) : List Char :=
  match (afterWord? "global".toList cs).bind (afterWord? "using".toList) with
  | some rest => rest
  | none => (afterWord? "using".toList cs).getD cs

/-- The directive without surrounding blanks, closing semicolons and opening words. -/
def body (cs : List Char) : List Char :=
  dropUsing (trim (dropEndWhile (· == ';') (trim cs)))

/-- What the text of a directive brings into scope. -/
def importOf (text : String) : Import :=
  let cs := body text.toList
  if "static ".toList.isPrefixOf cs then .staticMembers
  else
    match cutAt '=' cs with
    | (name, some target) => .aliasFor (String.ofList (trim name)) (TypeName.key (String.ofList target))
    | (name, none) => .openNamespace (TypeName.key (String.ofList name))

/-- Whether the text of a directive starts with the words `global using`. -/
def startsGlobal (text : String) : Bool :=
  match (afterWord? "global".toList (trim text.toList)).bind (afterStart? "using".toList) with
  | some [] => true
  | some (c :: _) => !isWordChar c
  | none => false

/-- The directive with some text. -/
def ofText (text : String) : Directive :=
  ⟨startsGlobal text, importOf text⟩

/-- The directive that a node holds. -/
def ofNode? (n : Node) : Option Directive :=
  if n.kind == .usingDirective then some (ofText n.text) else none

end Directive

end Rollcall
