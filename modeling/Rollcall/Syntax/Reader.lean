import Rollcall.Syntax.Piece

/-!
# Reading declarations

Reads the syntax tree of a C# source that is free of errors, as far as declarations go: using directives, namespaces,
and types with their attributes, type parameters and base types.  Every other member is passed over as a whole, so the
tree holds no node for it.

A member ends with a semicolon or with a pair of braces.  Braces behind `=` or `=>` belong to an expression and end
nothing, and neither do the accessors of a property that is given an initial value.

What stands between conditional directives is no member of what is around them, with one exception: attribute lists
alone belong to the declaration behind them, which starts with the first directive.
-/

namespace Rollcall.Reader

/-- The words that may precede the keyword of a declaration. -/
def modifiers : List String :=
  ["public", "private", "protected", "internal", "static", "abstract", "sealed", "partial", "readonly", "ref",
    "unsafe", "new", "file", "virtual", "override", "extern", "async", "const", "volatile", "required", "fixed"]

/-- Whether a piece is a modifier. -/
def isModifier (p : Piece) : Bool :=
  modifiers.any fun word => p.isWord word

/-- The node that covers some pieces. -/
def cover (s : Source) (kind : SyntaxKind) (field : Option Field) (pieces : List Piece) (children : List Node) :
    Node :=
  match pieces.head?, pieces.getLast? with
  | some first, some last => s.node kind first.start last.stop true field children
  | _, _ => Source.absentNode kind true field children

/-- The node of a type as written. -/
def typeNode (s : Source) (field : Option Field) (pieces : List Piece) : Node :=
  cover s (.other "type") field pieces []

/-! ### Attributes -/

/-- The node of an attribute's value. -/
def valueNode (s : Source) (pieces : List Piece) : Node :=
  match pieces with
  | [.token t] =>
    let kind := match t.kind with
      | .text => .stringLiteral
      | .verbatimText => .verbatimStringLiteral
      | .integer => .integerLiteral
      | .word => if t.spelling == "true" || t.spelling == "false" then .booleanLiteral else .other "identifier"
      | _ => .other "expression"
    cover s kind none pieces []
  | [keyword, operand] =>
    if keyword.isWord "typeof" && operand.isParentheses then
      cover s .typeofExpression none pieces
        (if operand.items.isEmpty then [] else [typeNode s (some .type) operand.items])
    else cover s (.other "expression") none pieces []
  | _ => cover s (if Piece.isAssignment pieces then .assignment else .other "expression") none pieces []

/-- The node of an attribute's argument. -/
def argumentNode (s : Source) (pieces : List Piece) : Node :=
  let children := match pieces with
    | name :: mark :: value =>
      if name.isAnyWord && mark.isSymbol "=" then
        [cover s (.other "identifier") none [name] [], cover s .equals none [mark] [], valueNode s value]
      else if name.isAnyWord && mark.isSymbol ":" then
        [cover s (.other "identifier") none [name] [], valueNode s value]
      else [valueNode s pieces]
    | _ => [valueNode s pieces]
  cover s .attributeArgument none pieces children

/-- The node of an attribute: its name, then its arguments in parentheses. -/
def attributeNode (s : Source) (pieces : List Piece) : Node :=
  let name := pieces.take (Piece.untilParentheses 0 pieces)
  let lists := (pieces.drop name.length).map fun list =>
    cover s .attributeArgumentList none [list] ((Piece.split list.items).map (argumentNode s))
  cover s .attribute none pieces (cover s (.other "name") (some .name) name [] :: lists)

/-- The pieces of an attribute list behind its target, if it has one. -/
def dropTarget (pieces : List Piece) : List Piece :=
  match pieces with
  | target :: mark :: rest => if target.isAnyWord && mark.isSymbol ":" then rest else pieces
  | _ => pieces

/-- The node of an attribute list. -/
def attributeListNode (s : Source) (list : Piece) : Node :=
  cover s .attributeList none [list] ((Piece.splitTypes (dropTarget list.items)).map (attributeNode s))

/-- Whether a piece holds attributes of the whole assembly. -/
def isGlobalAttribute (p : Piece) : Bool :=
  p.isBrackets &&
    match p.items with
    | target :: mark :: _ => (target.isWord "assembly" || target.isWord "module") && mark.isSymbol ":"
    | _ => false

/-- Whether a piece is a condition of which each branch holds one attribute list at most, and some branch holds one. -/
def holdsAttributes (p : Piece) : Bool :=
  p.isCondition &&
    let branches := p.items.splitOnP Piece.isBranch
    branches.all (fun branch => match branch with
      | [] => true
      | [list] => list.isBrackets && !isGlobalAttribute list
      | _ => false) &&
    branches.any fun branch => !branch.isEmpty

/-- Whether a piece is an attribute list, or holds one under a condition. -/
def isAttributes (p : Piece) : Bool :=
  p.isBrackets || p.isCondition

/-! ### Types -/

/-- The kind of type that some pieces start to declare, its keywords, and the pieces from the name on. -/
def typeKeyword? (pieces : List Piece) : Option (TypeKind × List Piece × List Piece) :=
  let named (kind : TypeKind) (keywords rest : List Piece) :=
    if rest.head?.any (·.isAnyWord) then some (kind, keywords, rest) else none
  match pieces with
  | [] => none
  | keyword :: rest =>
    if keyword.isWord "class" then named .classType [keyword] rest
    else if keyword.isWord "struct" then named .structType [keyword] rest
    else if keyword.isWord "interface" then named .interfaceType [keyword] rest
    else if keyword.isWord "enum" then named .enumType [keyword] rest
    else if keyword.isWord "record" then
      match rest with
      | second :: behind =>
        if second.isWord "struct" || second.isWord "class" then named .recordType [keyword, second] behind
        else named .recordType [keyword] rest
      | [] => none
    else none

/-- The node of a type's parameters. -/
def typeParametersNode (s : Source) (pieces : List Piece) : Node :=
  cover s .typeParameterList none pieces
    ((Piece.splitTypes (pieces.drop 1).dropLast).map fun part => cover s .typeParameter none part [])

/-- The node of the base types: in each, what stands before the arguments of a constructor. -/
def baseListNode (s : Source) (pieces : List Piece) : Node :=
  cover s .baseList none pieces
    ((Piece.splitTypes (pieces.drop 1)).map fun part => typeNode s none (part.take (Piece.untilParentheses 0 part)))

/-- The node of the body of a type.  The constants of an enumeration are no members. -/
def bodyNode (s : Source) (kind : TypeKind) (body : Piece) : Node :=
  if kind = .enumType then cover s (.other "enum_member_declaration_list") (some .body) [body] []
  else cover s .declarationList (some .body) [body] body.members

/-- The pieces of a list of base types: up to the constraints of a type parameter, the body or a semicolon. -/
def basesOf : List Piece → List Piece
  | [] => []
  | p :: ps =>
    let startsConstraints := p.isWord "where" &&
      match ps with
      | parameter :: mark :: _ => parameter.isAnyWord && mark.isSymbol ":"
      | _ => false
    if startsConstraints || p.isBraces || p.isSymbol ";" then [] else p :: basesOf ps

/-- The parts of a type declaration behind its keywords. -/
def typeParts (s : Source) (kind : TypeKind) (pieces : List Piece) : List Node :=
  let name := pieces.take 1
  let rest := pieces.drop 1
  let parameters :=
    if rest.head?.any (·.isSymbol "<") then rest.take ((Piece.angleLength? 0 (rest.drop 1)).getD 0 + 1) else []
  let rest := (rest.drop parameters.length).dropWhile fun p => p.isParentheses
  let bases := if rest.head?.any (·.isSymbol ":") then basesOf rest else []
  cover s (.other "identifier") (some .name) name [] ::
    (if parameters.isEmpty then [] else [typeParametersNode s parameters]) ++
    (if bases.isEmpty then [] else [baseListNode s bases]) ++
    ((rest.find? fun p => p.isBraces).map (bodyNode s kind)).toList

/-- The node of a keyword; only `struct` matters. -/
def keywordNode (s : Source) (keyword : Piece) : Node :=
  cover s (if keyword.isWord "struct" then .structKeyword else .other "keyword") none [keyword] []

/-- The node of a type declaration, if the pieces of a member make up one. -/
def typeDeclaration? (s : Source) (pieces : List Piece) : Option Node :=
  let attributes := pieces.takeWhile isAttributes
  let rest := pieces.drop attributes.length
  let modifiers := rest.takeWhile isModifier
  (typeKeyword? (rest.drop modifiers.length)).map fun (kind, keywords, rest) =>
    cover s (.typeDeclaration kind) none pieces <|
      (attributes.filter Piece.isBrackets).map (attributeListNode s) ++
        modifiers.map (fun m => cover s .modifier none [m] []) ++ keywords.map (keywordNode s) ++ typeParts s kind rest

/-! ### Directives and namespaces -/

/-- Whether the pieces behind `using` make up a directive: a name, or an alias with its target.  Otherwise they
declare a local variable or start a statement. -/
def isDirective (pieces : List Piece) : Bool :=
  let pieces := pieces.dropWhile fun p => p.isWord "static" || p.isWord "unsafe"
  match pieces with
  | name :: next :: _ => name.isAnyWord && (next.isSymbol "=" || Piece.isTypeRow true pieces.dropLast)
  | _ => false

/-- The node of a using directive, if the pieces of a member make up one. -/
def usingDirective? (s : Source) (pieces : List Piece) : Option Node :=
  let rest := pieces.drop (if pieces.head?.any (·.isWord "global") then 1 else 0)
  match rest with
  | keyword :: rest =>
    if keyword.isWord "using" && isDirective rest then some (cover s .usingDirective none pieces []) else none
  | [] => none

/-- The node of a namespace, if the pieces of a member make up one. -/
def namespaceDeclaration? (s : Source) (pieces : List Piece) : Option Node :=
  match pieces with
  | keyword :: rest =>
    if keyword.isWord "namespace" then
      let name := rest.takeWhile fun p => !p.isBraces && !p.isSymbol ";"
      let nameNode := cover s (.other "name") (some .name) name []
      match rest.find? fun p => p.isBraces with
      | some body =>
        some (cover s .namespaceDeclaration none pieces
          [nameNode, cover s .declarationList (some .body) [body] body.members])
      | none => some (cover s .fileScopedNamespace none pieces [nameNode])
    else none
  | [] => none

/-! ### Members -/

/-- The number of pieces up to the end of the member that they start with; `assigned` says that an `=` or `=>` was
passed. -/
def memberLength (assigned : Bool) : List Piece → Nat
  | [] => 0
  | p :: ps =>
    if p.isSymbol ";" then 1
    else if p.isBraces && !assigned && !ps.head?.any (·.isSymbol "=") then 1
    else memberLength (assigned || p.isSymbol "=" || p.isSymbol "=>") ps + 1

/-- Whether a semicolon right behind a member belongs to it: behind a type, and behind the braces of a namespace. -/
def takesSemicolon (member : List Piece) : Bool :=
  let rest := (member.dropWhile isAttributes).dropWhile isModifier
  (rest.head?.any fun p => p.isWordOf ["class", "struct", "interface", "enum", "record"]) ||
    (rest.head?.any fun p => p.isWord "namespace") && member.getLast?.any Piece.isBraces

/-- The number of pieces of the first member, beyond the first piece. -/
def moreOfMember (p : Piece) (rest : List Piece) : Nat :=
  if isGlobalAttribute p then 0
  else
    let length := memberLength false (p :: rest)
    let member := (p :: rest).take length
    let isFollowed := match member.getLast?, (rest.drop (length - 1)).head? with
      | some last, some next => next.isSymbol ";" && next.start = last.stop
      | _, _ => false
    if isFollowed && takesSemicolon member then length else length - 1

/-- The node of a member that matters. -/
def memberNode? (s : Source) (pieces : List Piece) : Option Node :=
  usingDirective? s pieces <|> namespaceDeclaration? s pieces <|> typeDeclaration? s pieces

/-- The nodes of the members that some pieces make up, none of which is a condition without attributes. -/
def membersOf (s : Source) : List Piece → List Node
  | [] => []
  | p :: rest =>
    let more := moreOfMember p rest
    (memberNode? s (p :: rest.take more)).toList ++ membersOf s (rest.drop more)
termination_by pieces => pieces.length
decreasing_by simp only [List.length_cons, List.length_drop]; omega

/-- The nodes of the members that some pieces make up. -/
def members (s : Source) (pieces : List Piece) : List Node :=
  membersOf s (pieces.filter fun p => !p.isCondition || holdsAttributes p)

/-- The syntax tree of a source. -/
def read (s : Source) : Node :=
  s.node (.other "compilation_unit") 0 s.bytes.size true none
    (members s (Piece.ofTokens (members s) (Token.ofBytes s.bytes)))

end Rollcall.Reader
