import Rollcall.Console.Emoji
import Rollcall.Console.Literal.Value
import Rollcall.Console.Style

/-!
# Markup

Text for the console may hold tags in square brackets, which say how the text is shown and are not shown themselves.  A
tag starts with a small ASCII letter or one of `#`, `/` and `@`, and holds no opening bracket.  A closing tag has to
close something that is open.  A backslash before a tag makes it plain text, and two backslashes before it stand for
one.

What stands behind an equals sign in a tag are its parameters.  A tag whose name starts with `@` stands for an action, and
its parameters have to be literals when it is closed.  The parameters of another tag belong to its style, which is read
when the text is shown.

`Markup.escape` makes a text that is shown as it is, apart from emoji codes.
-/

namespace Rollcall.Console

/-- What is wrong with a markup text. -/
inductive MarkupError where
  | matchesNothing (tag : String) (position : Nat)
  | nothingToClose (position : Nat)
  | badColour (fault : ColourFault)
  /-- The parameters of an action have a fault, which is in a part of them. -/
  | badParameters (part whole : String) (fault : LiteralFault)
deriving DecidableEq, Repr, Inhabited

/-- The message of an error. -/
def MarkupError.message : MarkupError → String
  | .matchesNothing tag position =>
    "closing tag '" ++ tag ++ "' at position " ++ toString position ++ " doesn't match any open tag"
  | .nothingToClose position => "closing tag '[/]' at position " ++ toString position ++ " has nothing to close"
  | .badColour fault => fault.message
  | .badParameters part whole fault =>
    let place := if fault.isSyntactic then Text.quoted part ++ " in " ++ Text.quoted whole else Text.quoted whole
    "error parsing " ++ place ++ "; " ++ fault.message

namespace Markup

/-- The characters with which a tag may start. -/
def isTagStart (c : Char) : Bool :=
  c.isLower || c == '#' || c == '/' || c == '@'

/-- The content of the tag whose opening bracket stands just before the text. -/
def tagContent? : List Char → Option (List Char)
  | [] => none
  | c :: cs =>
    if isTagStart c then
      let body := cs.takeWhile fun d => d != '[' && d != ']'
      if (cs.drop body.length).head? = some ']' then some (c :: body) else none
    else none

/-- A part of a markup text. -/
inductive Piece where
  | plain (text : List Char)
  /-- A tag with its content and the position of its bracket. -/
  | tag (position : Nat) (content : List Char)
deriving DecidableEq, Repr, Inhabited

/-- Plain text, unless it is empty. -/
def plainPiece (text : List Char) : List Piece :=
  if text.isEmpty then [] else [.plain text]

/-- A tag after a row of backslashes. -/
def tagPieces (position slashes : Nat) (content : List Char) : List Piece :=
  plainPiece (List.replicate (slashes / 2) '\\') ++
    [if slashes % 2 = 1 then .plain ('[' :: (content ++ [']'])) else .tag position content]

/-- The pieces of a text that starts at `position` and follows the plain text `before`, of which the last `slashes`
characters are backslashes.  The text before is given backwards. -/
def piecesFrom (position slashes : Nat) (before : List Char) (cs : List Char) : List Piece :=
  match cs with
  | [] => plainPiece before.reverse
  | c :: cs =>
    if c = '\\' then piecesFrom (position + 1) (slashes + 1) (c :: before) cs
    else if c = '[' then
      match tagContent? cs with
      | some content =>
        plainPiece (before.drop slashes).reverse ++ tagPieces position slashes content ++
          piecesFrom (position + content.length + 2) 0 [] (cs.drop (content.length + 1))
      | none => piecesFrom (position + 1) 0 (c :: before) cs
    else piecesFrom (position + 1) 0 (c :: before) cs
termination_by cs.length
decreasing_by all_goals simp only [List.length_cons, List.length_drop]; omega

/-- The pieces of a markup text. -/
def pieces (cs : List Char) : List Piece :=
  piecesFrom 0 0 [] cs

/-- The controls that the console does not show. -/
def isHiddenControl (c : Char) : Bool :=
  c.toNat == 7 || c.toNat == 8 || c.toNat == 11 || c.toNat == 12 || c.toNat == 13

/-- A bracket after a backslash that does not start a tag stands for itself. -/
def unescapeBrackets : List Char → List Char
  | '\\' :: '[' :: cs => '[' :: unescapeBrackets cs
  | c :: cs => c :: unescapeBrackets cs
  | [] => []

/-- A plain piece as it is shown. -/
def shown (text : List Char) : List Char :=
  (replaceCodes (unescapeBrackets text)).filter fun c => !isHiddenControl c

/-! ### Open tags -/

/-- A tag that is open. -/
structure OpenTag where
  /-- The normal form of its name. -/
  style : String
  parameters : Option (List Char)
deriving DecidableEq, Repr, Inhabited

namespace OpenTag

/-- The name of the style in which a tag shows its text. -/
def shownStyle (t : OpenTag) : List Char :=
  t.style.toList ++ (t.parameters.map fun parameters => ' ' :: parameters).getD []

/-- The literals in the parameters of an action: what stands in round brackets behind its name, if they have that
form. -/
def literals (parameters : List Char) : List Char :=
  let parameters := Text.trim parameters
  let behind := parameters.dropWhile fun c => Text.isWordChar c || c == '.'
  if behind.isEmpty then "()".toList
  else if behind.head? = some '(' && behind.getLast? = some ')' && !behind.contains '\n' then behind
  else parameters

/-- Closes a tag. -/
def close (t : OpenTag) : Except MarkupError Unit :=
  match t.style.toList, t.parameters with
  | '@' :: _, some (c :: cs) =>
    let part := literals (c :: cs)
    match Literal.fault? part with
    | some fault => .error (.badParameters (String.ofList part) (String.ofList (c :: cs)) fault)
    | none => .ok ()
  | _, _ => .ok ()

/-- The normal form of a name in a tag. -/
def normalName (name : List Char) : Except MarkupError String :=
  (Style.normal name).mapError .badColour

end OpenTag

/-- The open tags after one more tag, the last first, and the tag that it closes. -/
def follow (opened : List OpenTag) (position : Nat) (content : List Char) :
    Except MarkupError (List OpenTag × Option OpenTag) := do
  match Text.cutAt '=' content with
  | ('/' :: name, _) =>
    if (Text.trim name).isEmpty then
      match opened with
      | tag :: opened => tag.close; return (opened, some tag)
      | [] => throw (.nothingToClose position)
    else
      let style ← OpenTag.normalName name
      match opened.find? fun tag => tag.style == style with
      | some tag => tag.close; return (opened.eraseP fun tag => tag.style == style, some tag)
      | none => throw (.matchesNothing (String.ofList ('[' :: (content ++ [']']))) position)
  | (name, parameters) => return (⟨← OpenTag.normalName name, parameters⟩ :: opened, none)

/-! ### Rendering -/

/-- A text that is to be shown, and the names of the styles in it. -/
structure Rendered where
  text : List Char
  styles : List (List Char)
deriving DecidableEq, Repr, Inhabited

/-- The text of pieces that follow some open tags. -/
def renderPieces (opened : List OpenTag) : List Piece → Except MarkupError Rendered
  | [] => .ok ⟨[], opened.map OpenTag.shownStyle⟩
  | .plain text :: rest => do
    let rendered ← renderPieces opened rest
    return { rendered with text := shown text ++ rendered.text }
  | .tag position content :: rest => do
    let (opened, closed) ← follow opened position content
    let rendered ← renderPieces opened rest
    return { rendered with styles := closed.toList.map OpenTag.shownStyle ++ rendered.styles }

/-- What a markup text shows. -/
def render (markup : String) : Except MarkupError Rendered :=
  renderPieces [] (pieces markup.toList)

/-- Reads the styles in a text that is to be shown.  A style that is none is passed over. -/
def Rendered.readStyles (r : Rendered) : Except MarkupError Unit :=
  r.styles.forM fun style => (Style.meaning style).mapError .badColour |>.map fun _ => ()

/-! ### Escaping -/

/-- Escapes a piece of text. -/
def escapeFrom (slashes : Nat) (cs : List Char) : List Char :=
  match cs with
  | [] => []
  | c :: cs =>
    if c = '\\' then c :: escapeFrom (slashes + 1) cs
    else if c = '[' then
      match tagContent? cs with
      | some content =>
        List.replicate (slashes + 1) '\\' ++ '[' :: (content ++ [']']) ++ escapeFrom 0 (cs.drop (content.length + 1))
      | none => c :: escapeFrom 0 cs
    else c :: escapeFrom 0 cs
termination_by cs.length
decreasing_by all_goals simp only [List.length_cons, List.length_drop]; omega

/-- Doubles a single backslash at the end, which would escape a tag behind the text. -/
def guardEnd (cs : List Char) : List Char :=
  if cs.getLast? = some '\\' && cs.dropLast.getLast? ≠ some '\\' then cs ++ ['\\'] else cs

/-- A markup text that shows the given text. -/
def escape (text : String) : String :=
  String.ofList (guardEnd (escapeFrom 0 text.toList))

end Markup

end Rollcall.Console
