/-!
# White space, comments and directives

The lengths of what stands between the words and symbols of a C# source.  A source is looked at byte by byte: every byte
is read as the character of its number.

A line comment ends before a line feed or a carriage return.  Most directives take the rest of their line; `#if` and
`#elif` take their condition, up to a comment; `#else` and `#endif` take nothing.
-/

namespace Rollcall.Trivia

/-- The length of the white space character at the beginning, zero if there is none. -/
def blankLength : List Char → Nat
  | '\xC2' :: '\xA0' :: _ => 2
  | '\xEF' :: '\xBB' :: '\xBF' :: _ => 3
  | '\xE3' :: '\x80' :: '\x80' :: _ => 3
  | c :: _ => if c == ' ' || ('\t' ≤ c && c ≤ '\r') then 1 else 0
  | [] => 0

/-! ### Comments -/

/-- The length of a line comment behind its slashes. -/
def lineLength (cs : List Char) : Nat :=
  (cs.takeWhile fun c => c != '\n' && c != '\r').length

/-- The length of a block comment behind its `/*`. -/
def blockLength : List Char → Nat
  | [] => 0
  | '*' :: '/' :: _ => 2
  | _ :: cs => blockLength cs + 1

/-- The length of the comment at the beginning, zero if there is none. -/
def commentLength : List Char → Nat
  | '/' :: '/' :: line => lineLength line + 2
  | '/' :: '*' :: block => blockLength block + 2
  | _ => 0

/-! ### Directives -/

/-- What a directive does. -/
inductive Directive where
  /-- Starts a condition. -/
  | opening
  /-- Starts another branch of a condition. -/
  | branch
  /-- Ends a condition. -/
  | closing
  /-- Changes nothing about what is declared. -/
  | remark
deriving DecidableEq, Repr, Inhabited

/-- The length of a condition: up to the end of its line or a comment. -/
def conditionLength : List Char → Nat
  | [] => 0
  | c :: cs => if c = '\n' || commentLength (c :: cs) ≠ 0 then 0 else conditionLength cs + 1

/-- The length of the text of a remark, of which `inside` characters are sure to belong to it.  It ends before a line
feed or a block comment.  A slash takes the next character with it, and a backslash the end of its line. -/
def remarkLength : (inside : Nat) → List Char → Nat
  | _, [] => 0
  | inside + 1, _ :: cs => remarkLength inside cs + 1
  | 0, c :: cs =>
    match c, cs with
    | '\n', _ => 0
    | '/', '*' :: _ => 0
    | '/', _ => remarkLength 1 cs + 1
    | '\\', '\n' :: _ => remarkLength 1 cs + 1
    | '\\', '\r' :: '\n' :: _ => remarkLength 2 cs + 1
    | _, _ => remarkLength 0 cs + 1

/-- The names of the directives that make up conditions. -/
def conditionNames : List (String × Directive) :=
  [("if", .opening), ("elif", .branch), ("else", .branch), ("endif", .closing)]

/-- The directive behind a `#`, and its length. -/
def directive (cs : List Char) : Directive × Nat :=
  let margin := (cs.takeWhile fun c => c == ' ' || c == '\t').length
  let rest := cs.drop margin
  match conditionNames.find? fun (name, _) => name.toList.isPrefixOf rest with
  | some (name, kind) =>
    let length := margin + name.length
    (kind, if name == "if" || name == "elif" then length + conditionLength (cs.drop length) else length)
  | none => (.remark, remarkLength 0 cs)

end Rollcall.Trivia
