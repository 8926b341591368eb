import Rollcall.Syntax.Quotation

/-!
# Tokens

A C# source is cut into tokens byte by byte: every byte is read as the character of its number, so bytes outside ASCII
belong to words, white space or the inside of texts.  Each token is found from its first byte and the number of bytes
that follow (`lexeme`), hence the tokens cover the source without gaps.
-/

namespace Rollcall

open Trivia (blankLength commentLength)

/-- The kinds of tokens. -/
inductive TokenKind where
  | blank
  | word
  | integer
  | real
  | text
  | verbatimText
  | otherText
  | symbol
  | openBracket
  | closeBracket
  | comment
  | directive (kind : Trivia.Directive)
deriving DecidableEq, Repr, Inhabited

/-- A stretch of a source that belongs together. -/
structure Token where
  kind : TokenKind
  spelling : String
  start : Nat
  stop : Nat
deriving DecidableEq, Repr, Inhabited

namespace Token

/-! ### Words -/

/-- A byte that can stand inside a word. -/
def isWordByte (c : Char) : Bool :=
  c.isAlphanum || c == '_' || '\x80' ≤ c

/-- A hexadecimal digit. -/
def isHexDigit (c : Char) : Bool :=
  c.isDigit || ('a' ≤ c && c ≤ 'f') || ('A' ≤ c && c ≤ 'F')

/-- The length of the character at the beginning that is given by its number, zero if there is none. -/
def escapeLength (cs : List Char) : Nat :=
  let hasDigits (count : Nat) (cs : List Char) := (cs.takeWhile isHexDigit).length ≥ count
  match cs with
  | '\\' :: 'u' :: digits => if hasDigits 4 digits then 6 else 0
  | '\\' :: 'U' :: digits => if hasDigits 8 digits then 10 else 0
  | _ => 0

/-- The length of the word at the beginning, of which `inside` characters are sure to belong to it. -/
def wordLength : (inside : Nat) → List Char → Nat
  | _, [] => 0
  | inside + 1, _ :: cs => wordLength inside cs + 1
  | 0, c :: cs =>
    let escape := escapeLength (c :: cs)
    if escape ≠ 0 then wordLength (escape - 1) cs + 1
    else if isWordByte c && blankLength (c :: cs) == 0 then wordLength 0 cs + 1
    else 0

/-! ### Numbers -/

/-- The length of the digits at the beginning, separators included. -/
def digitsLength (cs : List Char) : Nat :=
  (cs.takeWhile fun c => c.isDigit || c == '_').length

/-- The length of an exponent's sign, if the letters before it end in `e`. -/
def signLength (letters rest : List Char) : Nat :=
  match letters.getLast?, rest with
  | some e, s :: d :: _ => if (e == 'e' || e == 'E') && (s == '+' || s == '-') && d.isDigit then 1 else 0
  | _, _ => 0

/-- The length of the letters and digits behind the digits of a number, with a signed exponent. -/
def tailLength (cs : List Char) : Nat :=
  let letters := cs.take (wordLength 0 cs)
  let rest := cs.drop letters.length
  let sign := signLength letters rest
  letters.length + sign + if sign = 0 then 0 else wordLength 0 (rest.drop sign)

/-- The kind of the number at the beginning, and its length. -/
def number (cs : List Char) : TokenKind × Nat :=
  match cs with
  | '0' :: 'x' :: _ => (.integer, wordLength 0 cs)
  | '0' :: 'X' :: _ => (.integer, wordLength 0 cs)
  | '0' :: 'b' :: _ => (.integer, wordLength 0 cs)
  | '0' :: 'B' :: _ => (.integer, wordLength 0 cs)
  | _ =>
    let whole := digitsLength cs
    let rest := cs.drop whole
    match rest with
    | '.' :: d :: _ =>
      if d.isDigit then
        let part := digitsLength (rest.drop 1)
        (.real, whole + 1 + part + tailLength (rest.drop (1 + part)))
      else (.integer, whole)
    | _ =>
      let tail := tailLength rest
      let isSuffix := (rest.take tail).all fun c => c == 'u' || c == 'U' || c == 'l' || c == 'L'
      (if isSuffix then .integer else .real, whole + tail)

/-! ### The first token -/

/-- The symbols of two characters. -/
def pairs : List (Char × Char) :=
  [('=', '='), ('=', '>'), ('<', '='), ('>', '='), ('!', '='), ('+', '='), ('-', '='), ('*', '='), ('/', '='),
    ('%', '='), ('&', '='), ('|', '='), ('^', '='), (':', ':'), ('-', '>'), ('&', '&'), ('|', '|'), ('?', '?')]

/-- The kind of a text without holes. -/
def textKind : Quotation.Style → TokenKind
  | .plain => .text
  | .verbatim => .verbatimText
  | .raw _ => .otherText

/-- The kind and the length of the token at the beginning, if it is a text or a character. -/
def quotation? (cs : List Char) : Option (TokenKind × Nat) :=
  match Quotation.text? cs, Quotation.holedText? cs with
  | some (style, length), _ => some (textKind style, length)
  | none, some length => some (.otherText, length)
  | none, none =>
    let length := Quotation.characterLength cs
    if length = 0 then none else some (.otherText, length)

/-- The kind of the token that starts with `c`, and the number of characters that follow in it. -/
def lexeme (c : Char) (cs : List Char) : TokenKind × Nat :=
  let blank := blankLength (c :: cs)
  let comment := commentLength (c :: cs)
  if blank ≠ 0 then (.blank, blank - 1)
  else if comment ≠ 0 then (.comment, comment - 1)
  else if c.isDigit then
    let (kind, length) := number (c :: cs)
    (kind, length - 1)
  else
    match quotation? (c :: cs) with
    | some (kind, length) => (kind, length - 1)
    | none =>
      match c, cs with
      | '#', _ =>
        let (kind, length) := Trivia.directive cs
        (.directive kind, length)
      | '@', _ => (.word, wordLength 0 cs)
      | '.', d :: _ => if d.isDigit then (.real, (number (c :: cs)).2 - 1) else (.symbol, 0)
      | '(', _ | '[', _ | '\x7b', _ => (.openBracket, 0)
      | ')', _ | ']', _ | '\x7d', _ => (.closeBracket, 0)
      | _, _ =>
        let word := wordLength 0 (c :: cs)
        if word ≠ 0 then (.word, word - 1)
        else (.symbol, if cs.head?.any fun d => pairs.contains (c, d) then 1 else 0)

/-- The tokens of a source from some offset on. -/
def scan (offset : Nat) : List Char → List Token
  | [] => []
  | c :: cs =>
    let (kind, more) := lexeme c cs
    ⟨kind, String.ofList (c :: cs.take more), offset, offset + more + 1⟩ :: scan (offset + more + 1) (cs.drop more)
termination_by cs => cs.length
decreasing_by simp only [List.length_cons, List.length_drop]; omega

/-- The tokens of a source. -/
def ofBytes (bytes : ByteArray) : List Token :=
  scan 0 (bytes.data.toList.map fun b => Char.ofNat b.toNat)

/-- Whether a token has no bearing on what is declared: white space, comments and remarks. -/
def isTrivia (t : Token) : Bool :=
  match t.kind with
  | .blank | .comment | .directive .remark => true
  | _ => false

end Token

end Rollcall
