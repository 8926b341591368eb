import Rollcall.Syntax.Trivia

/-!
# Quotations

The lengths of the texts and characters that stand in quotes in a C# source.  A text may have holes: an opening brace
starts code, in which there may be texts again, and a closing brace ends it.  Behind a colon, the rest of a hole says
how its value is formatted.

A text is plain, verbatim (a quote is written twice) or raw (it ends with as many quotes as it starts with).  The holes
of a raw text open with as many braces as there are dollars before it.
-/

namespace Rollcall.Quotation

open Trivia (commentLength)

/-- How a text is written. -/
inductive Style where
  | plain
  | verbatim
  | raw (quotes : Nat)
deriving DecidableEq, Repr, Inhabited

/-- The number of characters equal to `c` at the beginning. -/
def runLength (c : Char) (cs : List Char) : Nat :=
  (cs.takeWhile (· == c)).length

/-! ### Without holes -/

/-- The length of what remains of a text without holes, of which `inside` characters are sure to belong to it. -/
def textLength (style : Style) : (inside : Nat) → List Char → Nat
  | _, [] => 0
  | inside + 1, _ :: cs => textLength style inside cs + 1
  | 0, c :: cs =>
    match style, c, cs with
    | .plain, '\\', _ => textLength style 1 cs + 1
    | .plain, '"', _ => 1
    | .verbatim, '"', '"' :: _ => textLength style 1 cs + 1
    | .verbatim, '"', _ => 1
    | .raw quotes, '"', _ =>
      let run := runLength '"' (c :: cs)
      if quotes ≤ run then run else textLength style (run - 1) cs + 1
    | _, _, _ => textLength style 0 cs + 1

/-- The length of the mark of an encoding. -/
def encodingLength : List Char → Nat
  | 'u' :: '8' :: _ => 2
  | 'U' :: '8' :: _ => 2
  | _ => 0

/-- A length with that of the mark of an encoding behind it. -/
def withEncoding (length : Nat) (cs : List Char) : Nat :=
  length + encodingLength (cs.drop length)

/-- The style of the text whose first quote stands at the beginning, and the number of its quotes. -/
def quoteStyle (cs : List Char) : Style × Nat :=
  let run := runLength '"' cs
  if 3 ≤ run then (.raw run, run) else (.plain, 1)

/-- The style and the length of the text without holes at the beginning. -/
def text? (cs : List Char) : Option (Style × Nat) :=
  match cs with
  | '"' :: _ =>
    let (style, quotes) := quoteStyle cs
    some (style, withEncoding (quotes + textLength style 0 (cs.drop quotes)) cs)
  | '@' :: '"' :: rest => some (.verbatim, withEncoding (2 + textLength .verbatim 0 rest) cs)
  | _ => none

/-- The length of the character at the beginning, zero if there is none. -/
def characterLength : List Char → Nat
  | '\'' :: '\\' :: _ :: cs => (cs.takeWhile (· != '\'')).length + 4
  | '\'' :: cs => (cs.takeWhile (· != '\'')).length + 2
  | _ => 0

/-! ### With holes -/

/-- The beginning of a text with holes: its style, the number of its dollars, and the length up to its contents. -/
def opening? (cs : List Char) : Option (Style × Nat × Nat) :=
  match cs with
  | '@' :: '$' :: '"' :: _ => some (.verbatim, 1, 3)
  | '$' :: '@' :: '"' :: _ => some (.verbatim, 1, 3)
  | '$' :: _ =>
    let dollars := runLength '$' cs
    match cs.drop dollars with
    | '"' :: _ =>
      let (style, quotes) := quoteStyle (cs.drop dollars)
      some (style, dollars, dollars + quotes)
    | _ => none
  | _ => none

/-- What a position belongs to: the contents of a text, the code of a hole with some brackets and conditional operators
open in it, or the format of a hole. -/
inductive Frame where
  | contents (style : Style) (dollars : Nat)
  | code (brackets conditionals : Nat)
  | format
deriving DecidableEq, Repr, Inhabited

/-- The number of braces that close a hole in the frames around it. -/
def closingBraces : List Frame → Nat
  | .contents _ dollars :: _ => dollars
  | _ => 1

/-- What a character of a text does, given the characters behind it: the number of those that go with it, and the frames
behind them. -/
def contentsStep (style : Style) (dollars : Nat) (outer : List Frame) (c : Char) (cs : List Char) :
    Nat × List Frame :=
  let stay := Frame.contents style dollars :: outer
  match style, c, cs with
  | .plain, '\\', _ => (1, stay)
  | .plain, '"', _ => (0, outer)
  | .verbatim, '"', '"' :: _ => (1, stay)
  | .verbatim, '"', _ => (0, outer)
  | .raw quotes, '"', _ =>
    let run := runLength '"' (c :: cs)
    (run - 1, if quotes ≤ run then outer else stay)
  | .raw _, '\x7b', _ =>
    let run := runLength '\x7b' (c :: cs)
    (run - 1, if dollars ≤ run then .code 0 0 :: stay else stay)
  | _, '\x7b', '\x7b' :: _ => (1, stay)
  | _, '\x7b', _ => (0, .code 0 0 :: stay)
  | _, _, _ => (0, stay)

/-- What a character of the code of a hole does, as `contentsStep`. -/
def codeStep (brackets conditionals : Nat) (outer : List Frame) (c : Char) (cs : List Char) : Nat × List Frame :=
  let stay := Frame.code brackets conditionals :: outer
  let comment := commentLength (c :: cs)
  match opening? (c :: cs), text? (c :: cs) with
  | some (style, dollars, length), _ => (length - 1, .contents style dollars :: stay)
  | none, some (_, length) => (length - 1, stay)
  | none, none =>
    if comment ≠ 0 then (comment - 1, stay)
    else
      match c, cs, brackets with
      | '\'', _, _ => (characterLength (c :: cs) - 1, stay)
      | '(', _, _ | '[', _, _ | '\x7b', _, _ => (0, .code (brackets + 1) conditionals :: outer)
      | ')', _, _ | ']', _, _ => (0, .code (brackets - 1) conditionals :: outer)
      | '\x7d', _, 0 => (closingBraces outer - 1, outer)
      | '\x7d', _, brackets + 1 => (0, .code brackets conditionals :: outer)
      | '?', '?' :: _, 0 => (1, stay)
      | '?', '.' :: _, 0 | '?', '[' :: _, 0 => (0, stay)
      | '?', _, 0 => (0, .code 0 (conditionals + 1) :: outer)
      | ':', ':' :: _, 0 => (1, stay)
      | ':', _, 0 => (0, if conditionals = 0 then .format :: outer else .code 0 (conditionals - 1) :: outer)
      | _, _, _ => (0, stay)

/-- What a character does in a frame, as `contentsStep`. -/
def step (frame : Frame) (outer : List Frame) (c : Char) (cs : List Char) : Nat × List Frame :=
  match frame with
  | .contents style dollars => contentsStep style dollars outer c cs
  | .code brackets conditionals => codeStep brackets conditionals outer c cs
  | .format => if c = '\x7d' then (closingBraces outer - 1, outer) else (0, .format :: outer)

/-- The length of what remains of a text with holes, of which `inside` characters are sure to belong to it.  The frames
around the position are given from the innermost out. -/
def holedLength : (inside : Nat) → List Frame → List Char → Nat
  | _, _, [] => 0
  | inside + 1, frames, _ :: cs => holedLength inside frames cs + 1
  | 0, [], _ => 0
  | 0, frame :: outer, c :: cs =>
    let (inside, frames) := step frame outer c cs
    holedLength inside frames cs + 1

/-- The length of the text with holes at the beginning. -/
def holedText? (cs : List Char) : Option Nat :=
  (opening? cs).map fun (style, dollars, length) =>
    withEncoding (length + holedLength 0 [.contents style dollars] (cs.drop length)) cs

end Rollcall.Quotation
