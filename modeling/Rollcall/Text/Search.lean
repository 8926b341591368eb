/-!
# Searching in text

Texts are lists of characters here.  `afterStart? p cs` is the rest of `cs` behind the beginning `p`, `occurs` looks for
one text inside another, and `cutAt` divides a text at the first occurrence of a character.
-/

namespace Rollcall.Text

/-- What follows `start` in a text that begins with it. -/
def afterStart? : (start cs : List Char) → Option (List Char)
  | [], cs => some cs
  | _ :: _, [] => none
  | s :: start, c :: cs => if s = c then afterStart? start cs else none

theorem afterStart?_eq_some_iff {start cs rest : List Char} :
    afterStart? start cs = some rest ↔ cs = start ++ rest := by
  induction start generalizing cs with
  | nil => simp [afterStart?, eq_comm]
  | cons s start ih =>
    cases cs with
    | nil => simp [afterStart?]
    | cons c cs =>
      by_cases h : s = c
      · simp [afterStart?, h, ih]
      · simp [afterStart?, h, Ne.symm h]

/-- Whether `needle` stands somewhere in a text, which may also be a text of bytes. -/
def occurs {α : Type} [BEq α] (needle : List α) : List α → Bool
  | [] => needle.isEmpty
  | c :: cs => needle.isPrefixOf (c :: cs) || occurs needle cs

/-- The text before the first `mark` and the text behind it, if there is one. -/
def cutAt (mark : Char) : List Char → List Char × Option (List Char)
  | [] => ([], none)
  | c :: cs =>
    if c = mark then ([], some cs)
    else ((c :: (cutAt mark cs).1), (cutAt mark cs).2)

/-- The pieces of a text between its occurrences of `mark`. -/
def pieces (mark : Char) : List Char → List (List Char)
  | [] => [[]]
  | c :: cs =>
    match pieces mark cs with
    | [] => [[c]]
    | p :: ps => if c = mark then [] :: p :: ps else (c :: p) :: ps

theorem pieces_ne_nil (mark : Char) (cs : List Char) : pieces mark cs ≠ [] := by
  cases cs with
  | nil => simp [pieces]
  | cons c cs =>
    unfold pieces
    split <;> (try split) <;> simp

end Rollcall.Text
