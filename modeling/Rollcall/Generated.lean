import Rollcall.Text.Blank
import Rollcall.Text.Search
import Rollcall.Text.Utf8

/-!
# Generated files

A file counts as generated when its name says so, or when the comments at its beginning hold an auto-generated tag.
Only the first `headSize` bytes are looked at, so a comment that is still open there is not one of the comments at the
beginning.
-/

namespace Rollcall.Generated

open Text

/-- The endings that mark a generated file, in lower case.  None of them holds a letter that is the lower case of a
character outside ASCII, so comparing ASCII letters without case is enough. -/
def fileEndings : List String := [".g.cs", ".g.i.cs", ".generated.cs", ".designer.cs"]

/-- Whether a file name marks a generated file, whatever its case. -/
def nameMarks (name : String) : Bool :=
  fileEndings.any fun ending => ending.toList.isSuffixOf (name.toList.map Char.toLower)

/-- A block comment behind its `/*`: the text up to its first `*/` inclusive, and the text that follows. -/
def closeComment? : List Char → Option (List Char × List Char)
  | [] => none
  | '*' :: '/' :: cs => some (['*', '/'], cs)
  | c :: cs => (closeComment? cs).map fun (inside, rest) => (c :: inside, rest)

theorem closeComment?_append {cs inside rest : List Char} (h : closeComment? cs = some (inside, rest)) :
    cs = inside ++ rest := by
  fun_induction closeComment? cs generalizing inside with
  | case1 => simp at h
  | case2 cs => simp at h; simp [← h.1, h.2]
  | case3 c cs _ ih =>
    obtain ⟨⟨i, r⟩, hi, he⟩ := Option.map_eq_some_iff.1 h
    simp at he
    obtain ⟨rfl, rfl⟩ := he
    simp [← ih hi]

/-- The white space and closed comments at the beginning of a text. -/
def leadingTrivia : List Char → List Char
  | [] => []
  | c :: cs =>
    if isBlank c then c :: leadingTrivia cs
    else if c = '/' then
      match cs with
      | '/' :: line => '/' :: '/' :: (line.takeWhile (· != '\n') ++ leadingTrivia (line.dropWhile (· != '\n')))
      | '*' :: block =>
        match _h : closeComment? block with
        | some (inside, rest) => '/' :: '*' :: (inside ++ leadingTrivia rest)
        | none => []
      | _ => []
    else []
termination_by cs => cs.length
decreasing_by
  · simp
  · have := (List.dropWhile_sublist (fun x => x != '\n') : (line.dropWhile (· != '\n')).Sublist line).length_le
    simp only [List.length_cons]
    omega
  · have := congrArg List.length (closeComment?_append _h)
    simp only [List.length_append, List.length_cons] at *
    omega

theorem leadingTrivia_blank {c : Char} (h : isBlank c = true) (cs : List Char) :
    leadingTrivia (c :: cs) = c :: leadingTrivia cs := by
  rw [leadingTrivia.eq_def]
  simp only [h, if_true]

theorem leadingTrivia_line (cs : List Char) :
    leadingTrivia ('/' :: '/' :: cs) =
      '/' :: '/' :: (cs.takeWhile (· != '\n') ++ leadingTrivia (cs.dropWhile (· != '\n'))) := by
  rw [leadingTrivia.eq_def]
  rfl

theorem leadingTrivia_block {cs inside rest : List Char} (h : closeComment? cs = some (inside, rest)) :
    leadingTrivia ('/' :: '*' :: cs) = '/' :: '*' :: (inside ++ leadingTrivia rest) := by
  rw [leadingTrivia.eq_def]
  show (match _h : closeComment? cs with
    | some (inside, rest) => '/' :: '*' :: (inside ++ leadingTrivia rest)
    | none => []) = _
  split
  · next hsome =>
    rw [h] at hsome
    cases hsome
    rfl
  · next hnone =>
    rw [h] at hnone
    cases hnone

/-- A text in which neither white space nor a comment begins is nothing but its rest. -/
theorem leadingTrivia_eq_nil {cs : List Char} (hblank : ∀ c ds, cs = c :: ds → isBlank c = false)
    (hline : ∀ ds, cs ≠ '/' :: '/' :: ds) (hblock : ∀ ds, cs = '/' :: '*' :: ds → closeComment? ds = none) :
    leadingTrivia cs = [] := by
  rw [leadingTrivia.eq_def]
  split
  · rfl
  · next c ds =>
    rw [if_neg (by simp [hblank c ds rfl])]
    split
    · next hc =>
      subst hc
      split
      · next line => exact absurd rfl (hline line)
      · next block =>
        split
        · next hsome =>
          rw [hblock block rfl] at hsome
          cases hsome
        · rfl
      · rfl
    · rfl

/-- How the auto-generated tag may start, in lower case. -/
def tags : List String := ["<auto-generated", "<autogenerated"]

/-- Whether a text holds an auto-generated tag, whatever its case. -/
def holdsTag (cs : List Char) : Bool :=
  tags.any fun tag => occurs tag.toList (cs.map Char.toLower)

/-- The number of bytes that are looked at. -/
def headSize : Nat := 4096

/-- Whether the comments at the beginning of a source hold an auto-generated tag. -/
def headMarks (bytes : List UInt8) : Bool :=
  holdsTag (leadingTrivia (decodeMarked (bytes.take headSize)))

/-- Whether a file with this name and these bytes counts as generated. -/
def isGenerated (name : String) (bytes : List UInt8) : Bool :=
  nameMarks name || headMarks bytes

end Rollcall.Generated
