/-!
# Reading UTF-8

Bytes become characters by the rules of UTF-8; where they are not well formed, every longest beginning of a
character that cannot be completed becomes one U+FFFD.
-/

namespace Rollcall.Text

/-- The character that stands for bytes that are not well-formed UTF-8. -/
def replacement : Char := Char.ofNat 0xFFFD

/-- A continuation byte. -/
def isContinuation (b : UInt8) : Bool := 0x80 ≤ b && b ≤ 0xBF

/-- How many continuation bytes a leading byte asks for, with the range allowed for the first of them.  Overlong
forms, surrogates and code points above U+10FFFF are excluded by that range. -/
def continuationsAfter? (lead : UInt8) : Option (Nat × UInt8 × UInt8) :=
  if 0xC2 ≤ lead && lead ≤ 0xDF then some (1, 0x80, 0xBF)
  else if lead == 0xE0 then some (2, 0xA0, 0xBF)
  else if lead == 0xED then some (2, 0x80, 0x9F)
  else if 0xE1 ≤ lead && lead ≤ 0xEF then some (2, 0x80, 0xBF)
  else if lead == 0xF0 then some (3, 0x90, 0xBF)
  else if 0xF1 ≤ lead && lead ≤ 0xF3 then some (3, 0x80, 0xBF)
  else if lead == 0xF4 then some (3, 0x80, 0x8F)
  else none

/-- The continuation bytes at hand for a character that asks for `count` of them. -/
def takeContinuations (count : Nat) (low high : UInt8) : List UInt8 → List UInt8
  | [] => []
  | b :: rest =>
    if count ≠ 0 && low ≤ b && b ≤ high then b :: (rest.take (count - 1)).takeWhile isContinuation
    else []

theorem toNat_ofNat {n : Nat} (h : n.isValidChar) : (Char.ofNat n).toNat = n := by
  unfold Char.ofNat
  rw [dif_pos h]
  exact UInt32.toNat_ofNatLT ..

/-- The code point of a leading byte with its `count` continuation bytes. -/
def codePoint (count : Nat) (lead : UInt8) (continuations : List UInt8) : Nat :=
  continuations.foldl (fun n b => n * 64 + b.toNat % 64) (lead.toNat % Nat.pow 2 (6 - count))

/-- The first character of a text that starts with the byte `lead`, and how many further bytes belong to it. -/
def firstChar (lead : UInt8) (rest : List UInt8) : Char × Nat :=
  if lead < 0x80 then (Char.ofNat lead.toNat, 0)
  else
    match continuationsAfter? lead with
    | none => (replacement, 0)
    | some (count, low, high) =>
      let continuations := takeContinuations count low high rest
      if continuations.length = count then (Char.ofNat (codePoint count lead continuations), count)
      else (replacement, continuations.length)

/-- The characters of a text in UTF-8. -/
def decode : List UInt8 → List Char
  | [] => []
  | lead :: rest =>
    let first := firstChar lead rest
    first.1 :: decode (rest.drop first.2)
termination_by bytes => bytes.length
decreasing_by simp only [List.length_cons, List.length_drop]; omega

/-- The byte order mark that may precede a text. -/
def byteOrderMark : List UInt8 := [0xEF, 0xBB, 0xBF]

/-- The characters of a text in UTF-8 that may start with a byte order mark. -/
def decodeMarked (bytes : List UInt8) : List Char :=
  match bytes with
  | 0xEF :: 0xBB :: 0xBF :: rest => decode rest
  | _ => decode bytes

end Rollcall.Text
