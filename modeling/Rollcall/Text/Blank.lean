/-!
# Blanks

The white space that separates words in names, directives and settings.  `isBlank` is the class of separators; the
information separators U+001C to U+001F belong to it but may not surround a numeral, which is what `isMargin`
says.
-/

namespace Rollcall.Text

/-- The characters that may surround a numeral: the white space of the Unicode standard. -/
def isMargin (c : Char) : Bool :=
  let n := c.toNat
  (0x09 ≤ n && n ≤ 0x0D) || n == 0x20 || n == 0x85 || n == 0xA0 || n == 0x1680 || (0x2000 ≤ n && n ≤ 0x200A) ||
    n == 0x2028 || n == 0x2029 || n == 0x202F || n == 0x205F || n == 0x3000

/-- The characters that separate words: white space and the information separators. -/
def isBlank (c : Char) : Bool :=
  isMargin c || (0x1C ≤ c.toNat && c.toNat ≤ 0x1F)

/-- The text without its blanks. -/
def unblank (cs : List Char) : List Char :=
  cs.filter fun c => !isBlank c

/-- The text without the longest ending whose characters satisfy `p`. -/
def dropEndWhile (p : Char → Bool) (cs : List Char) : List Char :=
  (cs.reverse.dropWhile p).reverse

/-- The text without the blanks at both ends. -/
def trim (cs : List Char) : List Char :=
  dropEndWhile isBlank (cs.dropWhile isBlank)

/-- The words of a text, which blanks divide. -/
def words (cs : List Char) : List (List Char) :=
  (cs.splitOnP isBlank).filter fun w => !w.isEmpty

@[simp] theorem unblank_nil : unblank [] = [] := rfl

theorem mem_unblank {c : Char} {cs : List Char} : c ∈ unblank cs ↔ c ∈ cs ∧ isBlank c = false := by
  simp [unblank]

theorem unblank_append (cs ds : List Char) : unblank (cs ++ ds) = unblank cs ++ unblank ds := by
  simp [unblank]

theorem unblank_unblank (cs : List Char) : unblank (unblank cs) = unblank cs := by
  simp [unblank]

theorem unblank_eq_nil {cs : List Char} (h : ∀ c ∈ cs, isBlank c = true) : unblank cs = [] := by
  simpa [unblank] using h

theorem unblank_eq_self {cs : List Char} (h : ∀ c ∈ cs, isBlank c = false) : unblank cs = cs := by
  simpa [unblank] using h

theorem dropEndWhile_append_of_forall {p : Char → Bool} {ds : List Char} (cs : List Char) (h : ∀ c ∈ ds, p c = true) :
    dropEndWhile p (cs ++ ds) = dropEndWhile p cs := by
  have hreverse : ∀ c ∈ ds.reverse, p c = true := fun c hc => h c (List.mem_reverse.mp hc)
  rw [dropEndWhile, List.reverse_append, List.dropWhile_append_of_pos hreverse, dropEndWhile]

theorem dropEndWhile_eq_self {p : Char → Bool} {cs : List Char} (h : ∀ c ∈ cs, p c = false) :
    dropEndWhile p cs = cs := by
  have hdrop : cs.reverse.dropWhile p = cs.reverse := by
    cases hcs : cs.reverse with
    | nil => rfl
    | cons c rest =>
      have hc : c ∈ cs := List.mem_reverse.mp (hcs ▸ List.mem_cons_self)
      rw [List.dropWhile_cons_of_neg (by simp [h c hc])]
  rw [dropEndWhile, hdrop, List.reverse_reverse]

end Rollcall.Text
