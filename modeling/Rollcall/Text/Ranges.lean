/-!
# Ranges of characters

A Unicode property is given by a table of closed ranges of code points.
-/

namespace Rollcall.Text

/-- Whether a code point lies in one of the ranges. -/
def inRanges (table : List (Nat × Nat)) (n : Nat) : Bool :=
  table.any fun (first, last) => first ≤ n && n ≤ last

end Rollcall.Text
