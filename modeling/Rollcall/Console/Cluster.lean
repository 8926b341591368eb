import Rollcall.Console.Width

/-!
# Clusters

A cluster is a run of characters that is shown as one sign: a character with the combining characters behind it, or
several that joiners hold together.  A text is cut only between clusters.
-/

namespace Rollcall.Console

/-- A run of characters that is shown as one sign, and the columns it takes. -/
structure Cluster where
  chars : List Char
  columns : Nat
deriving DecidableEq, Repr, Inhabited

namespace Cluster

/-- The cluster with one more character, which takes no column. -/
def extend (k : Cluster) (c : Char) : Cluster :=
  { k with chars := k.chars ++ [c] }

/-- The clusters of a text behind the beginning `k` of a cluster.  `isJoined` and `last` are as in `widthFrom`. -/
def clustersFrom : (isJoined : Bool) → (last : Option Char) → (k : Cluster) → List Char → List Cluster
  | _, _, k, [] => [k]
  | true, last, k, c :: cs => clustersFrom false last (k.extend c) cs
  | false, last, k, c :: cs =>
    if c = joiner then clustersFrom true last (k.extend c) cs
    else if c = selector && last.any isSign then
      clustersFrom false none { k.extend c with columns := k.columns + 1 } cs
    else if charWidth c = 0 then clustersFrom false last (k.extend c) cs
    else k :: clustersFrom false (some c) ⟨[c], charWidth c⟩ cs

/-- The clusters of a text. -/
def ofText : List Char → List Cluster
  | [] => []
  | c :: cs => clustersFrom false (if charWidth c = 0 then none else some c) ⟨[c], charWidth c⟩ cs

/-- The characters of clusters up to some number of columns.  A space stands for the half of a wide cluster. -/
def take : (columns : Nat) → List Cluster → List Char
  | _, [] => []
  | columns, k :: ks =>
    if columns = 0 then []
    else if k.columns ≤ columns then k.chars ++ take (columns - k.columns) ks
    else [' ']

/-- The lines of at most `columns` columns that clusters fill, behind `line`, which takes `used` columns. -/
def fold (columns : Nat) : (line : List Char) → (used : Nat) → List Cluster → List (List Char)
  | line, _, [] => [line]
  | line, used, k :: ks =>
    if used + k.columns ≤ columns then fold columns (line ++ k.chars) (used + k.columns) ks
    else line :: fold columns k.chars k.columns ks

end Cluster

end Rollcall.Console
