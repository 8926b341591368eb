import Rollcall.Text.Blank
import Rollcall.Text.Search

/-!
# Type names

A type name is looked up by its key.  `key` drops blanks, one leading `global::` and the trailing question marks of the
written name, and replaces every generic argument list by the number of its arguments: `List<Dictionary<string, int>>`
has the key ``List`1``.  The commas that count are those directly inside the outermost list, so a tuple inside a
list adds its own commas, and text behind an unmatched `>` is lost.
-/

namespace Rollcall.TypeName

open Text

/-- The mark that follows a generic name in its key. -/
def aritySuffix (n : Nat) : List Char :=
  '`' :: (toString n).toList

/-- Replaces argument lists by arities.  `depth` is the number of lists open here, negative behind an unmatched
closing bracket, and `commas` counts the commas of the outermost open list. -/
def foldArguments : (depth : Int) → (commas : Nat) → List Char → List Char
  | _, _, [] => []
  | depth, commas, c :: cs =>
    if c = '<' then foldArguments (depth + 1) (if depth = 0 then 0 else commas) cs
    else if c = '>' then
      if depth = 1 then aritySuffix (commas + 1) ++ foldArguments 0 commas cs
      else foldArguments (depth - 1) commas cs
    else if depth = 0 then c :: foldArguments depth commas cs
    else if c = ',' ∧ depth = 1 then foldArguments depth (commas + 1) cs
    else foldArguments depth commas cs

/-- The qualifier that starts a name at the global namespace. -/
def globalQualifier : List Char := "global::".toList

/-- The name without one leading `global::`. -/
def dropGlobal (cs : List Char) : List Char :=
  (afterStart? globalQualifier cs).getD cs

/-- `key` on characters. -/
def keyChars (cs : List Char) : List Char :=
  foldArguments 0 0 (dropEndWhile (· == '?') (dropGlobal (unblank cs)))

/-- The key under which a written type name is looked up. -/
def key (written : String) : String :=
  String.ofList (keyChars written.toList)

/-- Joins a qualifier and a name by a dot; an empty qualifier adds nothing. -/
def qualify (qualifier name : String) : String :=
  if qualifier = "" then name else qualifier ++ "." ++ name

/-- The segments of a dotted name. -/
def segments (name : String) : List String :=
  (pieces '.' name.toList).map String.ofList

/-- The last segment of a dotted name. -/
def lastSegment (name : String) : String :=
  (segments name).getLastD ""

end Rollcall.TypeName
