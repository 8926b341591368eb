import Rollcall.Datum.Double

/-!
# Data

A value that comes from outside or goes there: what a JSON document holds.  The fields of a record keep their order.
-/

namespace Rollcall

/-- A value of a document. -/
inductive Datum where
  | null
  | flag (value : Bool)
  | integer (value : Int)
  /-- A number written with a fraction or an exponent. -/
  | real (value : Double)
  | text (value : String)
  | list (items : List Datum)
  | record (fields : List (String × Datum))
deriving Repr, Inhabited

namespace Datum

/-- The value of the first field of some name. -/
def field? (fields : List (String × Datum)) (name : String) : Option Datum :=
  (fields.find? fun f => f.1 == name).map (·.2)

end Datum

end Rollcall
