import Rollcall.Datum.Basic
import Rollcall.Text.Numeral

/-!
# Checked data

Reading a typed value from data.  All faults of a value are found, not only the first: where a value is put together
from parts, the faults of the parts come in the order of the parts (`Checked.both`).
-/

namespace Rollcall

/-- What is wrong with a piece of data. -/
inductive Cause where
  | missing
  | notText
  | notInteger
  | unreadableInteger
  | tooLarge
  | notFinite
  | hasFraction
  | notRecord (expected : String)
  | rejected (reason : String)
  | frozen
deriving DecidableEq, Repr, Inhabited

namespace Cause

/-- The short name of a cause. -/
def code : Cause → String
  | .missing => "missing"
  | .notText => "string_type"
  | .notInteger => "int_type"
  | .unreadableInteger => "int_parsing"
  | .tooLarge => "int_parsing_size"
  | .notFinite => "finite_number"
  | .hasFraction => "int_from_float"
  | .notRecord _ => "model_type"
  | .rejected _ => "value_error"
  | .frozen => "frozen_instance"

/-- The message of a cause. -/
def message : Cause → String
  | .missing => "Field required"
  | .notText => "Input should be a valid string"
  | .notInteger => "Input should be a valid integer"
  | .unreadableInteger => "Input should be a valid integer, unable to parse string as an integer"
  | .tooLarge => "Unable to parse input string as an integer, exceeded maximum size"
  | .notFinite => "Input should be a finite number"
  | .hasFraction => "Input should be a valid integer, got a number with a fractional part"
  | .notRecord expected => "Input should be a valid dictionary or instance of " ++ expected
  | .rejected reason => "Value error, " ++ reason
  | .frozen => "Instance is frozen"

end Cause

/-- Something wrong at a place in the data, which is reached through the fields of `path`. -/
structure Fault where
  path : List String
  cause : Cause
deriving DecidableEq, Repr, Inhabited

/-- A value that was read, or all its faults. -/
inductive Checked (α : Type) where
  | good (value : α)
  | bad (faults : List Fault)
deriving Repr, Inhabited

namespace Checked

/-- A value with one fault. -/
def fail {α : Type} (cause : Cause) : Checked α := .bad [⟨[], cause⟩]

/-- Changes a value that was read. -/
def map {α β : Type} (f : α → β) : Checked α → Checked β
  | .good a => .good (f a)
  | .bad faults => .bad faults

/-- Two values, or the faults of both. -/
def both {α β : Type} : Checked α → Checked β → Checked (α × β)
  | .good a, .good b => .good (a, b)
  | .good _, .bad faults => .bad faults
  | .bad faults, .good _ => .bad faults
  | .bad faults, .bad more => .bad (faults ++ more)

/-- Checks a value further. -/
def andThen {α β : Type} (a : Checked α) (next : α → Checked β) : Checked β :=
  match a with
  | .good a => next a
  | .bad faults => .bad faults

/-- The faults of a value that is held by a field. -/
def inField {α : Type} (name : String) : Checked α → Checked α
  | .good a => .good a
  | .bad faults => .bad (faults.map fun f => { f with path := name :: f.path })

instance : Functor Checked where
  map := map

instance : Applicative Checked where
  pure := .good
  seq f a := map (fun p => p.1 p.2) (both f (a ()))

end Checked

namespace Datum

/-- Reads text. -/
def asText : Datum → Checked String
  | .text s => .good s
  | _ => .fail .notText

/-- The integer that a double is.  It has to be smaller in size than 2 to the 63. -/
def integerOf (x : Double) : Checked Int :=
  match x, x.toInt? with
  | .infinite _, _ => .fail .notFinite
  | .finite .., none => .fail .hasFraction
  | .finite .., some n => if n.natAbs < Nat.pow 2 63 then .good n else .fail .tooLarge

/-- Reads an integer.  A flag counts as one or zero, a real number must be an integer, and text must be a numeral. -/
def asInteger : Datum → Checked Int
  | .integer n => .good n
  | .flag b => .good (if b then 1 else 0)
  | .real x => integerOf x
  | .text s =>
    match Text.readPlainInteger s.toList with
    | .ok n => .good n
    | .error .unreadable => .fail .unreadableInteger
    | .error .tooLong => .fail .tooLarge
  | _ => .fail .notInteger

/-- Reads a value that may be null. -/
def asOptional {α : Type} (read : Datum → Checked α) : Datum → Checked (Option α)
  | .null => .good none
  | d => some <$> read d

/-- Reads a record, which is called `expected` where something else is found. -/
def asRecord {α : Type} (expected : String) (read : List (String × Datum) → Checked α) : Datum → Checked α
  | .record fields => read fields
  | _ => .fail (.notRecord expected)

/-- Reads a field that has to be there. -/
def required {α : Type} (fields : List (String × Datum)) (name : String) (read : Datum → Checked α) : Checked α :=
  match field? fields name with
  | some d => (read d).inField name
  | none => (Checked.fail .missing).inField name

/-- Reads a field that has a usual value. -/
def optional {α : Type} (fields : List (String × Datum)) (name : String) (usual : α)
    (read : Datum → Checked α) : Checked α :=
  match field? fields name with
  | some d => (read d).inField name
  | none => .good usual

end Datum

end Rollcall
