import Rollcall.Datum.Basic
import Rollcall.Text.Quoted

/-!
# Documents

Data as JSON text in ASCII.  A document stands on one line (`Datum.onLine`) or is indented, with one item or field to a
line (`Datum.indented`).
-/

namespace Rollcall.Datum

/-! ### Strings and numbers -/

/-- A code unit of sixteen bits as an escape. -/
def unitEscape (n : Nat) : List Char :=
  '\\' :: 'u' :: Text.hexDigits 4 n

/-- A character that is not ASCII, as one or two code units. -/
def wideEscape (n : Nat) : List Char :=
  if n < 0x10000 then unitEscape n
  else unitEscape (0xD800 + (n - 0x10000) / 0x400) ++ unitEscape (0xDC00 + (n - 0x10000) % 0x400)

/-- A character inside a string. -/
def stringChar (c : Char) : List Char :=
  if c = '"' ∨ c = '\\' then ['\\', c]
  else if c = '\n' then ['\\', 'n']
  else if c = '\r' then ['\\', 'r']
  else if c = '\t' then ['\\', 't']
  else if c.toNat = 8 then ['\\', 'b']
  else if c.toNat = 12 then ['\\', 'f']
  else if 0x20 ≤ c.toNat ∧ c.toNat < 0x7F then [c]
  else wideEscape c.toNat

/-- A string. -/
def string (s : String) : String :=
  String.ofList ('"' :: (s.toList.flatMap stringChar ++ ['"']))

/-- A number with its point and `places` digits behind it. -/
def point (mantissa places : Nat) : String :=
  let digits := Nat.toDigits 10 (mantissa % Nat.pow 10 places)
  toString (mantissa / Nat.pow 10 places) ++ "." ++
    String.ofList (List.replicate (places - digits.length) '0' ++ digits)

/-- A real number, with all digits of its value. -/
def realText : Double → String
  | .infinite isNegative => (if isNegative then "-" else "") ++ "Infinity"
  | .finite isNegative significand exponent =>
    let halvings := (-exponent).toNat
    (if isNegative then "-" else "") ++
      if halvings = 0 then point (significand * Nat.pow 2 exponent.toNat * 10) 1
      else point (significand * Nat.pow 5 halvings) halvings

/-- A value without parts. -/
def scalar : Datum → String
  | .null => "null"
  | .flag true => "true"
  | .flag false => "false"
  | .integer n => toString n
  | .real x => realText x
  | .text s => string s
  | .list _ => "[]"
  | .record _ => "\x7b\x7d"

/-! ### On one line -/

mutual

/-- A value on one line. -/
def onLine : Datum → String
  | .list items => "[" ++ ", ".intercalate (itemsOnLine items) ++ "]"
  | .record fields => "\x7b" ++ ", ".intercalate (fieldsOnLine fields) ++ "\x7d"
  | d => scalar d

/-- The items of a list, each on one line. -/
def itemsOnLine : List Datum → List String
  | [] => []
  | d :: rest => onLine d :: itemsOnLine rest

/-- The fields of a record, each on one line. -/
def fieldsOnLine : List (String × Datum) → List String
  | [] => []
  | (name, d) :: rest => (string name ++ ": " ++ onLine d) :: fieldsOnLine rest

end

/-! ### Indented -/

/-- The spaces of one level. -/
def indentation (depth : Nat) : String :=
  String.ofList (List.replicate (2 * depth) ' ')

/-- Puts parts between brackets, each on a line of its own; without parts the brackets stand together. -/
def bracketed (opening closing : String) (depth : Nat) (parts : List String) : String :=
  if parts.isEmpty then opening ++ closing
  else
    let margin := "\n" ++ indentation (depth + 1)
    opening ++ margin ++ ("," ++ margin).intercalate parts ++ "\n" ++ indentation depth ++ closing

mutual

/-- A value that starts at some depth. -/
def indentedAt (depth : Nat) : Datum → String
  | .list items => bracketed "[" "]" depth (itemsIndentedAt (depth + 1) items)
  | .record fields => bracketed "\x7b" "\x7d" depth (fieldsIndentedAt (depth + 1) fields)
  | d => scalar d

/-- The items of a list at some depth. -/
def itemsIndentedAt (depth : Nat) : List Datum → List String
  | [] => []
  | d :: rest => indentedAt depth d :: itemsIndentedAt depth rest

/-- The fields of a record at some depth. -/
def fieldsIndentedAt (depth : Nat) : List (String × Datum) → List String
  | [] => []
  | (name, d) :: rest => (string name ++ ": " ++ indentedAt depth d) :: fieldsIndentedAt depth rest

end

/-- A value with one item or field to a line. -/
def indented (d : Datum) : String := indentedAt 0 d

end Rollcall.Datum
