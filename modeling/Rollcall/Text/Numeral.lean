import Rollcall.Text.Blank
import Rollcall.Text.Digit

/-!
# Numerals

Integer numerals with a base marked by `0x`, `0o` or `0b`.  A numeral may have a sign and white space around it, and its
digits may come from any script.  A decimal numeral other than zero does not start with a zero and has at most
4300 digits (`readInteger`).

Plain numerals are decimal and ASCII.  The strict ones have no needless zero and at most 4300 characters.  The others
are brought into that form: zeros and underscores at their beginning are dropped, and so are a point with zeros behind
it and single underscores (`readPlainInteger`).
-/

namespace Rollcall.Text

/-- The value of a digit below `base`, where the letters stand for ten and above. -/
def digitIn? (base : Nat) (c : Char) : Option Nat :=
  let value :=
    if c.isDigit then some (c.toNat - '0'.toNat)
    else if 'a' ≤ c && c ≤ 'z' then some (c.toNat - 'a'.toNat + 10)
    else if 'A' ≤ c && c ≤ 'Z' then some (c.toNat - 'A'.toNat + 10)
    else none
  value.filter (· < base)

/-- Continues reading the digits of a numeral whose beginning has the value `n`. -/
def readDigitsFrom (base : Nat) : (n : Nat) → List Char → Option Nat
  | n, [] => some n
  | n, c :: cs =>
    match digitIn? base c with
    | some d => readDigitsFrom base (n * base + d) cs
    | none => none

/-- The value of a non-empty row of digits. -/
def readDigits (base : Nat) (cs : List Char) : Option Nat :=
  if cs.isEmpty then none else readDigitsFrom base 0 cs

/-- The most digits a decimal numeral may have. -/
def decimalLimit : Nat := 4300

/-- Reads a decimal numeral, refusing long ones. -/
def readDecimal (cs : List Char) : Option Nat :=
  if cs.length ≤ decimalLimit then readDigits 10 cs else none

/-- Reads a numeral without sign in the base that its beginning marks. -/
def readMarked (cs : List Char) : Option Nat :=
  match cs with
  | '0' :: 'x' :: ds => readDigits 16 ds
  | '0' :: 'X' :: ds => readDigits 16 ds
  | '0' :: 'o' :: ds => readDigits 8 ds
  | '0' :: 'O' :: ds => readDigits 8 ds
  | '0' :: 'b' :: ds => readDigits 2 ds
  | '0' :: 'B' :: ds => readDigits 2 ds
  | '0' :: _ => (readDecimal cs).filter (· == 0)
  | _ => readDecimal cs

/-- Reads a numeral with an optional sign. -/
def readSigned (cs : List Char) : Option Int :=
  match cs with
  | '-' :: ds => (readMarked ds).map fun n => -(n : Int)
  | '+' :: ds => (readMarked ds).map Int.ofNat
  | _ => (readMarked cs).map Int.ofNat

/-- The ASCII digit of the same value, for a digit of another script. -/
def asciiDigit (c : Char) : Char :=
  if c.toNat < 0x80 then c
  else match decimalValue? c with
    | some d => Char.ofNat ('0'.toNat + d)
    | none => c

/-- Reads an integer numeral. -/
def readInteger (cs : List Char) : Option Int :=
  readSigned ((dropEndWhile isMargin (cs.dropWhile isMargin)).map asciiDigit)

/-! ### Plain numerals -/

/-- Why a text is not read as a plain numeral. -/
inductive NumeralFault where
  | unreadable
  | tooLong
deriving DecidableEq, Repr, Inhabited

/-- Reads a strict numeral, whose sign takes `sign` characters. -/
def readStrictDigits (sign : Nat) (cs : List Char) : Except NumeralFault Nat :=
  let digits := cs.takeWhile Char.isDigit
  let value := if digits.length = cs.length then (readDigits 10 cs).elim (.error .unreadable) .ok else .error .unreadable
  if cs.head? = some '0' then (if cs = ['0'] then .ok 0 else .error .unreadable)
  else if decimalLimit < sign + digits.length then .error .tooLong
  else value

/-- Reads a strict numeral with an optional minus sign. -/
def readStrict (cs : List Char) : Except NumeralFault Int :=
  match cs with
  | '-' :: ds => (readStrictDigits 1 ds).map fun n => -(n : Int)
  | _ => (readStrictDigits 0 cs).map Int.ofNat

/-- Drops more zeros and underscores of a numeral behind the one that was read `last`.  The numeral goes on with another
digit, with a sign, or with a point, which keeps the character before it. -/
def afterZeros (last : Char) : List Char → Option (List Char)
  | [] => some [last]
  | c :: cs =>
    if c = '0' || c = '_' then afterZeros c cs
    else if c.isDigit || c = '-' then some (c :: cs)
    else if c = '.' then some (last :: c :: cs)
    else none

/-- Drops the zeros at the beginning of a numeral. -/
def dropZeros (cs : List Char) : Option (List Char) :=
  match cs with
  | '0' :: rest => afterZeros '0' rest
  | c :: _ => if c.isDigit || c = '-' then some cs else none
  | [] => none

/-- Removes a point with one zero or more behind it. -/
def dropZeroFraction (cs : List Char) : List Char :=
  match cs.dropWhile (· != '.') with
  | '.' :: '0' :: zeros => if zeros.all (· == '0') then cs.takeWhile (· != '.') else cs
  | _ => cs

/-- Whether two underscores stand side by side. -/
def hasDoubleUnderscore : List Char → Bool
  | '_' :: '_' :: _ => true
  | _ :: cs => hasDoubleUnderscore cs
  | [] => false

/-- Removes underscores, which must stand inside and alone. -/
def dropUnderscores (cs : List Char) : Option (List Char) :=
  if cs.head? = some '_' || cs.getLast? = some '_' || hasDoubleUnderscore cs then none
  else some (cs.filter (· != '_'))

/-- The strict form of a plain numeral without a sign in front. -/
def strictDigits (cs : List Char) : Option (List Char) :=
  (dropZeros cs).bind fun cs => dropUnderscores (dropZeroFraction cs)

/-- The strict form of a plain numeral. -/
def strictForm (cs : List Char) : Option (List Char) :=
  match dropEndWhile isMargin (cs.dropWhile isMargin) with
  | '+' :: '-' :: _ => none
  | '+' :: ds => strictDigits ds
  | '-' :: ds => (strictDigits ds).map ('-' :: ·)
  | ds => strictDigits ds

/-- Reads a plain numeral.  A text that starts with too many digits is too long, whatever comes behind them. -/
def readPlainInteger (cs : List Char) : Except NumeralFault Int :=
  match readStrict cs with
  | .ok n => .ok n
  | .error .tooLong => .error .tooLong
  | .error .unreadable =>
    match (strictForm cs).map readStrict with
    | some (.ok n) => .ok n
    | _ => .error .unreadable

end Rollcall.Text
