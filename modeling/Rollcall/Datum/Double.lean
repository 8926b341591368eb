/-!
# Double precision

Numbers that are written with a fraction or an exponent are kept in double precision: 53 binary digits and a bounded
exponent.  The nearest double is taken, and of two nearest ones that with an even significand.
-/

namespace Rollcall

/-- A number in double precision: a significand times a power of two, or infinity. -/
inductive Double where
  | finite (isNegative : Bool) (significand : Nat) (exponent : Int)
  | infinite (isNegative : Bool)
deriving DecidableEq, Repr, Inhabited

namespace Double

/-- A quotient rounded to the nearest number, to the even one in the middle. -/
def roundDiv (numerator denominator : Nat) : Nat :=
  let quotient := numerator / denominator
  let rest := numerator % denominator
  if denominator < 2 * rest || (denominator = 2 * rest && quotient % 2 = 1) then quotient + 1 else quotient

/-- The numerator and the denominator of a quotient that is divided by a power of two. -/
def scaled (numerator denominator : Nat) (exponent : Int) : Nat × Nat :=
  (numerator * Nat.pow 2 (-exponent).toNat, denominator * Nat.pow 2 exponent.toNat)

/-- The smallest exponent of a double. -/
def minExponent : Int := -1074

/-- The exponent at which a quotient has 53 binary digits before the point, or the smallest exponent. -/
def exponentOf (numerator denominator : Nat) : Int :=
  let guess := (Nat.log2 numerator : Int) - Nat.log2 denominator - 52
  let (n, d) := scaled numerator denominator guess
  max (if n / d < Nat.pow 2 52 then guess - 1 else guess) minExponent

/-- The double nearest to a quotient. -/
def ofQuotient (isNegative : Bool) (numerator denominator : Nat) : Double :=
  let exponent := exponentOf numerator denominator
  let (n, d) := scaled numerator denominator exponent
  let significand := roundDiv n d
  if Nat.pow 2 1024 ≤ significand * Nat.pow 2 exponent.toNat then .infinite isNegative
  else .finite isNegative significand exponent

/-- The double nearest to `mantissa` times a power of ten.  Numbers far out of range are not worked out. -/
def ofDecimal (isNegative : Bool) (mantissa : Nat) (exponent : Int) : Double :=
  let size := (Nat.log2 mantissa : Int) * 3 / 10 + exponent
  if mantissa = 0 || size < -400 then .finite isNegative 0 0
  else if 400 < size then .infinite isNegative
  else ofQuotient isNegative (mantissa * Nat.pow 10 exponent.toNat) (Nat.pow 10 (-exponent).toNat)

/-- The integer that a double is, if it is one. -/
def toInt? : Double → Option Int
  | .infinite _ => none
  | .finite isNegative significand exponent =>
    let unit := Nat.pow 2 (-exponent).toNat
    if significand % unit = 0 then
      let n : Int := (significand / unit * Nat.pow 2 exponent.toNat : Nat)
      some (if isNegative then -n else n)
    else none

end Double

end Rollcall
