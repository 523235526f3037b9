/-! Binary floating-point numbers of 64 bits, held as exact data so that
reading and writing them is arithmetic on natural numbers. Nothing here
uses the machine's own floating-point operations. -/
namespace RoutePaths

/-- A number of the 64-bit binary format. A finite one is
`mantissa * 2 ^ exponent` with the sign in front; zero has a sign as well. -/
inductive Binary64 where
  | finite (negative : Bool) (mantissa : Nat) (exponent : Int)
  | infinite (negative : Bool)
  | undefined
  deriving DecidableEq, Repr, Inhabited

namespace Binary64

/-- The least exponent. Numbers below the normal range all have it. -/
def minExponent : Int := -1074

/-- The greatest exponent of a finite number. -/
def maxExponent : Int := 971

/-- Normal numbers have this many bits. -/
def precision : Nat := 53

def zero (negative : Bool) : Binary64 :=
  finite negative 0 minExponent

/-- The integer nearest to a quotient; half-way between two, the even
one. -/
def roundQuotient (num den : Nat) : Nat :=
  let quotient := num / den
  let rest := 2 * (num % den)
  if rest > den || (rest == den && quotient % 2 == 1) then quotient + 1 else quotient

/-- The quotient `num / den`, with a power of two taken out of it, as a
quotient of natural numbers. -/
def shifted (num den : Nat) (exponent : Int) : Nat × Nat :=
  let power := Nat.pow 2 exponent.natAbs
  if exponent < 0 then (num * power, den) else (num, den * power)

/-- The exponent with which a positive quotient has `precision` bits, but
never less than the least one. The difference of the lengths is off by at
most one, and one comparison settles which. -/
def exponentOf (num den : Nat) : Int :=
  let guess : Int := (num.log2 : Int) - den.log2 - precision + 1
  let (scaledNum, scaledDen) := shifted num den guess
  let exact := if scaledNum < scaledDen * Nat.pow 2 (precision - 1) then guess - 1 else guess
  max exact minExponent

/-- The number nearest to the quotient of two natural numbers, the divisor
being positive. A result past the greatest finite number is infinite. -/
def ofQuotient (negative : Bool) (num den : Nat) : Binary64 :=
  if num = 0 then zero negative
  else
    let exponent := exponentOf num den
    let (scaledNum, scaledDen) := shifted num den exponent
    let mantissa := roundQuotient scaledNum scaledDen
    let (mantissa, exponent) :=
      if mantissa = Nat.pow 2 precision then (Nat.pow 2 (precision - 1), exponent + 1)
      else (mantissa, exponent)
    if exponent > maxExponent then infinite negative else finite negative mantissa exponent

/-- The number of decimal digits of a natural number; zero has one. -/
def digitCount (n : Nat) : Nat :=
  (Nat.toDigits 10 n).length

/-- The number nearest to `digits * 10 ^ exponent`. Exponents far outside
the range of finite numbers are settled by the number of digits alone, so
that no huge power is formed. -/
def ofDecimal (negative : Bool) (digits : Nat) (exponent : Int) : Binary64 :=
  if digits = 0 then zero negative
  else
    let magnitude : Int := exponent + digitCount digits
    if magnitude > 310 then infinite negative
    else if magnitude < -330 then zero negative
    else if exponent < 0 then ofQuotient negative digits (Nat.pow 10 exponent.natAbs)
    else ofQuotient negative (digits * Nat.pow 10 exponent.natAbs) 1

/-- The integer that the number is, if it is one. -/
def toInt? : Binary64 → Option Int
  | finite negative mantissa exponent =>
    let sign : Int := if negative then -1 else 1
    if exponent < 0 then
      if mantissa % Nat.pow 2 exponent.natAbs = 0 then
        some (sign * (mantissa / Nat.pow 2 exponent.natAbs : Nat))
      else none
    else some (sign * (mantissa * Nat.pow 2 exponent.natAbs : Nat))
  | _ => none

end Binary64

end RoutePaths
