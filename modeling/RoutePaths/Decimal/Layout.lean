import RoutePaths.Decimal.Shortest

/-! The text of a binary number. Its shortest decimal is written
positionally when the point falls near the digits and in scientific form
otherwise; a layout fixes where the border lies. -/
namespace RoutePaths.Binary64

/-- The places of the decimal point, counted from the first digit, for which
the text is positional, and the least number of digits of an exponent. -/
structure Layout where
  firstPlace : Int
  lastPlace : Int
  exponentDigits : Nat

/-- Ten thousandth to ten quadrillion are written positionally, and an
exponent has at least two digits. -/
def Layout.standard : Layout :=
  ⟨-3, 16, 2⟩

/-- Digits with the point after the given number of them. There is always
a digit on both sides. -/
def positional (digits : List Char) (place : Int) : List Char :=
  if place ≤ 0 then
    '0' :: '.' :: List.replicate place.natAbs '0' ++ digits
  else if digits.length ≤ place.toNat then
    digits ++ List.replicate (place.toNat - digits.length) '0' ++ ['.', '0']
  else
    digits.take place.toNat ++ '.' :: digits.drop place.toNat

/-- Digits with the point after the first and the power of ten written
out. A single digit has no point. -/
def scientific (exponentDigits : Nat) (digits : List Char) (place : Int) : List Char :=
  let power := place - 1
  let powerDigits := Nat.toDigits 10 power.natAbs
  let padding := List.replicate (exponentDigits - powerDigits.length) '0'
  let point := if digits.length ≤ 1 then digits else digits.take 1 ++ '.' :: digits.drop 1
  point ++ 'e' :: (if power < 0 then '-' else '+') :: padding ++ powerDigits

/-- The text of a positive number. -/
def Layout.positiveText (layout : Layout) (mantissa : Nat) (exponent : Int) : List Char :=
  let decimal := shortest mantissa exponent
  let digits := Nat.toDigits 10 decimal.digits
  let place := decimal.exponent + digits.length
  if layout.firstPlace ≤ place && place ≤ layout.lastPlace then positional digits place
  else scientific layout.exponentDigits digits place

/-- The text of a finite number, with the sign of a negative one. Zero keeps
its sign. -/
def Layout.finiteText (layout : Layout) (negative : Bool) (mantissa : Nat) (exponent : Int) :
    String :=
  let text := if mantissa = 0 then ['0', '.', '0'] else layout.positiveText mantissa exponent
  String.ofList (if negative then '-' :: text else text)

end RoutePaths.Binary64
