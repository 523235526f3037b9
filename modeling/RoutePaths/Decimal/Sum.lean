import RoutePaths.Decimal.Binary64

/-! Sums of binary numbers and natural numbers, rounded as one operation. -/
namespace RoutePaths.Binary64

/-- A finite number that is not negative, with a natural number added. Other
numbers are left as they are. -/
def addNat (number : Binary64) (n : Nat) : Binary64 :=
  match number with
  | finite false mantissa exponent =>
    if exponent < 0 then
      ofQuotient false (mantissa + n * Nat.pow 2 exponent.natAbs) (Nat.pow 2 exponent.natAbs)
    else ofQuotient false (mantissa * Nat.pow 2 exponent.natAbs + n) 1
  | number => number

/-- The number with its sign changed. -/
def negate : Binary64 → Binary64
  | finite negative mantissa exponent => finite (!negative) mantissa exponent
  | infinite negative => infinite (!negative)
  | undefined => undefined

end RoutePaths.Binary64
