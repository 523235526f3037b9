import RoutePaths.Decimal.Binary64

/-! The shortest decimal that reads back. Of all decimals that round to a
given binary number, those with the fewest digits are taken, and of these
the nearest to the number; half-way between two, the one with the even last
digit. The search goes from coarse decimal grids to fine ones, and on each
grid only the two neighbours of the number can be hits, because a grid
point in the interval around the number has such a neighbour between it and
the number. -/
namespace RoutePaths.Binary64

/-- A decimal `digits * 10 ^ exponent`. -/
structure Decimal where
  digits : Nat
  exponent : Int
  deriving DecidableEq, Repr

/-- The reals that round to a positive binary number: with `unit` a power of
two as a quotient, those from `low * unit` to `high * unit`, the number
itself being `middle * unit`. The ends belong to it for an even mantissa
only. -/
structure Interval where
  low : Nat
  middle : Nat
  high : Nat
  unitNum : Nat
  unitDen : Nat
  closed : Bool

/-- The neighbour below is only half as far away when the mantissa is the
least normal one. -/
def interval (mantissa : Nat) (exponent : Int) : Interval :=
  let nearBelow := mantissa = Nat.pow 2 (precision - 1) && exponent > minExponent
  let unit := shifted 1 1 (2 - exponent)
  { low := if nearBelow then 4 * mantissa - 1 else 4 * mantissa - 2
    middle := 4 * mantissa
    high := 4 * mantissa + 2
    unitNum := unit.1
    unitDen := unit.2
    closed := mantissa % 2 = 0 }

/-- A real of the interval, given as a quotient. -/
def Interval.contains (i : Interval) (num den : Nat) : Bool :=
  let value := num * i.unitDen
  let low := i.low * i.unitNum * den
  let high := i.high * i.unitNum * den
  if i.closed then low ≤ value && value ≤ high else low < value && value < high

/-- The hit on the grid of multiples of `10 ^ exponent`, if there is one. -/
def Interval.onGrid? (i : Interval) (exponent : Int) : Option Nat :=
  let (gridNum, gridDen) :=
    let power := Nat.pow 10 exponent.natAbs
    if exponent < 0 then (1, power) else (power, 1)
  let num := i.middle * i.unitNum * gridDen
  let den := i.unitDen * gridNum
  let below := num / den
  let hit (digits : Nat) : Bool := digits != 0 && i.contains (digits * gridNum) gridDen
  match hit below, hit (below + 1) with
  | true, true =>
    let rest := 2 * (num % den)
    if rest < den || (rest == den && below % 2 == 0) then some below else some (below + 1)
  | true, false => some below
  | false, true => some (below + 1)
  | false, false => none

/-- The first grid with a hit, from the given one to ever finer ones. -/
def Interval.search (i : Interval) : Nat → Int → Decimal
  | 0, exponent => ⟨i.middle, exponent⟩
  | grids + 1, exponent =>
    match i.onGrid? exponent with
    | some digits => ⟨digits, exponent⟩
    | none => i.search grids (exponent - 1)

/-- The decimal without zeros at its end. -/
def Decimal.trim (d : Decimal) : Decimal :=
  let kept := (Nat.toDigits 10 d.digits).reverse.dropWhile (· == '0')
  let dropped := (Nat.toDigits 10 d.digits).length - kept.length
  ⟨d.digits / Nat.pow 10 dropped, d.exponent + dropped⟩

/-- The shortest decimal of the positive number `mantissa * 2 ^ exponent`.
The search starts above the first digit of the number; eighteen digits
always suffice. -/
def shortest (mantissa : Nat) (exponent : Int) : Decimal :=
  let i := interval mantissa exponent
  let top : Int := ((mantissa.log2 : Int) + exponent + 1) * 30103 / 100000 + 1
  (i.search 24 top).trim

end RoutePaths.Binary64
