import BulkWrite.Number.Binary64

/-!
The fewest decimal digits that identify a finite number. The reals that round to
a number form an interval around it; of the decimals in that interval one with
the fewest digits is chosen, and of those the nearest to the number. All
comparisons are made in exact arithmetic.
-/

namespace BulkWrite

/-- The decimal `digits * 10 ^ exponent`. -/
structure Numeral where
  digits : Nat
  exponent : Int
deriving DecidableEq

namespace Numeral

/-- Compares a decimal with `n * 2 ^ scale`. -/
def compareBinary (numeral : Numeral) (n : Nat) (scale : Int) : Ordering :=
  compare
    ((numeral.digits * Nat.pow 10 numeral.exponent.toNat) <<< (-scale).toNat)
    ((n * Nat.pow 10 (-numeral.exponent).toNat) <<< scale.toNat)

def leadingExponent (numeral : Numeral) : Int :=
  ((Nat.toDigits 10 numeral.digits).length : Int) - 1 + numeral.exponent

/-- Moves trailing zeros from the digits to the exponent. -/
def strip (numeral : Numeral) : Numeral :=
  if numeral.digits = 0 then numeral
  else if numeral.digits % 10 = 0 then
    strip ⟨numeral.digits / 10, numeral.exponent + 1⟩
  else numeral
termination_by numeral.digits
decreasing_by omega

end Numeral

namespace Binary64

/-- Whether a decimal rounds to this number: it lies between the midpoints to
the two neighbours, where the midpoints themselves belong to the number with the
even significand. -/
def admits (x : Binary64) (numeral : Numeral) : Bool :=
  let lower :=
    if x.isNarrowBelow then 4 * x.significand - 1 else 4 * x.significand - 2
  let upper := 4 * x.significand + 2
  let closed := x.significand % 2 == 0
  let low := numeral.compareBinary lower (x.scale - 2)
  let high := numeral.compareBinary upper (x.scale - 2)
  (low == .gt || (closed && low == .eq)) &&
    (high == .lt || (closed && high == .eq))

def numerator (x : Binary64) : Nat := x.significand <<< x.scale.toNat

def denominator (x : Binary64) : Nat := 1 <<< (-x.scale).toNat

/-- The least power of ten above a number that is not zero, as an exponent. -/
def decimalCeiling (x : Binary64) : Int :=
  if x.denominator ≤ x.numerator then
    ((Nat.toDigits 10 (x.numerator / x.denominator)).length : Int)
  else
    1 - ((Nat.toDigits 10 (x.denominator / x.numerator)).length : Int)

/-- The admitted decimal nearest to the number among the multiples of `10 ^
grid`. Of two equally near ones the even one is taken. -/
def nearestOnGrid? (x : Binary64) (grid : Int) : Option Numeral :=
  let above := x.numerator * Nat.pow 10 (-grid).toNat
  let unit := x.denominator * Nat.pow 10 grid.toNat
  let floor := above / unit
  let below : Numeral := ⟨floor, grid⟩
  let next : Numeral := ⟨floor + 1, grid⟩
  match x.admits below, x.admits next with
  | true, true =>
      match compare (2 * (above % unit)) unit with
      | .lt => some below
      | .gt => some next
      | .eq => some (if floor % 2 = 0 then below else next)
  | true, false => some below
  | false, true => some next
  | false, false => none

def exactNumeral (x : Binary64) : Numeral :=
  ⟨x.numerator * Nat.pow 5 (-x.scale).toNat, -((-x.scale).toNat : Int)⟩

/-- The shortest decimal that rounds to a finite number's size. Grids are tried
from coarse to fine, and seventeen digits always tell two numbers apart. -/
def shortest (x : Binary64) : Numeral :=
  if x.significand = 0 then ⟨0, 0⟩
  else
    let ceiling := x.decimalCeiling
    let found := (List.range 17).findSome? fun (n : Nat) =>
      x.nearestOnGrid? (ceiling - 1 - (n : Int))
    (found.getD x.exactNumeral).strip

end Binary64

end BulkWrite
