import BulkWrite.Text.Digits

/-!
Decimals with a fixed number of places: `coefficient / 10 ^ places`, where the
coefficient has at most 96 bits and there are at most 28 places. The places are
part of a decimal's text and not of its value. Zero has no sign.
-/

namespace BulkWrite

def Decimal.maxCoefficient : Nat := 1 <<< 96 - 1

def Decimal.maxPlaces : Nat := 28

structure Decimal where
  coefficient : Int
  places : Nat
  coefficient_le : coefficient.natAbs ≤ Decimal.maxCoefficient
  places_le : places ≤ Decimal.maxPlaces
deriving DecidableEq

namespace Decimal

instance : Inhabited Decimal := ⟨⟨0, 0, Nat.zero_le _, Nat.zero_le _⟩⟩

/-- Equality of values: the places do not matter. -/
def equals (a b : Decimal) : Bool :=
  a.coefficient * Int.pow 10 b.places == b.coefficient * Int.pow 10 a.places

def chars (a : Decimal) : List Char :=
  let digits := Text.padded (a.places + 1) a.coefficient.natAbs
  let whole := digits.take (digits.length - a.places)
  let part := digits.drop (digits.length - a.places)
  (if a.coefficient < 0 then ['-'] else []) ++ whole ++
    (if part.isEmpty then [] else '.' :: part)

def text (a : Decimal) : String := String.ofList a.chars

end Decimal

end BulkWrite
