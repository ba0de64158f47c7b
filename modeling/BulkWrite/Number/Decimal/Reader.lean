import BulkWrite.Number.Decimal

/-!
Decimals from text: an optional sign, and digits with at most one point among
them. From the first digit on underscores may stand anywhere and count for
nothing. Digits of a fraction are taken in as far as the coefficient and the
places allow. The character behind them decides how the number ends, by rounding
if it is a digit, and nothing that follows is looked at.
-/

namespace BulkWrite.Decimal

structure Magnitude where
  coefficient : Nat
  places : Nat

namespace Magnitude

def push (size : Magnitude) (digit : Char) (pointed : Bool) : Magnitude :=
  ⟨size.coefficient * 10 + Text.digitValue digit, size.places + pointed.toNat⟩

/-- The next size up. Where the largest coefficient would overflow, its last
place is rounded away. -/
def raise (size : Magnitude) : Magnitude :=
  if size.coefficient = maxCoefficient ∧ 0 < size.places then
    ⟨(size.coefficient + 5) / 10, size.places - 1⟩
  else ⟨size.coefficient + 1, size.places⟩

/-- Rounds by the first digit that is left out, a half away from zero. -/
def roundBy (size : Magnitude) (digit : Char) : Magnitude :=
  if Text.digitValue digit < 5 then size else size.raise

/-- Below this bound a coefficient and any further digit fit 64 bits, with some
room to spare. -/
def wordBound : Nat := (UInt64.size - 1) / 10 - 255

/-- Whether the coefficient had outgrown 64 bits before its last digit came. -/
def isWide (size : Magnitude) : Bool := wordBound ≤ size.coefficient / 10

def toDecimal? (size : Magnitude) (negative : Bool) : Option Decimal :=
  if fits : size.coefficient ≤ maxCoefficient ∧ size.places ≤ maxPlaces then
    some {
      coefficient :=
        if negative then -(size.coefficient : Int) else size.coefficient
      places := size.places
      coefficient_le := by cases negative <;> simpa using fits.1
      places_le := fits.2 }
  else none

end Magnitude

structure Reading where
  size : Magnitude
  started : Bool
  pointed : Bool

namespace Reading

def start : Reading := ⟨⟨0, 0⟩, false, false⟩

def isFull (reading : Reading) : Bool := maxPlaces ≤ reading.size.places

inductive Step where
  | more (next : Reading)
  | done (size : Magnitude)
  | refused

/-- Behind the last place a digit rounds and a point ends the number. An
underscore ends it too, unless the coefficient is wide: then it counts for
nothing here as well. -/
def stepFull (reading : Reading) (c : Char) : Step :=
  if Text.isDigit c then .done (reading.size.roundBy c)
  else if c = '.' then .done reading.size
  else if c = '_' then
    if reading.size.isWide then .more reading else .done reading.size
  else .refused

/-- A digit is taken in if the coefficient has room for it. In a fraction it
rounds otherwise. -/
def stepDigit (reading : Reading) (digit : Char) : Step :=
  let next := reading.size.push digit reading.pointed
  if next.coefficient ≤ maxCoefficient then .more ⟨next, true, reading.pointed⟩
  else if reading.pointed then .done (reading.size.roundBy digit)
  else .refused

def step (reading : Reading) (c : Char) : Step :=
  if reading.isFull then reading.stepFull c
  else if Text.isDigit c then reading.stepDigit c
  else if c = '.' ∧ !reading.pointed then .more { reading with pointed := true }
  else if c = '_' ∧ reading.started then .more reading
  else .refused

def run? (reading : Reading) : List Char → Option Magnitude
  | [] => if reading.started then some reading.size else none
  | c :: rest =>
      match reading.step c with
      | .more next => next.run? rest
      | .done size => some size
      | .refused => none

end Reading

def ofPlain? (s : List Char) : Option Decimal :=
  let negative := s.head? == some '-'
  let unsigned := if negative || s.head? == some '+' then s.drop 1 else s
  (Reading.start.run? unsigned).bind (·.toDecimal? negative)

end BulkWrite.Decimal
