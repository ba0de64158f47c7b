import BulkWrite.Number.Decimal.Reader

/-!
Decimals in scientific notation: the letter `e` and an exponent behind a plain
decimal move its point. To the right the value must be held exactly, to the left
it is rounded at the last place. A text that is no scientific decimal may be a
plain one.
-/

namespace BulkWrite.Decimal

/-- Digits that no coefficient reaches, so that dropping or adding as many is as
good as more. -/
def beyondDigits : Nat := 30

/-- Moves the point to the right. Where it goes past the last place, zeros fill
up the whole. -/
def shiftRight? (a : Decimal) (n : Nat) : Option Decimal :=
  let coefficient :=
    a.coefficient * Int.pow 10 (min (n - a.places) beyondDigits)
  if small : coefficient.natAbs ≤ maxCoefficient then
    some ⟨coefficient, a.places - n, small,
      Nat.le_trans (Nat.sub_le _ _) a.places_le⟩
  else none

/-- A number without its last digits. The first of those rounds, a half
upwards. -/
def dropDigits (n : Nat) : Nat → Nat
  | 0 => n
  | k + 1 => (n / Nat.pow 10 k + 5) / 10

theorem dropDigits_le (n k : Nat) : dropDigits n k ≤ n := by
  cases k with
  | zero => exact Nat.le_refl n
  | succ k =>
      have := Nat.div_le_self n (Nat.pow 10 k)
      simp only [dropDigits]
      omega

/-- Moves the point to the left, which takes further places. Digits behind the
last one are dropped. -/
def shiftLeft (a : Decimal) (n : Nat) : Decimal :=
  let size := dropDigits a.coefficient.natAbs
    (min (a.places + n - maxPlaces) beyondDigits)
  { coefficient := if a.coefficient < 0 then -(size : Int) else size
    places := min (a.places + n) maxPlaces
    coefficient_le := by
      have small : size ≤ maxCoefficient :=
        Nat.le_trans (dropDigits_le _ _) a.coefficient_le
      split <;> simpa using small
    places_le := Nat.min_le_right _ _ }

/-- Reads digits behind at most one plus sign. -/
def exponent? (s : List Char) : Option Nat :=
  let digits := if s.head? = some '+' then s.drop 1 else s
  if !digits.isEmpty && digits.all Text.isDigit then
    some (Text.decimalValue digits)
  else none

/-- Reads a plain decimal, the letter `e` in either case and an exponent. -/
def ofScientific? (s : List Char) : Option Decimal := do
  let isPlain (c : Char) : Bool := !(c == 'e' || c == 'E')
  let base ← ofPlain? (s.takeWhile isPlain)
  match s.dropWhile isPlain with
  | [] => none
  | _ :: '-' :: digits => base.shiftLeft <$> exponent? digits
  | _ :: digits => (exponent? digits).bind base.shiftRight?

def ofChars? (s : List Char) : Option Decimal :=
  (ofScientific? s).or (ofPlain? s)

def ofText? (s : String) : Option Decimal := ofChars? s.toList

end BulkWrite.Decimal
