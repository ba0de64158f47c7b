import BulkWrite.Json.Basic
import BulkWrite.Text.Digits

/-!
The value of a number as written. Plain integers are exact while they fit 64
bits, signed below zero and unsigned above. Everything else is a floating-point
number: as many leading digits as fit 64 unsigned bits are scaled by a power of
ten, and a result beyond the largest finite number is refused. The integer `-0`
is the floating-point negative zero.
-/

namespace BulkWrite.Json

structure ExponentText where
  negative : Bool
  digits : List Char
deriving DecidableEq

/-- A number as written: its sign, digits before and behind the point, and its
exponent. -/
structure NumberText where
  negative : Bool
  whole : List Char
  part : List Char
  exponent : Option ExponentText
deriving DecidableEq

/-- Leading digits gathered into an unsigned word of 64 bits. The first digit
that does not fit closes the word. -/
structure Significand where
  value : Nat
  used : Nat
  closed : Bool

namespace Significand

def empty : Significand := ⟨0, 0, false⟩

def push (s : Significand) (digit : Char) : Significand :=
  let next := s.value * 10 + Text.digitValue digit
  if s.closed then s
  else if next < UInt64.size then ⟨next, s.used + 1, false⟩
  else ⟨s.value, s.used, true⟩

def pushAll (s : Significand) (digits : List Char) : Significand :=
  digits.foldl push s

end Significand

def maxExponent : Nat := 2147483647

namespace NumberText

def isInteger (text : NumberText) : Bool :=
  text.part.isEmpty && text.exponent.isNone

/-- The significand and the power of ten that belongs to it before the written
exponent is counted. The digits of the whole that do not fit each count as a
factor of ten. -/
def leading (text : NumberText) : Nat × Int :=
  let whole := Significand.empty.pushAll text.whole
  let part := (Significand.mk whole.value 0 false).pushAll text.part
  (part.value, (text.whole.length - whole.used : Nat) - (part.used : Int))

end NumberText

/-- A significand scaled by a power of ten, rounding at each step. Steps are of
at most `10 ^ 308`. -/
def scaleByTen (x : Float) (exponent : Int) : Option Float :=
  if exponent.natAbs ≤ 308 then
    let power := Float.ofScientific 1 false exponent.natAbs
    if 0 ≤ exponent then
      let scaled := x * power
      if scaled.isInf then none else some scaled
    else some (x / power)
  else if x == 0 then some x
  else if 0 ≤ exponent then none
  else scaleByTen (x / Float.ofScientific 1 false 308) (exponent + 308)
termination_by (-exponent).toNat
decreasing_by omega

namespace NumberText

/-- An exponent beyond 32 signed bits leaves zero alone, makes any other number
zero when it is negative, and is refused otherwise. -/
def size? (text : NumberText) : Option Float :=
  let (significand, scale) := text.leading
  let x := (UInt64.ofNat significand).toFloat
  match text.exponent with
  | none => scaleByTen x scale
  | some ⟨negative, digits⟩ =>
      let written := Text.decimalValue digits
      if maxExponent < written then
        if significand ≠ 0 ∧ !negative then none else some 0
      else scaleByTen x (if negative then scale - written else scale + written)

def value? (text : NumberText) : Option Number :=
  let n := Text.decimalValue text.whole
  if text.isInteger ∧ !text.negative ∧ n < UInt64.size then some (.integer n)
  else if text.isInteger ∧ text.negative ∧ 0 < n ∧
    Int64.minValue.toInt ≤ -(n : Int) then
    some (.integer (-(n : Int)))
  else
    text.size?.map fun x => .float (.ofFloat (if text.negative then -x else x))

end NumberText

end BulkWrite.Json
