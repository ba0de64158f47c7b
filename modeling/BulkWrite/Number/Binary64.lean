/-!
Floating-point numbers of 64 bits, held as their bits so that every NaN stays
itself. Comparison, widening from 32 bits and the exact value of a number are
read off the three fields.
-/

namespace BulkWrite

structure Binary64 where
  bits : UInt64
deriving DecidableEq, Inhabited

namespace Binary64

def ofFloat (x : Float) : Binary64 := ⟨x.toBits⟩

def isNegative (x : Binary64) : Bool := 1 <<< 63 ≤ x.bits.toNat

/-- The eleven bits between sign and fraction. -/
def exponentField (x : Binary64) : Nat := x.bits.toNat / 1 <<< 52 % 1 <<< 11

def fraction (x : Binary64) : Nat := x.bits.toNat % 1 <<< 52

def isFinite (x : Binary64) : Bool := x.exponentField < 2047

def isNaN (x : Binary64) : Bool := x.exponentField == 2047 && x.fraction != 0

def isZero (x : Binary64) : Bool := x.exponentField == 0 && x.fraction == 0

/-- Equality of numbers: a NaN equals nothing, and the two zeros are equal. -/
def equals (x y : Binary64) : Bool :=
  !x.isNaN && !y.isNaN && (x.bits == y.bits || (x.isZero && y.isZero))

def ofFields (negative : Bool) (exponent fraction : Nat) : Binary64 :=
  ⟨UInt64.ofNat
    ((if negative then 1 <<< 63 else 0) + exponent <<< 52 + fraction)⟩

/-- The number with the bits of a 32-bit one. Widening is exact; a NaN keeps its
payload and becomes quiet. -/
def ofBinary32 (word : UInt32) : Binary64 :=
  let negative := decide (1 <<< 31 ≤ word.toNat)
  let exponent := word.toNat / 1 <<< 23 % 1 <<< 8
  let fraction := word.toNat % 1 <<< 23
  if exponent = 255 then
    let payload :=
      if fraction = 0 then 0 else 1 <<< 51 + fraction <<< 29 % 1 <<< 51
    ofFields negative 2047 payload
  else if exponent = 0 then
    if fraction = 0 then ofFields negative 0 0
    else
      let top := Nat.log2 fraction
      ofFields negative (top + 874) ((fraction - 1 <<< top) <<< (52 - top))
  else ofFields negative (exponent + 896) (fraction <<< 29)

/-! The size of a finite number is `significand * 2 ^ scale`. -/

def significand (x : Binary64) : Nat :=
  if x.exponentField = 0 then x.fraction else 1 <<< 52 + x.fraction

def scale (x : Binary64) : Int :=
  if x.exponentField = 0 then -1074 else (x.exponentField : Int) - 1075

/-- Just above a power of two the next smaller number is only half a step
away. -/
def isNarrowBelow (x : Binary64) : Bool :=
  x.fraction == 0 && x.exponentField > 1

end Binary64

end BulkWrite
