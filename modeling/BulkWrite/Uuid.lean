import BulkWrite.Text.Digits

/-!
Universally unique identifiers: 128 bits, written as 32 lower-case hexadecimal
digits in five groups. Letters are read in either case, and the groups also in
braces or behind `urn:uuid:`, or as one row of digits.
-/

namespace BulkWrite

structure Uuid where
  bits : BitVec 128
deriving DecidableEq, Inhabited

namespace Uuid

/-- The digits in groups of 8, 4, 4, 4 and 12. -/
def chars (id : Uuid) : List Char :=
  let digits := Text.hexPadded 32 id.bits.toNat
  digits.take 8 ++ '-' :: (digits.drop 8).take 4 ++ '-' ::
    (digits.drop 12).take 4 ++
    '-' :: (digits.drop 16).take 4 ++ '-' :: digits.drop 20

def text (id : Uuid) : String := String.ofList id.chars

def groupedDigits? (s : List Char) : Option (List Char) :=
  let digits := s.filter (· != '-')
  if s.length = 36 ∧ digits.length = 32 ∧
    [8, 13, 18, 23].all (fun i => s[i]? == some '-') then
    some digits
  else none

/-- The groups without what may stand around them. -/
def unwrapped (s : List Char) : List Char :=
  if "urn:uuid:".toList.isPrefixOf s then s.drop 9
  else if s.head? = some '\x7b' ∧ s.getLast? = some '\x7d' then s.tail.dropLast
  else s

def ofText? (s : String) : Option Uuid := do
  let cs := s.toList
  let digits ← if cs.length = 32 then some cs else groupedDigits? (unwrapped cs)
  (Text.hexNumber? digits).map fun n => ⟨BitVec.ofNat 128 n⟩

end Uuid

end BulkWrite
