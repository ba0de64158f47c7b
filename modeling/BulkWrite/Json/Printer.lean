import BulkWrite.Json.Basic
import BulkWrite.Number.Shortest
import BulkWrite.Text.Digits

/-!
Compact JSON text: no blanks, and a floating-point number in the fewest digits
that identify it.
-/

namespace BulkWrite.Json

/-! In strings a quote, a backslash and the control characters below a space are
escaped; all other characters stand for themselves. -/

/-- The letter that stands for a character behind a backslash. -/
def escapeLetter? (c : Char) : Option Char :=
  if c = '"' then some '"'
  else if c = '\\' then some '\\'
  else if c = '\x08' then some 'b'
  else if c = '\x0c' then some 'f'
  else if c = '\n' then some 'n'
  else if c = '\r' then some 'r'
  else if c = '\t' then some 't'
  else none

def escapedChar (c : Char) : List Char :=
  match escapeLetter? c with
  | some letter => ['\\', letter]
  | none =>
      if c.toNat < 32 then '\\' :: 'u' :: Text.hexPadded 4 c.toNat
      else [c]

def stringChars (s : String) : List Char :=
  '"' :: s.toList.flatMap escapedChar ++ ['"']

/-! A number whose leading digit is one from the fifth decimal place up to the
sixteenth place before the point is written positionally, always with a decimal.
Any other number has a signed exponent. -/

def intChars (n : Int) : List Char :=
  (if n < 0 then ['-'] else []) ++ Nat.toDigits 10 n.natAbs

def scientificChars (digits : List Char) (exponent : Int) : List Char :=
  digits.take 1 ++ (if digits.length = 1 then [] else '.' :: digits.drop 1) ++
    'e' :: (if exponent < 0 then '-' else '+') ::
      Nat.toDigits 10 exponent.natAbs

/-- Digits with the point behind the first `point` of them. -/
def positionalChars (digits : List Char) (point : Int) : List Char :=
  if point ≤ 0 then '0' :: '.' :: List.replicate (-point).toNat '0' ++ digits
  else if (digits.length : Int) ≤ point then
    digits ++ List.replicate (point.toNat - digits.length) '0' ++ ['.', '0']
  else digits.take point.toNat ++ '.' :: digits.drop point.toNat

def sizeChars (size : Numeral) : List Char :=
  let digits := Nat.toDigits 10 size.digits
  let leading := size.leadingExponent
  if size.digits = 0 then ['0', '.', '0']
  else if -5 ≤ leading ∧ leading ≤ 15 then positionalChars digits (leading + 1)
  else scientificChars digits leading

/-- A number that is not finite has no JSON text of its own and is written as
null. -/
def floatChars (x : Binary64) : List Char :=
  if x.isFinite then
    (if x.isNegative then ['-'] else []) ++ sizeChars x.shortest
  else ['n', 'u', 'l', 'l']

def Number.chars : Number → List Char
  | .integer n => intChars n
  | .float x => floatChars x

def commaSeparated : List (List Char) → List Char
  | [] => []
  | [element] => element
  | element :: rest => element ++ ',' :: commaSeparated rest

mutual

def chars : Json → List Char
  | .null => ['n', 'u', 'l', 'l']
  | .bool true => ['t', 'r', 'u', 'e']
  | .bool false => ['f', 'a', 'l', 's', 'e']
  | .number n => n.chars
  | .string s => stringChars s
  | .array items => '[' :: commaSeparated (itemChars items) ++ [']']
  | .object members =>
      '\x7b' :: commaSeparated (memberChars members) ++ ['\x7d']

def itemChars : List Json → List (List Char)
  | [] => []
  | item :: rest => chars item :: itemChars rest

def memberChars : List (String × Json) → List (List Char)
  | [] => []
  | (name, value) :: rest =>
      (stringChars name ++ ':' :: chars value) :: memberChars rest

end

def text (json : Json) : String := String.ofList json.chars

end BulkWrite.Json
