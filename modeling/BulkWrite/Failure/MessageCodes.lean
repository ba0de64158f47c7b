import BulkWrite.Text.Digits
import BulkWrite.Text.Word

/-!
Codes in the text of a message. A code is a whole word of decimal digits whose
number fits 64 signed bits; digits inside a longer word are no code.
-/

namespace BulkWrite

namespace Text

private def keepWord (word : List Char) (words : List (List Char)) :
    List (List Char) :=
  if word.isEmpty then words else word :: words

/-- The word at the very front of a text, which may be empty, and the words
behind it. -/
def cutWords : List Char → List Char × List (List Char)
  | [] => ([], [])
  | c :: rest =>
      let (word, words) := cutWords rest
      if isWord c then (c :: word, words) else ([], keepWord word words)

/-- The longest runs of word characters, in order. -/
def words (s : List Char) : List (List Char) :=
  keepWord (cutWords s).1 (cutWords s).2

@[simp] theorem words_nil : words [] = [] := rfl

private theorem keepWord_append (word : List Char)
    (first second : List (List Char)) :
    keepWord word (first ++ second) = keepWord word first ++ second := by
  cases word <;> rfl

theorem cutWords_append_break {c : Char} (isBreak : isWord c = false)
    (first second : List Char) :
    cutWords (first ++ c :: second) =
      ((cutWords first).1, (cutWords first).2 ++ words second) := by
  induction first with
  | nil => simp [cutWords, isBreak, words]
  | cons d first ih =>
      cases inside : isWord d with
      | true => simp [cutWords, ih, inside]
      | false => simp [cutWords, ih, inside, keepWord_append]

/-- A character outside words keeps the words before it and behind it apart. -/
theorem words_append_break {c : Char} (isBreak : isWord c = false)
    (first second : List Char) :
    words (first ++ c :: second) = words first ++ words second := by
  rw [words, cutWords_append_break isBreak, keepWord_append, ← words]

theorem cutWords_of_all {s : List Char} (inside : s.all isWord = true) :
    cutWords s = (s, []) := by
  induction s with
  | nil => rfl
  | cons c s ih =>
      rw [List.all_cons, Bool.and_eq_true] at inside
      simp [cutWords, ih inside.2, inside.1]

theorem words_of_all {s : List Char} (nonempty : s ≠ [])
    (inside : s.all isWord = true) :
    words s = [s] := by
  rw [words, cutWords_of_all inside]
  cases s with
  | nil => exact absurd rfl nonempty
  | cons c s => rfl

end Text

def maxCode : Nat := 9223372036854775807

/-- The code that a word writes. Leading zeros are allowed. -/
def wordCode? (word : List Char) : Option Int64 :=
  if word.all Text.isDigit ∧ Text.decimalValue word ≤ maxCode then
    some (Int64.ofNat (Text.decimalValue word))
  else none

def messageCodes (message : String) : List Int64 :=
  (Text.words message.toList).filterMap wordCode?

end BulkWrite
