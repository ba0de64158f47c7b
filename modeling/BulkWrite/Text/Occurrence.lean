/-!
Occurrence of one text in another.
-/

namespace BulkWrite.Text

/-- Whether a phrase stands somewhere in a text. -/
def occurs (phrase : List Char) : List Char → Bool
  | [] => phrase.isEmpty
  | c :: s => phrase.isPrefixOf (c :: s) || occurs phrase s

theorem occurs_iff {phrase s : List Char} :
    occurs phrase s = true ↔ phrase <:+: s := by
  induction s with
  | nil => simp [occurs]
  | cons c s ih => simp [occurs, ih, List.infix_cons_iff]

end BulkWrite.Text
