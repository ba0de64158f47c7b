import BulkWrite.Identifier

/-!
Reading quoted names. The reader turns a doubled delimiter into one and stops at
the first that is not doubled, so a quoted name is read back from any text that
does not go on with the delimiter, and nothing but a quoted name is read.
-/

namespace BulkWrite.Quoter

/-- Reads behind the opening delimiter: the name, and the text behind the
closing one. -/
def readRest (delimiter : Char) : List Char → Option (List Char × List Char)
  | [] => none
  | [c] => if c = delimiter then some ([], []) else none
  | c :: next :: rest =>
      if c ≠ delimiter then
        (readRest delimiter (next :: rest)).map fun read =>
          (c :: read.1, read.2)
      else if next = delimiter then
        (readRest delimiter rest).map fun read => (c :: read.1, read.2)
      else some ([], next :: rest)

theorem readRest_other {delimiter c : Char} (different : c ≠ delimiter)
    (text : List Char) :
    readRest delimiter (c :: text) =
      (readRest delimiter text).map fun read => (c :: read.1, read.2) := by
  cases text with
  | nil => simp [readRest, different]
  | cons next rest => simp [readRest, different]

theorem readRest_doubled (delimiter : Char) (text : List Char) :
    readRest delimiter (delimiter :: delimiter :: text) =
      (readRest delimiter text).map fun read =>
        (delimiter :: read.1, read.2) := by
  simp [readRest]

theorem readRest_closing {delimiter : Char} {rest : List Char}
    (ends : rest.head? ≠ some delimiter) :
    readRest delimiter (delimiter :: rest) = some ([], rest) := by
  cases rest with
  | nil => simp [readRest]
  | cons next rest =>
      have different : next ≠ delimiter := by simpa using ends
      simp [readRest, different]

theorem readRest_doubled_append {delimiter : Char} (name : List Char)
    {rest : List Char} (ends : rest.head? ≠ some delimiter) :
    readRest delimiter (doubled delimiter name ++ delimiter :: rest) =
      some (name, rest) := by
  induction name with
  | nil => exact readRest_closing ends
  | cons c name ih =>
      by_cases same : c = delimiter
      · subst same
        rw [doubled_cons_self, List.cons_append, List.cons_append,
          readRest_doubled, ih]
        rfl
      · rw [doubled_cons_other name same, List.cons_append, readRest_other same,
          ih]
        rfl

def read? (quoter : Quoter) : List Char → Option (String × List Char)
  | [] => none
  | c :: text =>
      if c = quoter.delimiter then
        (readRest quoter.delimiter text).map fun read =>
          (String.ofList read.1, read.2)
      else none

/-- A quoted name is self-delimiting. -/
theorem read?_chars_append (quoter : Quoter) (name : String) {rest : List Char}
    (ends : rest.head? ≠ some quoter.delimiter) :
    quoter.read? (quoter.chars name ++ rest) = some (name, rest) := by
  have read := readRest_doubled_append name.toList ends
  simp [read?, chars, read]

variable {quoter : Quoter}

/-- Nothing is read but quoted names that end where the text does not go on with
the delimiter. -/
theorem readRest_eq_some {delimiter : Char} {text name rest : List Char}
    (read : readRest delimiter text = some (name, rest)) :
    text = doubled delimiter name ++ delimiter :: rest ∧
      rest.head? ≠ some delimiter := by
  induction text using readRest.induct delimiter generalizing name with
  | case1 => cases read
  | case2 =>
      rw [readRest, if_pos rfl] at read
      cases read
      exact ⟨rfl, nofun⟩
  | case3 c different =>
      rw [readRest, if_neg different] at read
      cases read
  | case4 c next text different ih =>
      rw [readRest_other different, Option.map_eq_some_iff] at read
      obtain ⟨⟨later, rest⟩, readLater, same⟩ := read
      cases same
      obtain ⟨joined, ends⟩ := ih readLater
      exact ⟨by rw [joined, doubled_cons_other later different]; rfl, ends⟩
  | case5 c text closing ih =>
      obtain rfl := Decidable.not_not.mp closing
      rw [readRest_doubled, Option.map_eq_some_iff] at read
      obtain ⟨⟨later, rest⟩, readLater, same⟩ := read
      cases same
      obtain ⟨joined, ends⟩ := ih readLater
      exact ⟨by rw [joined, doubled_cons_self]; rfl, ends⟩
  | case6 c next text closing single =>
      obtain rfl := Decidable.not_not.mp closing
      have ends : (next :: text).head? ≠ some c := by simpa using single
      rw [readRest_closing ends] at read
      cases read
      exact ⟨rfl, ends⟩

theorem read?_eq_some_iff {text rest : List Char} {name : String} :
    quoter.read? text = some (name, rest) ↔
      text = quoter.chars name ++ rest ∧
        rest.head? ≠ some quoter.delimiter := by
  constructor
  · intro read
    cases text with
    | nil => cases read
    | cons c text =>
        rw [read?] at read
        split at read
        next opens =>
          obtain ⟨⟨inner, after⟩, readInner, same⟩ :=
            Option.map_eq_some_iff.mp read
          cases same
          obtain ⟨joined, ends⟩ := readRest_eq_some readInner
          refine ⟨?_, ends⟩
          rw [opens, joined, chars, String.toList_ofList, List.cons_append,
            List.append_assoc]
          rfl
        next => cases read
  · intro quoted
    obtain ⟨rfl, ends⟩ := quoted
    exact quoter.read?_chars_append name ends

theorem quote_injective (quoter : Quoter) :
    Function.Injective quoter.quote := by
  intro name other same
  have reads (name : String) : quoter.read? (quoter.chars name ++ []) =
      some (name, []) :=
    quoter.read?_chars_append name nofun
  have read := reads name
  rw [← toList_quote, same, toList_quote, reads other, Option.some_inj] at read
  exact (congrArg Prod.fst read).symm

end BulkWrite.Quoter
