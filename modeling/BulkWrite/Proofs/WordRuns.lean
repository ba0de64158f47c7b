import BulkWrite.Failure.MessageCodes
import BulkWrite.Text.Numeral

/-!
Runs of word characters. A text falls into its longest runs and the characters
between them in one way only. A search for digits between two word boundaries
finds the runs that consist of digits, and no part of any other.
-/

namespace BulkWrite.Text

/-- No word goes on in the text. -/
def EndsWord (after : List Char) : Prop := ∀ c ∈ after.head?, isWord c = false

/-- The longest runs of word characters in a text, in order. -/
inductive Runs : List Char → List (List Char) → Prop
  | nil : Runs [] []
  | gap {c : Char} {s : List Char} {runs : List (List Char)}
      (isBreak : isWord c = false) (rest : Runs s runs) : Runs (c :: s) runs
  | run {word after : List Char} {runs : List (List Char)}
      (nonempty : word ≠ []) (inside : word.all isWord = true)
      (ends : EndsWord after) (rest : Runs after runs) :
        Runs (word ++ after) (word :: runs)

theorem endsWord_nil : EndsWord [] := by
  intro c first
  cases first

theorem endsWord_cons_iff {c : Char} {s : List Char} :
    EndsWord (c :: s) ↔ isWord c = false := by
  simp [EndsWord]

theorem exists_runs (s : List Char) : ∃ runs, Runs s runs := by
  induction s with
  | nil => exact ⟨[], .nil⟩
  | cons c s ih =>
      obtain ⟨runs, split⟩ := ih
      cases inside : isWord c with
      | false => exact ⟨runs, .gap inside split⟩
      | true =>
          have alone : [c].all isWord = true := by simp [inside]
          -- the character joins a run that begins behind it, and is one by
          -- itself elsewhere
          cases split with
          | nil =>
              exact ⟨_, .run (List.cons_ne_nil c []) alone endsWord_nil .nil⟩
          | gap isBreak rest =>
              exact ⟨_, .run (List.cons_ne_nil c []) alone
                (endsWord_cons_iff.mpr isBreak) (.gap isBreak rest)⟩
          | @run word after runs nonempty wordInside ends rest =>
              have longer : (c :: word).all isWord = true := by
                rw [List.all_cons, inside, wordInside, Bool.and_self]
              exact ⟨_, .run (List.cons_ne_nil c word) longer ends rest⟩

theorem Runs.words_eq {s : List Char} {runs : List (List Char)}
    (split : Runs s runs) :
    words s = runs := by
  induction split with
  | nil => exact words_nil
  | @gap c s runs isBreak rest ih =>
      have apart := words_append_break isBreak [] s
      rwa [words_nil, List.nil_append, List.nil_append, ih] at apart
  | @run word after runs nonempty inside ends rest ih =>
      cases after with
      | nil =>
          rw [words_nil] at ih
          rw [List.append_nil, words_of_all nonempty inside, ih]
      | cons c after =>
          have isBreak := endsWord_cons_iff.mp ends
          have apart := words_append_break isBreak [] after
          rw [List.nil_append, ih, words_nil, List.nil_append] at apart
          rw [words_append_break isBreak, words_of_all nonempty inside, apart]
          rfl

theorem runs_iff {s : List Char} {runs : List (List Char)} :
    Runs s runs ↔ words s = runs := by
  constructor
  · exact Runs.words_eq
  · intro same
    obtain ⟨others, split⟩ := exists_runs s
    rwa [← same, split.words_eq]

/-- Whether a word begins or ends between a character and the text behind it. -/
def atBoundary (previous : Option Char) (rest : List Char) : Bool :=
  previous.any isWord != rest.head?.any isWord

/-- As many digits as have a boundary behind them, and the text behind it. -/
def takeNumber? : List Char → Option (List Char × List Char)
  | [] => none
  | c :: rest =>
      if isNumeral c then
        match takeNumber? rest with
        | some (digits, after) => some (c :: digits, after)
        | none => if atBoundary (some c) rest then some ([c], rest) else none
      else none

theorem takeNumber?_eq_some {s digits after : List Char}
    (taken : takeNumber? s = some (digits, after)) :
    digits ≠ [] ∧ s = digits ++ after := by
  induction s generalizing digits with
  | nil => cases taken
  | cons c rest ih =>
      rw [takeNumber?] at taken
      split at taken
      · split at taken
        · next more behind further =>
            cases taken
            exact ⟨List.cons_ne_nil c more, congrArg (List.cons c)
              (ih further).2⟩
        · split at taken
          · cases taken
            exact ⟨List.cons_ne_nil c [], rfl⟩
          · cases taken
      · cases taken

/-- The numbers that stand between two boundaries, for a text that follows the
character. The search goes on behind each number found. -/
def findNumbers (previous : Option Char) : List Char → List (List Char)
  | [] => []
  | c :: rest =>
      if atBoundary previous (c :: rest) then
        match _ : takeNumber? (c :: rest) with
        | some (digits, after) => digits :: findNumbers digits.getLast? after
        | none => findNumbers (some c) rest
      else findNumbers (some c) rest
termination_by s => s.length
decreasing_by
  · have taken : takeNumber? (c :: rest) = some (digits, after) := by assumption
    obtain ⟨nonempty, split⟩ := takeNumber?_eq_some taken
    have longer := List.length_pos_iff.mpr nonempty
    rw [split, List.length_append]
    omega
  · exact Nat.lt_succ_self _
  · exact Nat.lt_succ_self _

theorem findNumbers_nil (previous : Option Char) :
    findNumbers previous [] = [] := by
  rw [findNumbers]

theorem findNumbers_of_inside {previous : Option Char} {c : Char}
    {rest : List Char} (inside : atBoundary previous (c :: rest) = false) :
    findNumbers previous (c :: rest) = findNumbers (some c) rest := by
  rw [findNumbers, inside]
  rfl

theorem findNumbers_of_none {previous : Option Char} {c : Char}
    {rest : List Char} (none : takeNumber? (c :: rest) = none) :
    findNumbers previous (c :: rest) = findNumbers (some c) rest := by
  rw [findNumbers]
  split
  · split
    · next taken => rw [none] at taken; cases taken
    · rfl
  · rfl

theorem findNumbers_of_some {previous : Option Char} {c : Char}
    {rest digits after : List Char}
    (boundary : atBoundary previous (c :: rest) = true)
    (found : takeNumber? (c :: rest) = some (digits, after)) :
    findNumbers previous (c :: rest) =
      digits :: findNumbers digits.getLast? after := by
  rw [findNumbers, if_pos boundary]
  split
  · next taken =>
      rw [found] at taken
      cases taken
      rfl
  · next taken =>
      rw [found] at taken
      cases taken

theorem isNumeral_of_break {c : Char} (isBreak : isWord c = false) :
    isNumeral c = false := by
  cases numeral : isNumeral c with
  | false => rfl
  | true =>
      rw [isWord_of_isNumeral numeral] at isBreak
      cases isBreak

theorem takeNumber?_of_endsWord {after : List Char} (ends : EndsWord after) :
    takeNumber? after = none := by
  cases after with
  | nil => rfl
  | cons c rest =>
      have noDigit := isNumeral_of_break (endsWord_cons_iff.mp ends)
      rw [takeNumber?, noDigit]
      rfl

theorem atBoundary_of_endsWord {c : Char} {after : List Char}
    (inside : isWord c = true) (ends : EndsWord after) :
    atBoundary (some c) after = true := by
  cases after with
  | nil => simp [atBoundary, inside]
  | cons d rest => simp [atBoundary, inside, endsWord_cons_iff.mp ends]

theorem atBoundary_of_apart {previous : Option Char} {c : Char}
    {rest : List Char} (first : isWord c = true)
    (apart : previous.any isWord = true → EndsWord (c :: rest)) :
    atBoundary previous (c :: rest) = true := by
  cases inside : previous.any isWord with
  | false => simp [atBoundary, inside, first]
  | true =>
      have isBreak := endsWord_cons_iff.mp (apart inside)
      rw [first] at isBreak
      cases isBreak

theorem atBoundary_of_within {c d : Char} {rest : List Char}
    (first : isWord c = true) (second : isWord d = true) :
    atBoundary (some c) (d :: rest) = false := by
  simp [atBoundary, first, second]

/-- At a run the digits reach its end or have no boundary behind them. -/
theorem takeNumber?_run {word after : List Char} (nonempty : word ≠ [])
    (inside : word.all isWord = true) (ends : EndsWord after) :
    takeNumber? (word ++ after) = if word.all isNumeral then some (word, after)
      else none := by
  induction word with
  | nil => exact absurd rfl nonempty
  | cons c more ih =>
      rw [List.all_cons, Bool.and_eq_true] at inside
      obtain ⟨first, others⟩ := inside
      cases digit : isNumeral c with
      | false => simp [takeNumber?, digit]
      | true =>
          cases more with
          | nil =>
              have boundary := atBoundary_of_endsWord first ends
              have none := takeNumber?_of_endsWord ends
              simp [takeNumber?, digit, none, boundary]
          | cons d more =>
              have taken := ih (List.cons_ne_nil d more) others
              have second := List.all_eq_true.mp others d List.mem_cons_self
              have noBoundary : atBoundary (some c) (d :: more ++ after) =
                  false :=
                atBoundary_of_within first second
              have same : (c :: d :: more).all isNumeral =
                  (d :: more).all isNumeral := by
                rw [List.all_cons, digit, Bool.true_and]
              rw [List.cons_append, takeNumber?, digit, taken, noBoundary, same]
              cases (d :: more).all isNumeral with
              | true => rfl
              | false => rfl

/-- Inside a run there is no boundary to begin at. -/
theorem exists_findNumbers_inside {c : Char} {more after : List Char}
    (first : isWord c = true) (inside : more.all isWord = true) :
    ∃ last, findNumbers (some c) (more ++ after) =
      findNumbers (some last) after := by
  induction more generalizing c with
  | nil => exact ⟨c, rfl⟩
  | cons d more ih =>
      rw [List.all_cons, Bool.and_eq_true] at inside
      obtain ⟨last, reached⟩ := ih inside.1 inside.2
      have noBoundary : atBoundary (some c) (d :: (more ++ after)) = false :=
        atBoundary_of_within first inside.1
      exact ⟨last, (findNumbers_of_inside noBoundary).trans reached⟩

/-- The search finds the runs that consist of digits. -/
theorem Runs.findNumbers_eq {s : List Char} {runs : List (List Char)}
    (split : Runs s runs) {previous : Option Char}
    (apart : previous.any isWord = true → EndsWord s) :
    findNumbers previous s = runs.filter (·.all isNumeral) := by
  induction split generalizing previous with
  | nil => exact findNumbers_nil previous
  | @gap c s runs isBreak rest ih =>
      have none : takeNumber? (c :: s) = none :=
        takeNumber?_of_endsWord (endsWord_cons_iff.mpr isBreak)
      rw [findNumbers_of_none none]
      apply ih
      intro isInside
      rw [Option.any_some, isBreak] at isInside
      cases isInside
  | @run word after runs nonempty inside ends rest ih =>
      have taken := takeNumber?_run nonempty inside ends
      obtain ⟨c, more, rfl⟩ := List.exists_cons_of_ne_nil nonempty
      rw [List.all_cons, Bool.and_eq_true] at inside
      obtain ⟨first, others⟩ := inside
      rw [List.cons_append] at taken apart ⊢
      have boundary := atBoundary_of_apart first apart
      rw [List.filter_cons]
      cases digits : (c :: more).all isNumeral with
      | true =>
          rw [digits, if_pos rfl] at taken
          rw [findNumbers_of_some boundary taken, if_pos rfl, ih fun _ => ends]
      | false =>
          rw [digits, if_neg Bool.false_ne_true] at taken
          obtain ⟨last, skipped⟩ := exists_findNumbers_inside first others
          rw [findNumbers_of_none taken, if_neg Bool.false_ne_true, skipped,
            ih fun _ => ends]

end BulkWrite.Text
