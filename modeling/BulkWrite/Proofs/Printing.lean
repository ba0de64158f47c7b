import BulkWrite.Json.Printer
import BulkWrite.Proofs.Grammar
import Mathlib.Tactic.SplitIfs

/-!
Printing writes the grammar of JSON. Lists of strings and lists of integers of
64 bits are printed as documents that have those lists as their values, whatever
characters the strings are made of.
-/

namespace BulkWrite.Json

theorem mem_escapes_of_escapeLetter? {c letter : Char}
    (letters : escapeLetter? c = some letter) :
    (letter, c) ∈ escapes := by
  rw [escapeLetter?] at letters
  split_ifs at letters with quote backslash backspace feed line carriage tab
  all_goals
    obtain rfl := Option.some.inj letters
    subst c
    decide

theorem hexNumber?_hexPadded_control :
    ∀ n < 32, Text.hexNumber? (Text.hexPadded 4 n) = some n := by
  decide

/-- A control character without a letter is printed by its number. -/
def printedPiece (c : Char) : StringPiece :=
  if escapeLetter? c = none ∧ c.toNat < 32 then .unit c.toNat else .char c

theorem spellsPiece_escapedChar (c : Char) :
    SpellsPiece (printedPiece c) (escapedChar c) := by
  cases letters : escapeLetter? c with
  | some letter =>
      simp only [printedPiece, escapedChar, letters, reduceCtorEq, false_and,
        ↓reduceIte]
      exact .escaped (mem_escapes_of_escapeLetter? letters)
  | none =>
      by_cases control : c.toNat < 32
      · simp only [printedPiece, escapedChar, letters, control, and_self,
          ↓reduceIte]
        exact .unit (hexNumber?_hexPadded_control c.toNat control)
      · simp only [printedPiece, escapedChar, letters, control, and_false,
          ↓reduceIte]
        refine .plain (Nat.not_lt.mp control) ?_ ?_
        · rintro rfl
          cases letters
        · rintro rfl
          cases letters

def printedString (s : String) : StringText := s.toList.map printedPiece

theorem spellsString_stringChars (s : String) :
    SpellsString (printedString s) (stringChars s) := by
  have pieces (s : List Char) :
      SpellsPieces (s.map printedPiece) (s.flatMap escapedChar) := by
    induction s with
    | nil => exact .nil
    | cons c s ih =>
        rw [List.map_cons, List.flatMap_cons]
        exact .cons (spellsPiece_escapedChar c) ih
  exact .quoted (pieces s.toList)

theorem stringChars?_printedPiece (c : Char) (text : StringText) :
    stringChars? (printedPiece c :: text) = (c :: ·) <$> stringChars? text := by
  rw [printedPiece]
  split_ifs with control
  · obtain ⟨-, small⟩ := control
    have noHigh : ¬ (0xD800 ≤ c.toNat) := by omega
    have noLow : ¬ (0xDC00 ≤ c.toNat) := by omega
    cases text with
    | nil => simp [stringChars?, noHigh]
    | cons piece text =>
        cases piece with
        | char => simp [stringChars?, noHigh]
        | unit => simp [stringChars?, noHigh, noLow]
  · rw [stringChars?]

theorem string?_printedString (s : String) :
    (printedString s).string? = some s := by
  have pieces (s : List Char) : stringChars? (s.map printedPiece) = some s := by
    induction s with
    | nil => rfl
    | cons c s ih =>
        rw [List.map_cons, stringChars?_printedPiece, ih]
        rfl
  rw [StringText.string?, printedString, pieces]
  exact congrArg some String.ofList_toList

theorem head?_toDigits_ne {n : Nat} (nonzero : n ≠ 0) :
    (Nat.toDigits 10 n).head? ≠ some '0' := by
  induction n using Nat.strongRecOn with
  | ind n ih =>
      by_cases small : n < 10
      · rw [Nat.toDigits_of_lt_base small, List.head?_cons]
        intro zero
        have value := Text.digitValue_digitChar small
        rw [Option.some.inj zero] at value
        exact nonzero value.symm
      · have leading := ih (n / 10) (by omega) (by omega)
        obtain ⟨c, others, same⟩ :=
          List.exists_cons_of_ne_nil (Nat.toDigits_ne_nil (n := n / 10))
        rw [same] at leading
        rw [Nat.toDigits_of_base_le (by decide) (by omega), same]
        exact leading

theorem digits_toDigits (n : Nat) : Digits (Nat.toDigits 10 n) where
  nonempty := Nat.toDigits_ne_nil
  digit c member := Nat.isDigit_of_mem_toDigits (by decide) (by decide) member

def printedInteger (n : Int) : NumberText :=
  ⟨decide (n < 0), Nat.toDigits 10 n.natAbs, [], none⟩

theorem spellsNumber_intChars (n : Int) :
    SpellsNumber (printedInteger n) (intChars n) := by
  have zero : (Nat.toDigits 10 n.natAbs).head? = some '0' →
      Nat.toDigits 10 n.natAbs = ['0'] := by
    intro leading
    by_cases nothing : n.natAbs = 0
    · rw [nothing]
      rfl
    · exact absurd leading (head?_toDigits_ne nothing)
  have spelled : SpellsNumber (printedInteger n)
      (signChars (printedInteger n).negative ++ (printedInteger n).whole ++
          [] ++ []) :=
    .number (digits_toDigits n.natAbs) zero .absent .absent
  simpa [signChars, printedInteger, intChars] using spelled

theorem value?_printedInteger {n : Int} (least : Int64.minValue.toInt ≤ n)
    (most : n < UInt64.size) :
    (printedInteger n).value? = some (.integer n) := by
  simp only [NumberText.value?, printedInteger, NumberText.isInteger,
    Text.decimalValue_toDigits]
  by_cases negative : n < 0
  · have size : -(n.natAbs : Int) = n := by omega
    rw [if_neg, if_pos, size]
    · exact ⟨rfl, decide_eq_true negative, by omega, size.symm ▸ least⟩
    · simp [negative]
  · have size : (n.natAbs : Int) = n := by omega
    rw [if_pos, size]
    exact ⟨rfl, by simp [negative], by omega⟩

theorem enclosed_commaSeparated {α β : Type} {spells : β → List Char → Prop}
    {item : α → β} {chars : α → List Char} {all : List α}
    (each : ∀ x ∈ all, spells (item x) (chars x)) :
    Enclosed spells (all.map item) (commaSeparated (all.map chars)) := by
  have separated (x : α) (more : List α)
      (each : ∀ y ∈ x :: more, spells (item y) (chars y)) :
      Separated spells ((x :: more).map item)
          (commaSeparated ((x :: more).map chars)) := by
    induction more generalizing x with
    | nil => exact .last (each x List.mem_cons_self)
    | cons y more ih =>
        obtain ⟨first, others⟩ := List.forall_mem_cons.mp each
        exact .more first (ih y others)
  cases all with
  | nil => exact .empty (List.forall_mem_nil _)
  | cons x more => exact .filled (separated x more each)

theorem padded_of_spells {α : Type} {spells : α → List Char → Prop} {x : α}
    {s : List Char} (spelled : spells x s) : Padded spells x s := by
  have nothing : Blank [] := List.forall_mem_nil _
  simpa using Padded.padded nothing spelled nothing

section

variable {α : Type} {levels : Nat} {all : List α} {document : α → Document}
    {json : α → Json}

theorem itemChars_map (all : List α) (json : α → Json) :
    itemChars (all.map json) = all.map fun x => (json x).chars := by
  induction all with
  | nil => rfl
  | cons x all ih => rw [List.map_cons, itemChars, ih, List.map_cons]

theorem spells_array
    (each : ∀ x ∈ all, Spells levels (document x) (json x).chars) :
    Spells (levels + 1) (.array (all.map document))
      (Json.array (all.map json)).chars := by
  rw [chars, itemChars_map]
  exact .array (enclosed_commaSeparated fun x member =>
    padded_of_spells (each x member))

theorem memberChars_map (all : List α) (name : α → String) (json : α → Json) :
    memberChars (all.map fun x => (name x, json x)) =
      all.map fun x => stringChars (name x) ++ ':' :: (json x).chars := by
  induction all with
  | nil => rfl
  | cons x all ih => rw [List.map_cons, memberChars, ih, List.map_cons]

theorem spells_object (name : α → String)
    (each : ∀ x ∈ all, Spells levels (document x) (json x).chars) :
    Spells (levels + 1)
      (.object (all.map fun x => (printedString (name x), document x)))
        (Json.object (all.map fun x => (name x, json x))).chars := by
  rw [chars, memberChars_map]
  refine .object (enclosed_commaSeparated fun x member => ?_)
  exact .member (padded_of_spells (spellsString_stringChars (name x)))
    (padded_of_spells (each x member))

theorem value?_array (each : ∀ x ∈ all, (document x).value? = some (json x)) :
    (Document.array (all.map document)).value? =
      some (.array (all.map json)) := by
  have items : itemValues? (all.map document) = some (all.map json) := by
    induction all with
    | nil => rfl
    | cons x all ih =>
        obtain ⟨first, others⟩ := List.forall_mem_cons.mp each
        rw [List.map_cons, itemValues?, first, ih others]
        rfl
  rw [Document.value?, items]
  rfl

end

def printedStrings (items : List String) : Document :=
  .array (items.map fun s => .string (printedString s))

theorem spells_strings (levels : Nat) (items : List String) :
    Spells (levels + 2) (printedStrings items) (strings items).chars := by
  refine spells_array fun s _ => ?_
  exact .string (spellsString_stringChars s)

theorem value?_printedStrings (items : List String) :
    (printedStrings items).value? = some (strings items) := by
  refine value?_array fun s _ => ?_
  rw [Document.value?, string?_printedString]
  rfl

def printedIntegers (items : List Int) : Document :=
  .array (items.map fun n => .number (printedInteger n))

theorem spells_integers (levels : Nat) (items : List Int) :
    Spells (levels + 2) (printedIntegers items) (integers items).chars := by
  refine spells_array fun n _ => ?_
  exact .number (spellsNumber_intChars n)

theorem value?_printedIntegers {items : List Int}
    (fit : ∀ n ∈ items, Int64.minValue.toInt ≤ n ∧ n < UInt64.size) :
    (printedIntegers items).value? = some (integers items) := by
  refine value?_array fun n member => ?_
  obtain ⟨least, most⟩ := fit n member
  rw [Document.value?, value?_printedInteger least most]
  rfl

theorem Document.written_text {levels : Nat} {document : Document} {json : Json}
    (spelled : Spells levels document json.chars) :
    document.Written json.text := by
  refine ⟨levels, padded_of_spells ?_⟩
  rw [text, String.toList_ofList]
  exact spelled

end BulkWrite.Json
