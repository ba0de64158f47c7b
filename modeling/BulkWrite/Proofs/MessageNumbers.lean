import BulkWrite.Proofs.Deciding
import BulkWrite.Proofs.WordRuns
import Mathlib.Data.List.Basic

/-!
Numbers in messages. The codes of a message are the numbers that its longest
runs of word characters write, and a search for digits between word boundaries
yields the same ones. They decide an issue where the error has neither a telling
state code nor a code of its own.
-/

namespace BulkWrite

def readDigit? (value : Nat) (c : Char) : Option Nat :=
  let next := value * 10 + Text.digitValue c
  if Text.isDigit c = true ∧ next ≤ maxCode then some next else none

/-- Reads digit by digit, and gives up at a character that is no ASCII digit and
at the digit with which the number leaves 64 signed bits. -/
def readCode? (digits : List Char) : Option Int64 :=
  (digits.foldlM readDigit? 0).map Int64.ofNat

theorem foldlM_readDigit? (digits : List Char) {value : Nat}
    (fits : value ≤ maxCode) :
    digits.foldlM readDigit? value =
      let total :=
        digits.foldl (fun value c => value * 10 + Text.digitValue c) value
      if digits.all Text.isDigit = true ∧ total ≤ maxCode then some total
      else none := by
  induction digits generalizing value with
  | nil => simp [fits]
  | cons c rest ih =>
      rw [List.foldlM_cons, List.foldl_cons, List.all_cons]
      by_cases goesOn : Text.isDigit c = true ∧
        value * 10 + Text.digitValue c ≤ maxCode
      · have step : readDigit? value c =
          some (value * 10 + Text.digitValue c) := if_pos goesOn
        rw [step, goesOn.1, Bool.true_and]
        exact ih goesOn.2
      · have step : readDigit? value c = none := if_neg goesOn
        rw [step]
        symm
        apply if_neg
        intro reads
        rw [Bool.and_eq_true] at reads
        -- a number that is too large stays so, whatever digits follow
        exact goesOn ⟨reads.1.1, Nat.le_trans
          (Text.le_foldl_digits _ rest) reads.2⟩

theorem readCode?_eq_wordCode? (digits : List Char) :
    readCode? digits = wordCode? digits := by
  rw [readCode?, foldlM_readDigit? digits (Nat.zero_le maxCode)]
  exact apply_ite (Option.map Int64.ofNat) _ _ _

theorem wordCode?_eq_some_iff {run : List Char} {code : Int64} :
    wordCode? run = some code ↔
      run.all Text.isDigit = true ∧ code.toInt = Text.decimalValue run := by
  rw [wordCode?]
  constructor
  · intro written
    split at written
    · next reads =>
        cases written
        refine ⟨reads.1, Int64.toInt_ofNat_of_lt ?_⟩
        exact Nat.lt_of_le_of_lt reads.2 (by decide)
    · cases written
  · intro reads
    obtain ⟨digits, value⟩ := reads
    have small : Text.decimalValue run < 2 ^ 63 := by
      have bound := code.toInt_lt
      omega
    have same : Int64.ofNat (Text.decimalValue run) = code := by
      rw [← Int64.toInt_inj, Int64.toInt_ofNat_of_lt small, value]
    rw [if_pos ⟨digits, Nat.le_of_lt_succ small⟩, same]

theorem wordCode?_eq_none {run : List Char}
    (foreign : run.all Text.isNumeral = false) :
    wordCode? run = none := by
  apply if_neg
  intro reads
  have numerals : run.all Text.isNumeral = true := by
    rw [List.all_eq_true] at reads ⊢
    exact fun c member => Text.isNumeral_of_isDigit (reads.1 c member)
  rw [foreign] at numerals
  cases numerals

theorem messageCodes_eq_filterMap_runs {message : String}
    {runs : List (List Char)} (split : Text.Runs message.toList runs) :
    messageCodes message = runs.filterMap wordCode? := by
  rw [messageCodes, split.words_eq]

theorem findNumbers_eq_filter_runs {s : List Char} {runs : List (List Char)}
    (split : Text.Runs s runs) :
    Text.findNumbers none s = runs.filter (·.all Text.isNumeral) :=
  split.findNumbers_eq fun inside => absurd inside Bool.false_ne_true

theorem messageCodes_eq_findNumbers (message : String) :
    messageCodes message =
      (Text.findNumbers none message.toList).filterMap readCode? := by
  obtain ⟨runs, split⟩ := Text.exists_runs message.toList
  rw [messageCodes_eq_filterMap_runs split, findNumbers_eq_filter_runs split,
    List.filterMap_filter]
  apply List.filterMap_congr
  intro run _
  rw [readCode?_eq_wordCode?]
  cases numerals : run.all Text.isNumeral with
  | true => rfl
  | false => exact wordCode?_eq_none numerals

theorem nonneg_of_mem_messageCodes {message : String} {code : Int64}
    (written : code ∈ messageCodes message) : 0 ≤ code.toInt := by
  obtain ⟨run, -, writes⟩ := List.mem_filterMap.mp written
  rw [(wordCode?_eq_some_iff.mp writes).2]
  exact Int.natCast_nonneg _

namespace Rules

/-- A text falls into its longest runs of word characters in one way. The codes
of a message are the numbers that fit 64 signed bits among those its runs write
in ASCII digits, in order, and the search between boundaries finds the same.
They are asked only for an error that has no code of its own. -/
theorem message_codes_are_whole_words (rules : Rules) (signals : Signals) :
    let text := signals.message.toList
    let codes := messageCodes signals.message
    (∃ runs, (∀ others, Text.Runs text others ↔ others = runs) ∧
      Text.findNumbers none text = runs.filter (·.all Text.isNumeral) ∧
        codes = runs.filterMap wordCode?) ∧
    codes = (Text.findNumbers none text).filterMap readCode? ∧
    (∀ run code, wordCode? run = some code ↔
      run.all Text.isDigit = true ∧ code.toInt = Text.decimalValue run) ∧
    (∀ code ∈ codes, 0 ≤ code.toInt) ∧
    (rules.heuristics.connectionIssue signals = some .connectionCodeInMessage ↔
      ¬ rules.ListsPrefix signals ∧ signals.driverCode = none ∧
        ∃ code ∈ codes, rules.connectionCodes.contains code = true) ∧
    (rules.heuristics.connectionIssue signals = some .connectionCode ↔
      ¬ rules.ListsPrefix signals ∧
        ∃ code, signals.driverCode = some code ∧
          rules.connectionCodes.contains code = true) ∧
    (rules.heuristics.transientIssue signals = some .transientCodeInMessage ↔
      ¬ rules.ListsState signals ∧ signals.driverCode = none ∧
        ∃ code ∈ codes, rules.transientCodes.contains code = true) ∧
    (rules.heuristics.transientIssue signals = some .transientCode ↔
      ¬ rules.ListsState signals ∧
        ∃ code, signals.driverCode = some code ∧
            rules.transientCodes.contains code = true) := by
  intro text codes
  obtain ⟨runs, split⟩ := Text.exists_runs text
  have one : ∀ others, Text.Runs text others ↔ others = runs := by
    intro others
    rw [Text.runs_iff, split.words_eq, eq_comm]
  refine ⟨⟨runs, one, findNumbers_eq_filter_runs split,
    messageCodes_eq_filterMap_runs split⟩,
    messageCodes_eq_findNumbers signals.message,
    fun _ _ => wordCode?_eq_some_iff, fun _ => nonneg_of_mem_messageCodes, ?_,
    ?_, ?_, ?_⟩
  · rw [← connection_tellsState_iff]
    exact Issue.find?_eq_reason_iff connection_reason_injective .codeInMessage
  · rw [← connection_tellsState_iff]
    exact Issue.find?_eq_reason_iff connection_reason_injective .ownCode
  · rw [← transient_tellsState_iff]
    exact Issue.find?_eq_reason_iff transient_reason_injective .codeInMessage
  · rw [← transient_tellsState_iff]
    exact Issue.find?_eq_reason_iff transient_reason_injective .ownCode

/-- A number too large, one with a foreign digit and one inside a word are
passed over. -/
example :
    messageCodes
      "[007] 9223372036854775808 \u0661\u0662 12\u0663 6_ 9223372036854775807" =
      [7, 9223372036854775807] := by
  decide +kernel

end Rules

end BulkWrite
