import BulkWrite.Proofs.Alignment
import BulkWrite.Proofs.Tokens
import Mathlib.Data.List.Induction

/-!
Backslashes in quoted names. The quoter writes a backslash as it is, while the
scan takes it for an escape in all quotes but backticks. The two agree on where
a name ends if no delimiter stands behind an odd number of backslashes;
otherwise the scan takes code for quotes and quotes for code from there on.
-/

namespace BulkWrite

open Query

namespace Quoter

def backslashesAtEnd (text : List Char) : Nat :=
  (text.reverse.takeWhile (· == '\\')).length

/-- An even number of backslashes stands in front of each delimiter of the name
and at its end. -/
def Paired (delimiter : Char) (name : List Char) : Prop :=
  ∀ segment ∈ name.splitOn delimiter, backslashesAtEnd segment % 2 = 0

instance (delimiter : Char) (name : List Char) :
    Decidable (Paired delimiter name) :=
  inferInstanceAs (Decidable (∀ segment ∈ name.splitOn delimiter, _))

section

variable {delimiter : Char} {before after segment : List Char}

@[simp] theorem backslashesAtEnd_append_backslash (text : List Char) :
    backslashesAtEnd (text ++ ['\\']) = backslashesAtEnd text + 1 := by
  simp [backslashesAtEnd]

theorem backslashesAtEnd_append_other (text : List Char) {c : Char}
    (other : c ≠ '\\') :
    backslashesAtEnd (text ++ [c]) = 0 := by
  simp [backslashesAtEnd, other]

theorem paired_of_not_mem (free : delimiter ∉ segment) :
    Paired delimiter segment ↔ backslashesAtEnd segment % 2 = 0 := by
  rw [Paired, List.splitOn_eq_singleton free]
  exact List.forall_mem_singleton

theorem paired_append_cons (free : delimiter ∉ before) :
    Paired delimiter (before ++ delimiter :: after) ↔
      backslashesAtEnd before % 2 = 0 ∧ Paired delimiter after := by
  rw [Paired, List.splitOn_append_cons_self, List.splitOn_eq_singleton free]
  exact List.forall_mem_cons

theorem doubled_of_not_mem (free : delimiter ∉ segment) :
    doubled delimiter segment = segment := by
  induction segment with
  | nil => rfl
  | cons c segment ih =>
      rw [List.mem_cons, not_or] at free
      rw [doubled_cons_other segment (Ne.symm free.1), ih free.2]

/-- Induction along the delimiters of a name. -/
theorem delimiter_induction (delimiter : Char) {motive : List Char → Prop}
    (last : ∀ segment, delimiter ∉ segment → motive segment)
    (cut : ∀ before after, delimiter ∉ before → motive after →
      motive (before ++ delimiter :: after)) (name : List Char) :
          motive name := by
  by_cases member : delimiter ∈ name
  · obtain ⟨before, after, split, free⟩ := List.eq_append_cons_of_mem member
    have shorter : after.length < name.length := by
      rw [split, List.length_append, List.length_cons]
      omega
    rw [split]
    exact cut before after free (delimiter_induction delimiter last cut after)
  · exact last name member
termination_by name.length

end

end Quoter

namespace Query

namespace Mode

/-- Where the scan stands inside a name, though not in the quote of that
name. -/
structure Outside (delimiter : Char) (mode : Mode) : Prop where
  proper : mode.Proper
  ne_quoted : mode ≠ .quoted delimiter
  ne_escaped : mode ≠ .escaped delimiter

/-- Where the scan stands behind a name that it has lost. -/
def Lost : Mode → Prop
  | .quoted delimiter => opensQuote delimiter = true
  | .lineComment => True
  | .blockComment => True
  | .blockStar => True
  | _ => False

/-- A character that no lost scan finds a way out with. -/
def isInert (c : Char) : Bool :=
  c != '\\' && c != '\n' && c != '/' && !opensQuote c

variable {mode : Mode} {delimiter c : Char}

theorem Lost.ne_code (lost : mode.Lost) : mode ≠ .code := by
  rintro rfl
  exact lost

theorem Lost.next_inert (lost : mode.Lost) (inert : isInert c = true) :
    (mode.next c).Lost := by
  simp only [isInert, Bool.and_eq_true, bne_iff_ne, Bool.not_eq_true',
    ne_eq] at inert
  obtain ⟨⟨⟨escape, newline⟩, slash⟩, opens⟩ := inert
  cases mode with
  | quoted delimiter =>
      have different : c ≠ delimiter := by
        rintro rfl
        exact absurd lost (Bool.eq_false_iff.mp opens)
      rw [next, if_neg (fun both => escape both.1), if_neg different]
      exact lost
  | lineComment =>
      rw [next, if_neg newline]
      trivial
  | blockComment =>
      rw [next]
      split_ifs <;> trivial
  | blockStar =>
      rw [next, if_neg slash]
      split_ifs <;> trivial
  | _ => exact absurd lost id

theorem ofCode_eq_quoted (entered : ofCode c = .quoted delimiter) :
    c = delimiter := by
  unfold ofCode at entered
  split_ifs at entered
  exact Mode.quoted.inj entered

theorem ofCode_ne_escaped : ofCode c ≠ .escaped delimiter := by
  unfold ofCode
  split_ifs <;> simp

theorem next_eq_quoted (entered : mode.next c = .quoted delimiter) :
    mode = .quoted delimiter ∨ mode = .escaped delimiter ∨ c = delimiter := by
  cases mode with
  | code => exact Or.inr (Or.inr (ofCode_eq_quoted entered))
  | dash =>
      rw [next] at entered
      split_ifs at entered
      exact Or.inr (Or.inr (ofCode_eq_quoted entered))
  | slash =>
      rw [next] at entered
      split_ifs at entered
      exact Or.inr (Or.inr (ofCode_eq_quoted entered))
  | quoted other =>
      rw [next] at entered
      split_ifs at entered
      exact Or.inl entered
  | escaped other =>
      rw [next, quoted.injEq] at entered
      rw [entered]
      exact Or.inr (Or.inl rfl)
  | lineComment => rw [next] at entered; split_ifs at entered
  | blockComment => rw [next] at entered; split_ifs at entered
  | blockStar => rw [next] at entered; split_ifs at entered

theorem next_eq_escaped (entered : mode.next c = .escaped delimiter) :
    mode = .quoted delimiter := by
  cases mode with
  | code => exact absurd entered ofCode_ne_escaped
  | dash =>
      rw [next] at entered
      split_ifs at entered
      exact absurd entered ofCode_ne_escaped
  | slash =>
      rw [next] at entered
      split_ifs at entered
      exact absurd entered ofCode_ne_escaped
  | quoted other =>
      rw [next] at entered
      split_ifs at entered
      rw [escaped.inj entered]
  | escaped other => cases entered
  | lineComment => rw [next] at entered; split_ifs at entered
  | blockComment => rw [next] at entered; split_ifs at entered
  | blockStar => rw [next] at entered; split_ifs at entered

/-- Only its own delimiter leads into the quote of a name. -/
theorem Outside.next_other (outside : mode.Outside delimiter)
    (different : c ≠ delimiter) :
    (mode.next c).Outside delimiter := by
  refine ⟨next_proper outside.proper c, ?_, ?_⟩
  · intro entered
    rcases next_eq_quoted entered with quoted | escaped | same
    · exact outside.ne_quoted quoted
    · exact outside.ne_escaped escaped
    · exact different same
  · intro entered
    exact outside.ne_quoted (next_eq_escaped entered)

section

variable (opens : opensQuote delimiter = true)

include opens

theorem ne_of_opensQuote (other : opensQuote c = false) : delimiter ≠ c := by
  rintro rfl
  simp [opens] at other

theorem next_of_isCode (code : mode.isCode = true) :
    mode.next delimiter = .quoted delimiter := by
  have entered : ofCode delimiter = .quoted delimiter := if_pos opens
  cases mode with
  | code => exact entered
  | dash => rw [next, if_neg (ne_of_opensQuote opens (by decide)), entered]
  | slash => rw [next, if_neg (ne_of_opensQuote opens (by decide)), entered]
  | _ => cases code

theorem next_quoted_self : (quoted delimiter).next delimiter = .code := by
  have literal : delimiter ≠ '\\' := ne_of_opensQuote opens (by decide)
  rw [next, if_neg fun escape => literal escape.1, if_pos rfl]

theorem next_quoted_other {other : Char} (different : delimiter ≠ other) :
    (quoted other).next delimiter = .quoted other := by
  have literal : delimiter ≠ '\\' := ne_of_opensQuote opens (by decide)
  rw [next, if_neg fun escape => literal escape.1, if_neg different]

theorem next_lineComment : lineComment.next delimiter = .lineComment :=
  if_neg (ne_of_opensQuote opens (by decide))

theorem next_blockComment : blockComment.next delimiter = .blockComment :=
  if_neg (ne_of_opensQuote opens (by decide))

theorem next_blockStar : blockStar.next delimiter = .blockComment := by
  have slash : delimiter ≠ '/' := ne_of_opensQuote opens (by decide)
  have star : delimiter ≠ '*' := ne_of_opensQuote opens (by decide)
  rw [next, if_neg slash, if_neg star]

/-- The opening delimiter of the next name. -/
theorem Lost.next_delimiter (lost : mode.Lost) :
    (mode.next delimiter).Outside delimiter := by
  cases mode with
  | quoted other =>
      by_cases same : delimiter = other
      · subst same
        rw [next_quoted_self opens]
        exact ⟨trivial, by simp, by simp⟩
      · rw [next_quoted_other opens same]
        exact ⟨lost, fun equal => same (Mode.quoted.inj equal).symm, by simp⟩
  | lineComment =>
      rw [next_lineComment opens]
      exact ⟨trivial, by simp, by simp⟩
  | blockComment =>
      rw [next_blockComment opens]
      exact ⟨trivial, by simp, by simp⟩
  | blockStar =>
      rw [next_blockStar opens]
      exact ⟨trivial, by simp, by simp⟩
  | _ => exact absurd lost id

/-- The closing delimiter of the name. -/
theorem Outside.next_delimiter (outside : mode.Outside delimiter) :
    (mode.next delimiter).Lost := by
  cases mode with
  | quoted other =>
      have different : delimiter ≠ other := by
        rintro rfl
        exact outside.ne_quoted rfl
      rw [next_quoted_other opens different]
      exact outside.proper
  | escaped other => exact outside.proper.1
  | lineComment =>
      rw [next_lineComment opens]
      trivial
  | blockComment =>
      rw [next_blockComment opens]
      trivial
  | blockStar =>
      rw [next_blockStar opens]
      trivial
  | _ =>
      rw [next_of_isCode opens rfl]
      exact opens

/-- A doubled delimiter. -/
theorem Outside.next_doubled (outside : mode.Outside delimiter) :
    ((mode.next delimiter).next delimiter).Outside delimiter :=
  (outside.next_delimiter opens).next_delimiter opens

end

end Mode

namespace Scan

open Quoter

variable {delimiter : Char} {segment name : List Char}

/-- Backslashes escape one another in pairs. -/
theorem run_segment (escapes : delimiter ≠ '\x60') (free : delimiter ∉ segment)
    (found : Nat) :
    run ⟨.quoted delimiter, found⟩ segment =
      ⟨if backslashesAtEnd segment % 2 = 0 then .quoted delimiter
        else .escaped delimiter, found⟩ := by
  induction segment using List.reverseRecOn with
  | nil => rfl
  | append_singleton segment c ih =>
      rw [List.mem_append, not_or, List.mem_singleton] at free
      rw [run_append, ih free.1, run_cons, run_nil]
      by_cases backslash : c = '\\'
      · subst backslash
        rw [backslashesAtEnd_append_backslash]
        by_cases even : backslashesAtEnd segment % 2 = 0
        · have odd : ¬ (backslashesAtEnd segment + 1) % 2 = 0 := by omega
          simp [even, odd, step, Mode.next, Mode.isCode, escapes]
        · have even' : (backslashesAtEnd segment + 1) % 2 = 0 := by omega
          simp [even, even', step, Mode.next, Mode.isCode]
      · rw [backslashesAtEnd_append_other segment backslash]
        have different : c ≠ delimiter := Ne.symm free.2
        by_cases even : backslashesAtEnd segment % 2 = 0
        · simp [even, step, Mode.next, Mode.isCode, backslash, different]
        · simp [even, step, Mode.next, Mode.isCode]

theorem mode_run (scan : Scan) (text : List Char) :
    (run scan text).mode = text.foldl Mode.next scan.mode := by
  induction text generalizing scan with
  | nil => rfl
  | cons c text ih => exact ih (scan.step c)

end Scan

end Query

namespace Quoter

open Mode

variable {delimiter : Char} {quoter : Quoter} {mode : Mode}

section

variable (opens : opensQuote delimiter = true)

include opens

theorem outside_doubled (outside : mode.Outside delimiter) (name : List Char) :
    ((doubled delimiter name).foldl Mode.next mode).Outside delimiter := by
  induction name generalizing mode with
  | nil => exact outside
  | cons c name ih =>
      by_cases same : c = delimiter
      · subst same
        rw [doubled_cons_self]
        exact ih (outside.next_doubled opens)
      · rw [doubled_cons_other name same]
        exact ih (outside.next_other same)

theorem lost_of_outside (outside : mode.Outside delimiter) (name : List Char) :
    ((doubled delimiter name ++ [delimiter]).foldl Mode.next mode).Lost := by
  rw [List.foldl_append]
  exact (outside_doubled opens outside name).next_delimiter opens

variable (escapes : delimiter ≠ '\x60')

include escapes

theorem run_rest_of_paired {name : List Char} (paired : Paired delimiter name)
    (found : Nat) :
    Scan.run ⟨.quoted delimiter, found⟩
      (doubled delimiter name ++ [delimiter]) =
      ⟨.code, found⟩ := by
  induction name using delimiter_induction delimiter with
  | last segment free =>
      rw [doubled_of_not_mem free, Scan.run_append,
        Scan.run_segment escapes free,
        if_pos ((paired_of_not_mem free).mp paired), Scan.run_cons,
        Scan.step_closing opens, Scan.run_nil]
  | cut before after free ih =>
      obtain ⟨even, later⟩ := (paired_append_cons free).mp paired
      rw [doubled_append, doubled_of_not_mem free, doubled_cons_self,
        List.append_assoc, Scan.run_append, Scan.run_segment escapes free,
        if_pos even, List.cons_append, List.cons_append, Scan.run_cons,
        Scan.step_closing opens, Scan.run_cons, Scan.step_opening opens]
      exact ih later

/-- An escaped delimiter leaves the scan out of step with the name. -/
theorem lost_of_not_paired {name : List Char}
    (unpaired : ¬ Paired delimiter name) (found : Nat) :
    (Scan.run ⟨.quoted delimiter, found⟩
        (doubled delimiter name ++ [delimiter])).mode.Lost := by
  induction name using delimiter_induction delimiter with
  | last segment free =>
      rw [doubled_of_not_mem free, Scan.run_append,
        Scan.run_segment escapes free,
        if_neg fun even => unpaired ((paired_of_not_mem free).mpr even)]
      exact opens
  | cut before after free ih =>
      rw [doubled_append, doubled_of_not_mem free, doubled_cons_self,
        List.append_assoc, Scan.run_append, Scan.run_segment escapes free,
        List.cons_append, List.cons_append]
      by_cases even : backslashesAtEnd before % 2 = 0
      · rw [if_pos even, Scan.run_cons, Scan.step_closing opens, Scan.run_cons,
          Scan.step_opening opens]
        exact ih fun paired =>
          unpaired ((paired_append_cons free).mpr ⟨even, paired⟩)
      · rw [if_neg even, Scan.mode_run]
        -- the first of the two delimiters is escaped, and the second closes the
        -- quote
        have inside : (Mode.escaped delimiter).next delimiter =
          .quoted delimiter := rfl
        have outside : Mode.code.Outside delimiter :=
          ⟨trivial, by simp, by simp⟩
        rw [List.foldl_cons, List.foldl_cons, inside, next_quoted_self opens]
        exact lost_of_outside opens outside after

end

/-- A name that comes behind a lost one does not help. -/
theorem lost_chars (opens : opensQuote quoter.delimiter = true)
    (lost : mode.Lost) (name : String) :
    ((quoter.chars name).foldl Mode.next mode).Lost :=
  lost_of_outside opens (lost.next_delimiter opens) name.toList

end Quoter

end BulkWrite
