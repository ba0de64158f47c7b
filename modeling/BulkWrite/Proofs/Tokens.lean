import BulkWrite.Query.Placeholders
import Mathlib.Tactic.SplitIfs
import Mathlib.Tactic.Tauto

/-!
Tokens of SQL text: strings, quoted identifiers, comments, and every other
character by itself. The reader of tokens looks ahead where the scan for
placeholders remembers, and it takes a doubled delimiter for one character where
the scan leaves the quote and enters it again. Both find the same placeholders.
-/

namespace BulkWrite.Query

/-- A piece of text with all of its characters, its marks included. -/
inductive Token where
  | string (chars : List Char)
  | identifier (chars : List Char)
  | comment (chars : List Char)
  | single (c : Char)
deriving DecidableEq

def Token.chars : Token → List Char
  | .string chars => chars
  | .identifier chars => chars
  | .comment chars => chars
  | .single c => [c]

/-! Cutting: what belongs to a token, and the text behind it. -/

/-- Cuts behind the first occurrence of the mark, or at the end where there is
none. -/
def cutBehind (mark : List Char) : List Char → List Char × List Char
  | [] => ([], [])
  | c :: rest =>
      if mark.isPrefixOf (c :: rest) then (c :: rest).splitAt mark.length
      else (cutBehind mark rest).map (c :: ·) id

/-- Cuts behind the delimiter that closes a quote, or at the end where there is
none. A doubled delimiter does not close the quote, nor does one behind a
backslash where these escape. -/
def cutQuoted (escapes : Bool) (delimiter : Char) :
    List Char → List Char × List Char
  | [] => ([], [])
  | [c] => ([c], [])
  | c :: next :: rest =>
      if (escapes = true ∧ c = '\\') ∨ (c = delimiter ∧ next = delimiter) then
        (cutQuoted escapes delimiter rest).map ([c, next] ++ ·) id
      else if c = delimiter then ([c], next :: rest)
      else (cutQuoted escapes delimiter (next :: rest)).map (c :: ·) id

/-- The first token of a text that is not empty, and the text behind it. -/
def cutToken : Char → List Char → Token × List Char
  | '\'', rest =>
      (cutQuoted true '\'' rest).map (fun cut => .string ('\'' :: cut)) id
  | '"', rest =>
      (cutQuoted true '"' rest).map (fun cut => .string ('"' :: cut)) id
  | '\x60', rest =>
      (cutQuoted false '\x60' rest).map
        (fun cut => .identifier ('\x60' :: cut)) id
  | '#', rest =>
      (cutBehind ['\n'] rest).map (fun cut => .comment ('#' :: cut)) id
  | '-', '-' :: rest =>
      (cutBehind ['\n'] rest).map (fun cut => .comment (['-', '-'] ++ cut)) id
  | '/', '*' :: rest =>
      (cutBehind ['*', '/'] rest).map
        (fun cut => .comment (['/', '*'] ++ cut)) id
  | c, rest => (.single c, rest)

section

variable {escapes : Bool} {delimiter : Char}

theorem cutQuoted_escaped (c : Char) (text : List Char) :
    cutQuoted true delimiter ('\\' :: c :: text) =
      (cutQuoted true delimiter text).map (['\\', c] ++ ·) id := by
  simp [cutQuoted]

theorem cutQuoted_doubled (text : List Char) :
    cutQuoted escapes delimiter (delimiter :: delimiter :: text) =
      (cutQuoted escapes delimiter text).map
        ([delimiter, delimiter] ++ ·) id := by
  simp [cutQuoted]

theorem cutQuoted_closing (literal : delimiter ≠ '\\') {text : List Char}
    (ends : text.head? ≠ some delimiter) :
    cutQuoted escapes delimiter (delimiter :: text) = ([delimiter], text) := by
  cases text with
  | nil => rfl
  | cons next text =>
      have different : next ≠ delimiter := by simpa using ends
      simp [cutQuoted, literal, different]

theorem cutQuoted_other {c : Char} (literal : ¬ (escapes = true ∧ c = '\\'))
    (different : c ≠ delimiter) (text : List Char) :
    cutQuoted escapes delimiter (c :: text) =
      (cutQuoted escapes delimiter text).map (c :: ·) id := by
  cases text with
  | nil => rfl
  | cons next text => rw [cutQuoted, if_neg (by tauto), if_neg different]

theorem cutQuoted_append (text : List Char) :
    (cutQuoted escapes delimiter text).1 ++
      (cutQuoted escapes delimiter text).2 = text := by
  induction text using cutQuoted.induct escapes delimiter with
  | case1 => rfl
  | case2 c => rfl
  | case3 c next rest inside ih =>
      rw [cutQuoted, if_pos inside]
      exact congrArg ([c, next] ++ ·) ih
  | case4 next rest inside =>
      rw [cutQuoted, if_neg inside, if_pos rfl]
      rfl
  | case5 c next rest inside different ih =>
      rw [cutQuoted, if_neg inside, if_neg different]
      exact congrArg (c :: ·) ih

theorem cutBehind_append (mark text : List Char) :
    (cutBehind mark text).1 ++ (cutBehind mark text).2 = text := by
  induction text with
  | nil => rfl
  | cons c rest ih =>
      rw [cutBehind]
      split
      · rw [List.splitAt_eq]
        exact List.take_append_drop _ _
      · exact congrArg (c :: ·) ih

end

theorem cutToken_append (c : Char) (rest : List Char) :
    (cutToken c rest).1.chars ++ (cutToken c rest).2 = c :: rest := by
  unfold cutToken
  split
  · exact congrArg ('\'' :: ·) (cutQuoted_append _)
  · exact congrArg ('"' :: ·) (cutQuoted_append _)
  · exact congrArg ('\x60' :: ·) (cutQuoted_append _)
  · exact congrArg ('#' :: ·) (cutBehind_append _ _)
  · exact congrArg (['-', '-'] ++ ·) (cutBehind_append _ _)
  · exact congrArg (['/', '*'] ++ ·) (cutBehind_append _ _)
  · rfl

theorem chars_cutToken_ne_nil (c : Char) (rest : List Char) :
    (cutToken c rest).1.chars ≠ [] := by
  unfold cutToken
  split <;> simp [Token.chars]

theorem length_cutToken_lt (c : Char) (rest : List Char) :
    (cutToken c rest).2.length < (c :: rest).length := by
  have length := congrArg List.length (cutToken_append c rest)
  have nonempty := List.length_pos_iff.mpr (chars_cutToken_ne_nil c rest)
  rw [List.length_append] at length
  omega

def tokens : List Char → List Token
  | [] => []
  | c :: rest => (cutToken c rest).1 :: tokens (cutToken c rest).2
termination_by text => text.length
decreasing_by exact length_cutToken_lt c rest

/-- The tokens joined are the text. -/
theorem flatMap_chars_tokens (text : List Char) :
    (tokens text).flatMap Token.chars = text := by
  induction text using tokens.induct with
  | case1 => simp [tokens]
  | case2 c rest ih => rw [tokens, List.flatMap_cons, ih, cutToken_append]

theorem cutToken_single {c : Char} (opens : Mode.opensQuote c = false)
    (hash : c ≠ '#') {rest : List Char} (dash : c = '-' → rest.head? ≠ some '-')
    (slash : c = '/' → rest.head? ≠ some '*') :
    cutToken c rest = (.single c, rest) := by
  unfold cutToken
  split <;> simp_all [Mode.opensQuote]

namespace Mode

/-- The scan is in a quote behind a character that opens one, and escapes in
strings only. -/
def Proper : Mode → Prop
  | .quoted delimiter => opensQuote delimiter = true
  | .escaped delimiter => opensQuote delimiter = true ∧ delimiter ≠ '\x60'
  | _ => True

/-- The tokens still to be completed: what a mode remembers stands in front of
the text again. -/
def ahead : Mode → List Char → List Token
  | .code, text => tokens text
  | .dash, text => tokens ('-' :: text)
  | .slash, text => tokens ('/' :: text)
  | .quoted delimiter, text =>
      tokens (cutQuoted (delimiter ≠ '\x60') delimiter text).2
  | .escaped delimiter, text =>
      tokens (cutQuoted true delimiter ('\\' :: text)).2
  | .lineComment, text => tokens (cutBehind ['\n'] text).2
  | .blockComment, text => tokens (cutBehind ['*', '/'] text).2
  | .blockStar, text => tokens (cutBehind ['*', '/'] ('*' :: text)).2

def placeholdersAhead (mode : Mode) (text : List Char) : Nat :=
  (mode.ahead text).count (.single '?')

variable {mode : Mode} {delimiter c : Char}

theorem ofCode_proper (c : Char) : (ofCode c).Proper := by
  unfold ofCode
  split_ifs with opens
  · exact opens
  all_goals trivial

theorem next_proper (proper : mode.Proper) (c : Char) :
    (mode.next c).Proper := by
  cases mode with
  | code => exact ofCode_proper c
  | dash =>
      rw [next]
      split_ifs
      · trivial
      · exact ofCode_proper c
  | slash =>
      rw [next]
      split_ifs
      · trivial
      · exact ofCode_proper c
  | quoted delimiter =>
      rw [next]
      split_ifs with escape
      · exact ⟨proper, escape.2⟩
      · trivial
      · exact proper
  | escaped delimiter => exact proper.1
  | lineComment => rw [next]; split_ifs <;> trivial
  | blockComment => rw [next]; split_ifs <;> trivial
  | blockStar => rw [next]; split_ifs <;> trivial

theorem placeholdersAhead_nil (mode : Mode) :
    mode.placeholdersAhead [] = 0 := by
  cases mode with
  | code => simp [placeholdersAhead, ahead, tokens]
  | dash => simp [placeholdersAhead, ahead, tokens, cutToken]
  | slash => simp [placeholdersAhead, ahead, tokens, cutToken]
  | quoted delimiter => simp [placeholdersAhead, ahead, cutQuoted, tokens]
  | escaped delimiter => simp [placeholdersAhead, ahead, cutQuoted, tokens]
  | lineComment => simp [placeholdersAhead, ahead, cutBehind, tokens]
  | blockComment => simp [placeholdersAhead, ahead, cutBehind, tokens]
  | blockStar => simp [placeholdersAhead, ahead, cutBehind, tokens]

theorem placeholdersAhead_code_cons (c : Char) (text : List Char) :
    code.placeholdersAhead (c :: text) =
      (ofCode c).placeholdersAhead text + if c = '?' then 1 else 0 := by
  by_cases opens : opensQuote c = true
  · have mark : c ≠ '?' := by
      rintro rfl
      exact absurd opens (by decide)
    rw [ofCode, if_pos opens, if_neg mark]
    simp only [opensQuote, Bool.or_eq_true, beq_iff_eq] at opens
    rcases opens with (rfl | rfl) | rfl
    · simp [placeholdersAhead, ahead, tokens, cutToken]
    · simp [placeholdersAhead, ahead, tokens, cutToken]
    · simp [placeholdersAhead, ahead, tokens, cutToken]
  · by_cases remembered : c = '-' ∨ c = '/'
    · rcases remembered with rfl | rfl
      · rfl
      · rfl
    · by_cases hash : c = '#'
      · subst hash
        simp [placeholdersAhead, ahead, ofCode, opensQuote, tokens, cutToken]
      · have alone : cutToken c text = (.single c, text) :=
          cutToken_single (by simpa using opens) hash
            (fun dash => absurd (Or.inl dash) remembered)
            (fun slash => absurd (Or.inr slash) remembered)
        rw [not_or] at remembered
        simp only [placeholdersAhead, ahead, ofCode, if_neg opens,
          if_neg remembered.1, if_neg remembered.2, if_neg hash, tokens, alone,
          List.count_cons]
        simp

theorem placeholdersAhead_dash {text : List Char}
    (alone : text.head? ≠ some '-') :
    dash.placeholdersAhead text = code.placeholdersAhead text := by
  have single : cutToken '-' text = (.single '-', text) :=
    cutToken_single (by decide) (by decide) (fun _ => alone)
      (fun slash => by cases slash)
  rw [placeholdersAhead, ahead, tokens, single]
  exact List.count_cons_of_ne (by simp)

theorem placeholdersAhead_slash {text : List Char}
    (alone : text.head? ≠ some '*') :
    slash.placeholdersAhead text = code.placeholdersAhead text := by
  have single : cutToken '/' text = (.single '/', text) :=
    cutToken_single (by decide) (by decide) (fun dash => by cases dash)
      (fun _ => alone)
  rw [placeholdersAhead, ahead, tokens, single]
  exact List.count_cons_of_ne (by simp)

/-- To leave a quote and to enter it again comes to the same as to stay in
it. -/
theorem placeholdersAhead_closing (opens : opensQuote delimiter = true)
    (text : List Char) :
    (quoted delimiter).placeholdersAhead (delimiter :: text) =
      code.placeholdersAhead text := by
  have literal : delimiter ≠ '\\' := by
    rintro rfl
    exact absurd opens (by decide)
  have mark : delimiter ≠ '?' := by
    rintro rfl
    exact absurd opens (by decide)
  by_cases doubled : text.head? = some delimiter
  · obtain ⟨rest, rfl⟩ := List.head?_eq_some_iff.mp doubled
    rw [placeholdersAhead_code_cons, ofCode, if_pos opens, if_neg mark,
      placeholdersAhead, ahead, cutQuoted_doubled]
    rfl
  · rw [placeholdersAhead, ahead, cutQuoted_closing literal doubled]
    rfl

/-- One step of the scan. -/
theorem placeholdersAhead_cons (proper : mode.Proper) (c : Char)
    (text : List Char) :
    mode.placeholdersAhead (c :: text) =
      (mode.next c).placeholdersAhead text + if mode.isCode && c == '?' then 1
        else 0 := by
  cases mode with
  | code => simpa [next, isCode] using placeholdersAhead_code_cons c text
  | dash =>
      by_cases again : c = '-'
      · subst again
        simp [placeholdersAhead, ahead, next, tokens, cutToken]
      · rw [placeholdersAhead_dash (by simpa using again),
          placeholdersAhead_code_cons]
        simp [next, again, isCode]
  | slash =>
      by_cases opens : c = '*'
      · subst opens
        simp [placeholdersAhead, ahead, next, tokens, cutToken]
      · rw [placeholdersAhead_slash (by simpa using opens),
          placeholdersAhead_code_cons]
        simp [next, opens, isCode]
  | quoted delimiter =>
      by_cases escape : c = '\\' ∧ delimiter ≠ '\x60'
      · obtain ⟨rfl, string⟩ := escape
        simp [placeholdersAhead, ahead, next, string, isCode]
      · by_cases closing : c = delimiter
        · subst closing
          rw [placeholdersAhead_closing proper]
          simp [next, escape, isCode]
        · rw [placeholdersAhead, ahead, cutQuoted_other _ closing]
          · simp [placeholdersAhead, ahead, next, escape, closing, isCode]
          · simpa [and_comm] using escape
  | escaped delimiter =>
      rw [placeholdersAhead, ahead, cutQuoted_escaped]
      simp [placeholdersAhead, ahead, next, isCode, proper.2]
  | lineComment =>
      by_cases newline : c = '\n'
      · simp [placeholdersAhead, ahead, next, newline, cutBehind, isCode]
      · have notNewline : '\n' ≠ c := Ne.symm newline
        simp [placeholdersAhead, ahead, next, newline, notNewline, cutBehind,
          isCode]
  | blockComment =>
      by_cases star : c = '*'
      · simp [placeholdersAhead, ahead, next, star, isCode]
      · have notStar : '*' ≠ c := Ne.symm star
        simp [placeholdersAhead, ahead, next, star, notStar, cutBehind, isCode]
  | blockStar =>
      by_cases slash : c = '/'
      · simp [placeholdersAhead, ahead, next, slash, cutBehind, isCode]
      · have notSlash : '/' ≠ c := Ne.symm slash
        by_cases star : c = '*'
        · simp [placeholdersAhead, ahead, next, star, cutBehind, isCode]
        · have notStar : '*' ≠ c := Ne.symm star
          simp [placeholdersAhead, ahead, next, slash, star, notSlash, notStar,
            cutBehind, isCode]

end Mode

/-- The scan finds the question marks that are tokens of their own. -/
theorem found_run (mode : Mode) (proper : mode.Proper) (text : List Char)
    (found : Nat) :
    (Scan.run ⟨mode, found⟩ text).found =
      found + mode.placeholdersAhead text := by
  induction text generalizing mode found with
  | nil => rw [Mode.placeholdersAhead_nil, Scan.run_nil, Nat.add_zero]
  | cons c text ih =>
      rw [Scan.run_cons, Scan.step, ih _ (Mode.next_proper proper c),
        Mode.placeholdersAhead_cons proper]
      dsimp only
      split_ifs <;> omega

end BulkWrite.Query
