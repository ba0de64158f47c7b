import BulkWrite.Proofs.Tokens

/-!
Placeholders in the UTF-8 form of a text. The scan of octets looks one octet
ahead where the scan of characters remembers, and behind a backslash it skips
one octet, be it only the first of its character. All marks are ASCII, so no
octet inside another character is taken for one.
-/

namespace BulkWrite.Query

namespace OctetScan

/-- The octet of an ASCII character. -/
def octet (c : Char) : UInt8 := UInt8.ofNat c.toNat

inductive State where
  | code
  | quoted (delimiter : UInt8)
  | lineComment
  | blockComment
deriving DecidableEq

def opensQuote (b : UInt8) : Bool :=
  b == octet '\'' || b == octet '"' || b == octet '\x60'

def countFrom : State → List UInt8 → Nat
  | _, [] => 0
  | .code, b :: rest =>
      if b = octet '?' then countFrom .code rest + 1
      else if opensQuote b then countFrom (.quoted b) rest
      else if b = octet '-' ∧ rest.head? = some (octet '-') then
        countFrom .lineComment rest.tail
      else if b = octet '#' then countFrom .lineComment rest
      else if b = octet '/' ∧ rest.head? = some (octet '*') then
        countFrom .blockComment rest.tail
      else countFrom .code rest
  | .quoted delimiter, b :: rest =>
      if b = octet '\\' ∧ delimiter ≠ octet '\x60' then
        countFrom (.quoted delimiter) rest.tail
      else if b = delimiter then countFrom .code rest
      else countFrom (.quoted delimiter) rest
  | .lineComment, b :: rest =>
      if b = octet '\n' then countFrom .code rest
      else countFrom .lineComment rest
  | .blockComment, b :: rest =>
      if b = octet '*' ∧ rest.head? = some (octet '/') then
        countFrom .code rest.tail
      else countFrom .blockComment rest
termination_by _ octets => octets.length
decreasing_by all_goals simp only [List.length_cons, List.length_tail]; omega

def countPlaceholders (octets : List UInt8) : Nat := countFrom .code octets

theorem toNat_octet {c : Char} (ascii : c.toNat < 128) :
    (octet c).toNat = c.toNat := by
  rw [octet, UInt8.toNat_ofNat']
  omega

theorem octet_inj {c d : Char} (first : c.toNat < 128)
    (second : d.toNat < 128) :
    octet c = octet d ↔ c = d := by
  rw [← UInt8.toNat_inj, toNat_octet first, toNat_octet second, Char.toNat_inj]

theorem utf8EncodeChar_of_ascii {c : Char} (ascii : c.toNat < 128) :
    String.utf8EncodeChar c = [octet c] :=
  if_pos (Nat.le_of_lt_succ ascii)

theorem high_of_mem_utf8EncodeChar {c : Char} (wide : 128 ≤ c.toNat) {b : UInt8}
    (member : b ∈ String.utf8EncodeChar c) : 128 ≤ b.toNat := by
  have high (n shift : Nat) (less : n + shift < 256) (large : 128 ≤ shift) :
      128 ≤ (UInt8.ofNat (n + shift)).toNat := by
    rw [UInt8.toNat_ofNat']
    omega
  have large : ¬ c.val.toNat ≤ 127 := Nat.not_le.mpr wide
  simp only [String.utf8EncodeChar, if_neg large] at member
  split_ifs at member
  · simp only [List.mem_cons, List.not_mem_nil, or_false] at member
    rcases member with rfl | rfl <;> exact high _ _ (by omega) (by omega)
  · simp only [List.mem_cons, List.not_mem_nil, or_false] at member
    rcases member with rfl | rfl | rfl <;> exact high _ _ (by omega) (by omega)
  · simp only [List.mem_cons, List.not_mem_nil, or_false] at member
    rcases member with rfl | rfl | rfl | rfl <;>
      exact high _ _ (by omega) (by omega)

theorem ne_octet_of_high {b : UInt8} {c : Char} (high : 128 ≤ b.toNat)
    (ascii : c.toNat < 128) :
    b ≠ octet c := by
  rintro rfl
  rw [toNat_octet ascii] at high
  omega

theorem ne_of_wide {c d : Char} (wide : 128 ≤ c.toNat) (ascii : d.toNat < 128) :
    c ≠ d := by
  rintro rfl
  omega

theorem head?_utf8EncodeChar_append {c d : Char} (ascii : d.toNat < 128)
    (octets : List UInt8) :
    (String.utf8EncodeChar c ++ octets).head? = some (octet d) ↔ c = d := by
  by_cases small : c.toNat < 128
  · rw [utf8EncodeChar_of_ascii small, List.singleton_append, List.head?_cons,
      Option.some_inj, octet_inj small ascii]
  · obtain ⟨b, rest, isOctets⟩ :=
      List.exists_cons_of_ne_nil (String.utf8EncodeChar_ne_nil (c := c))
    have high : 128 ≤ b.toNat := by
      apply high_of_mem_utf8EncodeChar (c := c) (Nat.le_of_not_lt small)
      rw [isOctets]
      exact List.mem_cons_self
    rw [isOctets, List.cons_append, List.head?_cons, Option.some_inj]
    exact iff_of_false (ne_octet_of_high high ascii)
      (ne_of_wide (Nat.le_of_not_lt small) ascii)

theorem toUTF8_eq_flatMap (text : String) :
    text.toUTF8.data.toList = text.toList.flatMap String.utf8EncodeChar := by
  have encoded : text.toUTF8 =
      (text.toList.flatMap String.utf8EncodeChar).toByteArray := by
    rw [String.toUTF8_eq_toByteArray, ← String.utf8Encode_toList]
    rfl
  rw [encoded, List.toList_data_toByteArray]

/-- Behind its first octet a character has no octet that means anything. -/
theorem exists_utf8EncodeChar (c : Char) :
    ∃ b rest, String.utf8EncodeChar c = b :: rest ∧
      ∀ other ∈ rest, 128 ≤ other.toNat := by
  obtain ⟨b, rest, octets⟩ :=
    List.exists_cons_of_ne_nil String.utf8EncodeChar_ne_nil
  refine ⟨b, rest, octets, ?_⟩
  by_cases ascii : c.toNat < 128
  · rw [utf8EncodeChar_of_ascii ascii] at octets
    obtain ⟨-, rfl⟩ := List.cons.inj octets
    simp
  · intro other member
    apply high_of_mem_utf8EncodeChar (Nat.le_of_not_lt ascii)
    rw [octets]
    exact List.mem_cons_of_mem b member

/-- A quote has an ASCII delimiter. -/
def State.Proper : State → Prop
  | .quoted delimiter => delimiter.toNat < 128
  | _ => True

theorem countFrom_high {state : State} (proper : state.Proper)
    {octets : List UInt8} (high : ∀ b ∈ octets, 128 ≤ b.toNat)
    (rest : List UInt8) :
    countFrom state (octets ++ rest) = countFrom state rest := by
  induction octets with
  | nil => rfl
  | cons b octets ih =>
      have inside := ih fun other member =>
        high other (List.mem_cons_of_mem b member)
      have other (c : Char) (ascii : c.toNat < 128) : b ≠ octet c :=
        ne_octet_of_high (high b List.mem_cons_self) ascii
      cases state with
      | code =>
          rw [List.cons_append, countFrom]
          simpa [opensQuote, other] using inside
      | quoted delimiter =>
          have notDelimiter : b ≠ delimiter := by
            rintro rfl
            exact absurd (high b List.mem_cons_self) (Nat.not_le.mpr proper)
          rw [List.cons_append, countFrom]
          simpa [other, notDelimiter] using inside
      | lineComment =>
          rw [List.cons_append, countFrom]
          simpa [other] using inside
      | blockComment =>
          rw [List.cons_append, countFrom]
          simpa [other] using inside

end OctetScan

namespace Mode

open OctetScan

def state : Mode → State
  | .code => .code
  | .dash => .code
  | .slash => .code
  | .quoted delimiter => .quoted (octet delimiter)
  | .escaped delimiter => .quoted (octet delimiter)
  | .lineComment => .lineComment
  | .blockComment => .blockComment
  | .blockStar => .blockComment

/-- What a mode remembers is what the scan of octets has yet to read. -/
def pending : Mode → List UInt8
  | .code => []
  | .dash => [octet '-']
  | .slash => [octet '/']
  | .quoted _ => []
  | .escaped _ => [octet '\\']
  | .lineComment => []
  | .blockComment => []
  | .blockStar => [octet '*']

def octetsAhead (mode : Mode) (octets : List UInt8) : Nat :=
  countFrom mode.state (mode.pending ++ octets)

variable {mode : Mode} {delimiter c : Char} {octets : List UInt8}

theorem ascii_of_opensQuote (opens : opensQuote delimiter = true) :
    delimiter.toNat < 128 := by
  simp only [opensQuote, Bool.or_eq_true, beq_iff_eq] at opens
  rcases opens with (rfl | rfl) | rfl <;> decide

theorem opensQuote_octet (ascii : c.toNat < 128) :
    OctetScan.opensQuote (octet c) = opensQuote c := by
  rw [Bool.eq_iff_iff]
  simp [OctetScan.opensQuote, opensQuote, octet_inj ascii]

theorem octetsAhead_nil (mode : Mode) : mode.octetsAhead [] = 0 := by
  cases mode <;> simp [octetsAhead, state, pending, countFrom,
    OctetScan.opensQuote, octet_inj]

theorem state_proper (proper : mode.Proper) : mode.state.Proper := by
  cases mode with
  | quoted delimiter =>
      have ascii := ascii_of_opensQuote proper
      rwa [state, State.Proper, toNat_octet ascii]
  | escaped delimiter =>
      have ascii := ascii_of_opensQuote proper.1
      rwa [state, State.Proper, toNat_octet ascii]
  | _ => trivial

/-- A character that is not ASCII changes nothing in a mode that remembers
nothing. -/
theorem octetsAhead_of_wide (mode : Mode) (proper : mode.Proper)
    (settled : mode.pending = []) (wide : 128 ≤ c.toNat) :
    mode.octetsAhead (String.utf8EncodeChar c ++ octets) =
      mode.octetsAhead octets := by
  rw [octetsAhead, octetsAhead, settled]
  exact countFrom_high (state_proper proper)
    (fun _ => high_of_mem_utf8EncodeChar wide) octets

theorem octetsAhead_code_of_ascii {c : Char} (ascii : c.toNat < 128)
    (octets : List UInt8) :
    code.octetsAhead (octet c :: octets) =
      (ofCode c).octetsAhead octets + if c = '?' then 1 else 0 := by
  have same (d : Char) (small : d.toNat < 128) : octet c = octet d ↔ c = d :=
    octet_inj ascii small
  by_cases remembered : c = '-' ∨ c = '/'
  · rcases remembered with rfl | rfl
    · rfl
    · rfl
  · rw [not_or] at remembered
    simp only [octetsAhead, ofCode, remembered.1, remembered.2, if_false]
    by_cases opens : opensQuote c = true
    · have mark : c ≠ '?' := by
        rintro rfl
        exact absurd opens (by decide)
      simp [state, pending, countFrom, opensQuote_octet ascii, same, opens,
        mark]
    · by_cases hash : c = '#'
      · subst hash
        simp [state, pending, countFrom, opensQuote_octet, opensQuote, same]
      · by_cases mark : c = '?'
        · subst mark
          simp [state, pending, countFrom, opensQuote]
        · simp [state, pending, countFrom, opensQuote_octet ascii, same, opens,
            hash, mark, remembered]

theorem octetsAhead_code (c : Char) (octets : List UInt8) :
    code.octetsAhead (String.utf8EncodeChar c ++ octets) =
      (ofCode c).octetsAhead octets + if c = '?' then 1 else 0 := by
  by_cases ascii : c.toNat < 128
  · rw [utf8EncodeChar_of_ascii ascii]
    exact octetsAhead_code_of_ascii ascii octets
  · have wide : 128 ≤ c.toNat := Nat.le_of_not_lt ascii
    have settled : ofCode c = code := by
      simp [ofCode, opensQuote, ne_of_wide wide]
    rw [octetsAhead_of_wide code trivial rfl wide, settled,
      if_neg (ne_of_wide wide (by decide))]
    rfl

theorem octetsAhead_dash (alone : octets.head? ≠ some (octet '-')) :
    dash.octetsAhead octets = code.octetsAhead octets := by
  simp [octetsAhead, state, pending, countFrom, OctetScan.opensQuote, octet_inj,
    alone]

theorem octetsAhead_slash (alone : octets.head? ≠ some (octet '*')) :
    slash.octetsAhead octets = code.octetsAhead octets := by
  simp [octetsAhead, state, pending, countFrom, OctetScan.opensQuote, octet_inj,
    alone]

theorem octetsAhead_blockStar (alone : octets.head? ≠ some (octet '/')) :
    blockStar.octetsAhead octets = blockComment.octetsAhead octets := by
  simp [octetsAhead, state, pending, countFrom, alone]

theorem octetsAhead_quoted (opens : opensQuote delimiter = true) (c : Char)
    (octets : List UInt8) :
    (quoted delimiter).octetsAhead (String.utf8EncodeChar c ++ octets) =
      ((quoted delimiter).next c).octetsAhead octets := by
  have small : delimiter.toNat < 128 := ascii_of_opensQuote opens
  by_cases ascii : c.toNat < 128
  · rw [utf8EncodeChar_of_ascii ascii]
    by_cases escape : c = '\\' ∧ delimiter ≠ '\x60'
    · obtain ⟨rfl, string⟩ := escape
      simp [octetsAhead, state, pending, next, string]
    · have sameEscape :
          ¬ (octet c = octet '\\' ∧ octet delimiter ≠ octet '\x60') := by
        rwa [octet_inj ascii (by decide), Ne, octet_inj small (by decide)]
      change countFrom (.quoted (octet delimiter)) (octet c :: octets) = _
      rw [next, if_neg escape, countFrom, if_neg sameEscape]
      by_cases closing : c = delimiter
      · simp [closing, octetsAhead, state, pending]
      · simp [closing, octet_inj ascii small, octetsAhead, state, pending]
  · have wide : 128 ≤ c.toNat := Nat.le_of_not_lt ascii
    rw [octetsAhead_of_wide (quoted delimiter) opens rfl wide, next, if_neg,
      if_neg (ne_of_wide wide small)]
    exact fun escape => ne_of_wide wide (by decide) escape.1

theorem octetsAhead_lineComment (c : Char) (octets : List UInt8) :
    lineComment.octetsAhead (String.utf8EncodeChar c ++ octets) =
      (lineComment.next c).octetsAhead octets := by
  by_cases ascii : c.toNat < 128
  · rw [utf8EncodeChar_of_ascii ascii]
    by_cases newline : c = '\n'
    · simp [octetsAhead, state, pending, next, newline, countFrom]
    · simp [octetsAhead, state, pending, next, newline, countFrom,
        octet_inj ascii]
  · have wide : 128 ≤ c.toNat := Nat.le_of_not_lt ascii
    rw [octetsAhead_of_wide lineComment trivial rfl wide, next,
      if_neg (ne_of_wide wide (by decide))]

theorem octetsAhead_blockComment (c : Char) (octets : List UInt8) :
    blockComment.octetsAhead (String.utf8EncodeChar c ++ octets) =
      (blockComment.next c).octetsAhead octets := by
  by_cases ascii : c.toNat < 128
  · rw [utf8EncodeChar_of_ascii ascii]
    by_cases star : c = '*'
    · simp [octetsAhead, state, pending, next, star]
    · simp [octetsAhead, state, pending, next, star, countFrom, octet_inj ascii]
  · have wide : 128 ≤ c.toNat := Nat.le_of_not_lt ascii
    rw [octetsAhead_of_wide blockComment trivial rfl wide, next,
      if_neg (ne_of_wide wide (by decide))]

/-- One step of the scan. -/
theorem octetsAhead_utf8EncodeChar (proper : mode.Proper) (c : Char)
    (octets : List UInt8) :
    mode.octetsAhead (String.utf8EncodeChar c ++ octets) =
      (mode.next c).octetsAhead octets + if mode.isCode && c == '?' then 1
        else 0 := by
  cases mode with
  | code => simpa [next, isCode] using octetsAhead_code c octets
  | dash =>
      by_cases again : c = '-'
      · subst again
        simp [octetsAhead, state, pending, next, utf8EncodeChar_of_ascii,
          countFrom, OctetScan.opensQuote, octet_inj]
      · rw [octetsAhead_dash, octetsAhead_code]
        · simp [next, again, isCode]
        · rwa [Ne, head?_utf8EncodeChar_append (by decide)]
  | slash =>
      by_cases opens : c = '*'
      · subst opens
        simp [octetsAhead, state, pending, next, utf8EncodeChar_of_ascii,
          countFrom, OctetScan.opensQuote, octet_inj]
      · rw [octetsAhead_slash, octetsAhead_code]
        · simp [next, opens, isCode]
        · rwa [Ne, head?_utf8EncodeChar_append (by decide)]
  | quoted delimiter => exact octetsAhead_quoted proper c octets
  | escaped delimiter =>
      obtain ⟨b, rest, isOctets, high⟩ := exists_utf8EncodeChar c
      have skipped := countFrom_high (state_proper proper) high octets
      have string : octet delimiter ≠ octet '\x60' := by
        rw [Ne, octet_inj (ascii_of_opensQuote proper.1) (by decide)]
        exact proper.2
      simpa [isOctets, octetsAhead, state, pending, countFrom, string, next,
        isCode] using skipped
  | lineComment => exact octetsAhead_lineComment c octets
  | blockComment => exact octetsAhead_blockComment c octets
  | blockStar =>
      by_cases slash : c = '/'
      · subst slash
        simp [octetsAhead, state, pending, next, utf8EncodeChar_of_ascii,
          countFrom, isCode]
      · rw [octetsAhead_blockStar, octetsAhead_blockComment]
        · simp [next, slash, isCode]
        · rwa [Ne, head?_utf8EncodeChar_append (by decide)]

end Mode

theorem found_run_octets (mode : Mode) (proper : mode.Proper) (text : List Char)
    (found : Nat) :
    (Scan.run ⟨mode, found⟩ text).found =
      found + mode.octetsAhead (text.flatMap String.utf8EncodeChar) := by
  induction text generalizing mode found with
  | nil =>
      rw [List.flatMap_nil, Mode.octetsAhead_nil, Scan.run_nil, Nat.add_zero]
  | cons c text ih =>
      rw [Scan.run_cons, Scan.step, ih _ (Mode.next_proper proper c),
        List.flatMap_cons, Mode.octetsAhead_utf8EncodeChar proper]
      dsimp only
      split_ifs <;> omega

/-- The placeholders of a text are the question marks that are tokens of their
own, and a scan of its UTF-8 form finds them as well. The tokens joined are the
text. -/
theorem countPlaceholders_eq_count_tokens (text : String) :
    (tokens text.toList).flatMap Token.chars = text.toList ∧
      countPlaceholders text.toList = (tokens text.toList).count (.single '?') ∧
        OctetScan.countPlaceholders text.toUTF8.data.toList =
          countPlaceholders text.toList := by
  refine ⟨flatMap_chars_tokens text.toList, ?_, ?_⟩
  · exact (found_run .code trivial text.toList 0).trans (Nat.zero_add _)
  · rw [OctetScan.toUTF8_eq_flatMap]
    exact ((found_run_octets .code trivial text.toList 0).trans
      (Nat.zero_add _)).symm

end BulkWrite.Query
