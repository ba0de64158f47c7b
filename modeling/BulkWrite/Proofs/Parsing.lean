import BulkWrite.Proofs.Grammar
import Mathlib.Data.List.DropRight

/-!
Reading accepts the grammar of JSON: of every text that spells a document,
readers give that document, and leave what follows it. A number alone does not
show its end, so it has to be followed by a blank, a comma or a closing bracket,
or by nothing.
-/

namespace BulkWrite.Json

section

variable {before s rest : List Char}

theorem skipBlanks_append (blank : Blank before) (s : List Char) :
    skipBlanks (before ++ s) = skipBlanks s := by
  induction before with
  | nil => rfl
  | cons c before ih =>
      obtain ⟨first, others⟩ := List.forall_mem_cons.mp blank
      rw [List.cons_append, skipBlanks, List.dropWhile_cons_of_pos first]
      exact ih others

theorem skipBlanks_cons {c : Char} (noBlank : isBlank c = false)
    (s : List Char) :
    skipBlanks (c :: s) = c :: s := by
  rw [skipBlanks, List.dropWhile_cons_of_neg]
  rw [noBlank]
  exact Bool.false_ne_true

/-- The characters that may follow a value. -/
def endsValue (c : Char) : Bool :=
  isBlank c || c == ',' || c == ']' || c == '\x7d'

/-- What may follow a value. -/
def Ends (rest : List Char) : Prop := ∀ c ∈ rest.head?, endsValue c = true

theorem ends_nil : Ends [] := by
  intro c member
  cases member

theorem ends_cons {c : Char} (ending : endsValue c = true) (rest : List Char) :
    Ends (c :: rest) := by
  intro other member
  obtain rfl := Option.some.inj member
  exact ending

theorem Ends.blank_append (ends : Ends rest) (blank : Blank s) :
    Ends (s ++ rest) := by
  cases s with
  | nil => exact ends
  | cons c s =>
      apply ends_cons
      simp [endsValue, blank c List.mem_cons_self]

/-- A character that may begin a value, or a member. -/
def Starts (s : List Char) : Prop := ∃ c t, s = c :: t ∧ endsValue c = false

end

theorem unescape?_of_mem_escapes :
    ∀ escape ∈ escapes, escape.1 ≠ 'u' ∧
      unescape? escape.1 = some escape.2 := by
  decide

theorem readString_piece {piece : StringPiece} {s : List Char}
    (spelled : SpellsPiece piece s) (rest : List Char) :
    readString (s ++ rest) = (readString rest).map fun read =>
      (piece :: read.1, read.2) := by
  cases spelled with
  | @plain c printable noQuote noBackslash =>
      have allowed : ¬ (c = '\\' ∨ c.toNat < 32) := by
        rintro (backslash | control)
        · exact noBackslash backslash
        · exact Nat.not_le.mpr control printable
      rw [List.singleton_append, readString, if_neg allowed]
      · rfl
      · exact noQuote
      · exact fun _ _ _ _ _ backslash => absurd backslash noBackslash
      · exact fun _ _ backslash => absurd backslash noBackslash
  | @escaped letter c listed =>
      obtain ⟨noUnit, stands⟩ := unescape?_of_mem_escapes _ listed
      rw [List.cons_append, List.singleton_append, readString, stands]
      · rfl
      · exact fun _ _ _ _ _ unit => absurd unit noUnit
  | unit digits =>
      rw [List.cons_append, List.cons_append, List.cons_append,
        List.cons_append, List.cons_append, List.singleton_append, readString,
        digits]
      rfl

theorem readString_pieces {text : StringText} {s : List Char}
    (spelled : SpellsPieces text s) (rest : List Char) :
    readString (s ++ '"' :: rest) = some (text, rest) := by
  induction spelled with
  | nil => rw [List.nil_append, readString]
  | cons first _ ih =>
      rw [List.append_assoc, readString_piece first, ih]
      rfl

/-- What follows a row of digits. -/
def NoDigit (rest : List Char) : Prop :=
  ∀ c ∈ rest.head?, Text.isDigit c = false

theorem readDigits_append {digits rest : List Char} (written : Digits digits)
    (noDigit : NoDigit rest) :
    readDigits (digits ++ rest) = some (digits, rest) := by
  have others : rest.takeWhile Text.isDigit = [] ∧
      rest.dropWhile Text.isDigit = rest := by
    cases rest with
    | nil => exact ⟨rfl, rfl⟩
    | cons c rest =>
        have other : ¬ Text.isDigit c = true := by
          rw [noDigit c rfl]
          exact Bool.false_ne_true
        exact ⟨List.takeWhile_cons_of_neg other,
          List.dropWhile_cons_of_neg other⟩
  have taken : (digits ++ rest).takeWhile Text.isDigit = digits := by
    rw [List.takeWhile_append_of_pos written.digit, others.1, List.append_nil]
  have left : (digits ++ rest).dropWhile Text.isDigit = rest := by
    rw [List.dropWhile_append_of_pos written.digit, others.2]
  rw [readDigits, taken, left]
  simp [written.nonempty]

theorem readPart_append {digits part rest : List Char}
    (spelled : SpellsPart digits part) (noDigit : NoDigit rest)
    (noPoint : ∀ c ∈ rest.head?, c ≠ '.') :
    readPart (part ++ rest) = some (digits, rest) := by
  cases spelled with
  | present written =>
      rw [List.cons_append, readPart]
      exact readDigits_append written noDigit
  | absent =>
      rw [List.nil_append, readPart]
      intro behind same
      subst same
      exact noPoint '.' rfl rfl

theorem Digits.exists_cons {s : List Char} (written : Digits s) :
    ∃ c rest, s = c :: rest ∧ Text.isDigit c = true := by
  obtain ⟨c, rest, rfl⟩ := List.exists_cons_of_ne_nil written.nonempty
  exact ⟨c, rest, rfl, written.digit c List.mem_cons_self⟩

theorem readExponent_append {exponent : Option ExponentText}
    {s rest : List Char} (spelled : SpellsExponent exponent s)
    (noDigit : NoDigit rest)
    (noMark : ∀ c ∈ rest.head?, ¬ (c = 'e' ∨ c = 'E')) :
    readExponent (s ++ rest) = some (exponent, rest) := by
  cases spelled with
  | absent =>
      cases rest with
      | nil => rfl
      | cons c rest => exact if_neg (noMark c rfl)
  | unsigned marks written =>
      have read := readDigits_append written noDigit
      obtain ⟨c, others, rfl, digit⟩ := written.exists_cons
      rw [List.cons_append] at read
      rw [List.cons_append, List.cons_append, readExponent, if_pos marks]
      · simp only [read]
        rfl
      · rintro behind same
        obtain ⟨rfl, -⟩ := List.cons_eq_cons.mp same
        cases digit
      · rintro behind same
        obtain ⟨rfl, -⟩ := List.cons_eq_cons.mp same
        cases digit
  | positive marks written =>
      rw [List.cons_append, List.cons_append, readExponent, if_pos marks]
      simp only [readDigits_append written noDigit]
      rfl
  | negative marks written =>
      rw [List.cons_append, List.cons_append, readExponent, if_pos marks]
      simp only [readDigits_append written noDigit]
      rfl

theorem plain_of_endsValue {c : Char} (ending : endsValue c = true) :
    Text.isDigit c = false ∧ c ≠ '.' ∧ ¬ (c = 'e' ∨ c = 'E') := by
  have listed : c = ' ' ∨ c = '\n' ∨ c = '\t' ∨ c = '\r' ∨ c = ',' ∨ c = ']' ∨
      c = '\x7d' := by
    simpa [endsValue, isBlank, or_assoc] using ending
  rcases listed with rfl | rfl | rfl | rfl | rfl | rfl | rfl <;> decide

theorem plain_of_mark {c : Char} (marks : c = 'e' ∨ c = 'E') :
    Text.isDigit c = false ∧ c ≠ '.' := by
  rcases marks with rfl | rfl <;> decide

/-- Neither an exponent nor what follows a number goes on with a digit or a
point. -/
theorem SpellsExponent.plain_append {exponent : Option ExponentText}
    {s rest : List Char} (spelled : SpellsExponent exponent s)
    (ends : Ends rest) :
    ∀ c ∈ (s ++ rest).head?, Text.isDigit c = false ∧ c ≠ '.' := by
  intro c head
  cases spelled with
  | absent =>
      obtain ⟨noDigit, noPoint, -⟩ := plain_of_endsValue (ends c head)
      exact ⟨noDigit, noPoint⟩
  | unsigned marks written =>
      obtain rfl := Option.some.inj head
      exact plain_of_mark marks
  | positive marks written =>
      obtain rfl := Option.some.inj head
      exact plain_of_mark marks
  | negative marks written =>
      obtain rfl := Option.some.inj head
      exact plain_of_mark marks

theorem SpellsPart.noDigit_append {digits part rest : List Char}
    (spelled : SpellsPart digits part) (noDigit : NoDigit rest) :
    NoDigit (part ++ rest) := by
  cases spelled with
  | absent => exact noDigit
  | present written =>
      intro c head
      obtain rfl := Option.some.inj head
      decide

theorem readNumber_append {text : NumberText} {s rest : List Char}
    (spelled : SpellsNumber text s) (ends : Ends rest) :
    readNumber (s ++ rest) = some (text, rest) := by
  obtain ⟨negative, whole, digits, exponent⟩ := text
  obtain @⟨part, scale, wholeDigits, zero, behindPoint, scaled⟩ := spelled
  dsimp only at wholeDigits zero behindPoint scaled ⊢
  have plain := scaled.plain_append ends
  have noDigit : NoDigit (scale ++ rest) := fun c head => (plain c head).1
  have wholeRead := readDigits_append wholeDigits
    (behindPoint.noDigit_append noDigit)
  have partRead := readPart_append behindPoint noDigit fun c head =>
    (plain c head).2
  have exponentRead := readExponent_append scaled
    (fun c head => (plain_of_endsValue (ends c head)).1)
    fun c head => (plain_of_endsValue (ends c head)).2.2
  have alone : ¬ (1 < whole.length ∧ whole.head? = some '0') := by
    rintro ⟨long, leading⟩
    rw [zero leading] at long
    exact absurd long (Nat.lt_irrefl 1)
  rw [List.append_assoc, List.append_assoc, List.append_assoc]
  cases negative with
  | true =>
      simp [signChars, readNumber, wholeRead, partRead, exponentRead, alone]
  | false =>
      obtain ⟨c, others, rfl, digit⟩ := wholeDigits.exists_cons
      have noSign : c ≠ '-' := by
        rintro rfl
        cases digit
      rw [List.cons_append] at wholeRead
      simpa [signChars, readNumber, noSign, wholeRead, partRead,
        exponentRead] using alone

theorem skipBlanks_skipBlanks (s : List Char) :
    skipBlanks (skipBlanks s) = skipBlanks s :=
  List.dropWhile_idempotent _ s

theorem Starts.skipBlanks_eq {s : List Char} (starts : Starts s) :
    skipBlanks s = s := by
  obtain ⟨c, t, rfl, noEnd⟩ := starts
  apply skipBlanks_cons
  rw [endsValue, Bool.or_eq_false_iff, Bool.or_eq_false_iff,
    Bool.or_eq_false_iff] at noEnd
  exact noEnd.1.1.1

theorem Starts.skipBlanks_append {s : List Char}
    (starts : Starts (skipBlanks s)) (rest : List Char) :
    skipBlanks (s ++ rest) = skipBlanks s ++ rest := by
  obtain ⟨c, t, same, -⟩ := starts
  have filled : (s.dropWhile isBlank).isEmpty = false := by
    rw [← skipBlanks, same]
    rfl
  rw [skipBlanks, List.dropWhile_append, if_neg (by simp [filled]), skipBlanks]

theorem Starts.append {s : List Char} (starts : Starts s) (rest : List Char) :
    Starts (s ++ rest) := by
  obtain ⟨c, t, rfl, noEnd⟩ := starts
  exact ⟨c, t ++ rest, rfl, noEnd⟩

section

variable {α : Type} {item : Reader α} {spells : α → List Char → Prop}
    {bound : Nat}

/-- The reader takes an item off the front of a text, if it is spelled in so
many characters. -/
structure Accepts (item : Reader α) (spells : α → List Char → Prop)
    (bound : Nat) : Prop where
  skips : ∀ s, item (skipBlanks s) = item s
  starts : ∀ {x s}, spells x s → Starts (skipBlanks s)
  reads : ∀ {x s rest}, spells x s → s.length ≤ bound → Ends rest →
    ∃ left, item (s ++ rest) = some (x, left) ∧
      skipBlanks left = skipBlanks rest

theorem Separated.starts (accepts : Accepts item spells bound) {items : List α}
    {s : List Char} (written : Separated spells items s) :
    Starts (skipBlanks s) := by
  cases written with
  | last written => exact accepts.starts written
  | more written rest =>
      rw [(accepts.starts written).skipBlanks_append]
      exact (accepts.starts written).append _

theorem Separated.length_le (accepts : Accepts item spells bound)
    {items : List α} {s : List Char} (written : Separated spells items s) :
    items.length ≤ (skipBlanks s).length := by
  have pos {x : α} {s : List Char} (written : spells x s) :
      0 < (skipBlanks s).length := by
    obtain ⟨c, t, same, -⟩ := accepts.starts written
    rw [same]
    exact Nat.succ_pos _
  induction written with
  | last written => exact pos written
  | @more x s items t written rest ih =>
      rw [(accepts.starts written).skipBlanks_append, List.length_append,
        List.length_cons, List.length_cons]
      have shorter : (skipBlanks t).length ≤ t.length :=
        List.length_dropWhile_le _ t
      have := pos written
      omega

theorem Accepts.readItems_skipBlanks (accepts : Accepts item spells bound)
    (close : Char) (fuel : Nat) (s : List Char) :
    readItems item close fuel (skipBlanks s) = readItems item close fuel s := by
  cases fuel with
  | zero => rfl
  | succ fuel => rw [readItems, readItems, accepts.skips]

theorem readItems_append (accepts : Accepts item spells bound) {close : Char}
    (closes : close = ']' ∨ close = '\x7d') {items : List α} {s : List Char}
    (written : Separated spells items s) {fuel : Nat}
    (enough : items.length ≤ fuel) (short : s.length ≤ bound)
    (rest : List Char) :
    readItems item close fuel (s ++ close :: rest) = some (items, rest) := by
  have closing : isBlank close = false ∧ endsValue close = true ∧
      close ≠ ',' := by
    rcases closes with rfl | rfl <;> decide
  obtain ⟨noBlank, ends, noComma⟩ := closing
  induction written generalizing fuel with
  | last written =>
      obtain ⟨fuel, rfl⟩ :=
        Nat.exists_eq_add_one_of_ne_zero (Nat.ne_of_gt enough)
      obtain ⟨left, read, skipped⟩ :=
        accepts.reads written short (ends_cons ends rest)
      rw [skipBlanks_cons noBlank] at skipped
      simp [readItems, read, skipped]
  | @more x s items t written more ih =>
      obtain ⟨fuel, rfl⟩ := Nat.exists_eq_add_one_of_ne_zero
        (Nat.ne_of_gt (Nat.zero_lt_of_lt enough))
      rw [List.length_append, List.length_cons] at short
      rw [List.append_assoc, List.cons_append]
      obtain ⟨left, read, skipped⟩ := accepts.reads written (by omega)
        (ends_cons (c := ',') rfl (t ++ close :: rest))
      rw [skipBlanks_cons rfl] at skipped
      have further := ih (Nat.le_of_succ_le_succ enough) (by omega)
      simp [readItems, read, skipped, further]
      rfl

theorem readEnclosed_append (accepts : Accepts item spells bound) {close : Char}
    (closes : close = ']' ∨ close = '\x7d') {items : List α} {s : List Char}
    (written : Enclosed spells items s) (short : s.length ≤ bound)
    (rest : List Char) :
    readEnclosed item close (s ++ close :: rest) = some (items, rest) := by
  have closing : isBlank close = false ∧ endsValue close = true := by
    rcases closes with rfl | rfl <;> decide
  obtain ⟨noBlank, ends⟩ := closing
  cases written with
  | empty blank =>
      rw [readEnclosed, skipBlanks_append blank, skipBlanks_cons noBlank]
      exact if_pos rfl
  | filled written =>
      have starts := written.starts accepts
      have skipped := starts.skipBlanks_append (close :: rest)
      have few := written.length_le accepts
      obtain ⟨c, t, begins, noEnd⟩ := starts
      rw [begins, List.cons_append] at skipped
      rw [begins, List.length_cons] at few
      have noClose : c ≠ close := by
        rintro rfl
        exact Bool.false_ne_true (noEnd.symm.trans ends)
      rw [readEnclosed, skipped]
      simp only [noClose, ↓reduceIte]
      rw [← skipped, accepts.readItems_skipBlanks]
      apply readItems_append accepts closes written _ short
      rw [List.length_append]
      omega

end

theorem readValue_skipBlanks (levels : Nat) (s : List Char) :
    readValue levels (skipBlanks s) = readValue levels s := by
  cases levels with
  | zero => rfl
  | succ levels => rw [readValue, readValue, skipBlanks_skipBlanks]

theorem readMember_skipBlanks {α : Type} (value : Reader α) (s : List Char) :
    readMember value (skipBlanks s) = readMember value s := by
  rw [readMember, readMember, skipBlanks_skipBlanks]

theorem SpellsString.starts {text : StringText} {s : List Char}
    (spelled : SpellsString text s) : Starts s := by
  obtain ⟨inside⟩ := spelled
  exact ⟨_, _, rfl, rfl⟩

theorem SpellsNumber.starts {text : NumberText} {s : List Char}
    (spelled : SpellsNumber text s) :
    ∃ c t, s = c :: t ∧ (c = '-' ∨ Text.isDigit c = true) := by
  obtain ⟨negative, whole, digits, exponent⟩ := text
  obtain @⟨part, scale, wholeDigits, -, -, -⟩ := spelled
  obtain ⟨c, others, rfl, digit⟩ := wholeDigits.exists_cons
  cases negative with
  | true => exact ⟨_, _, rfl, Or.inl rfl⟩
  | false => exact ⟨_, _, rfl, Or.inr digit⟩

theorem Layer.starts {inner : Document → List Char → Prop} {document : Document}
    {s : List Char} (spelled : Layer inner document s) : Starts s := by
  cases spelled with
  | null => exact ⟨_, _, rfl, rfl⟩
  | yes => exact ⟨_, _, rfl, rfl⟩
  | no => exact ⟨_, _, rfl, rfl⟩
  | number written =>
      obtain ⟨c, t, rfl, leading⟩ := written.starts
      refine ⟨c, t, rfl, Bool.eq_false_iff.mpr fun ending => ?_⟩
      rcases leading with rfl | digit
      · cases ending
      · exact Bool.false_ne_true
          ((plain_of_endsValue ending).1.symm.trans digit)
  | string written => exact written.starts
  | array inside => exact ⟨_, _, rfl, rfl⟩
  | object inside => exact ⟨_, _, rfl, rfl⟩

theorem Spells.starts {levels : Nat} {document : Document} {s : List Char}
    (spelled : Spells levels document s) : Starts s := by
  cases levels with
  | zero => exact spelled.elim
  | succ levels => exact Layer.starts spelled

theorem readString_append {text : StringText} {s : List Char}
    (spelled : SpellsString text s) (rest : List Char) :
    ∃ inside, s ++ rest = '"' :: inside ∧
      readString inside = some (text, rest) := by
  obtain ⟨pieces⟩ := spelled
  next inside =>
    refine ⟨inside ++ '"' :: rest, ?_, readString_pieces pieces rest⟩
    rw [List.append_assoc]
    rfl

theorem readValue_number {c : Char} (leading : c = '-' ∨ Text.isDigit c = true)
    (levels : Nat) (s : List Char) (starts : Starts (c :: s)) :
    readValue (levels + 1) (c :: s) =
      (readNumber (c :: s)).map fun (text, s) => (.number text, s) := by
  have other (special : Char) (noSign : special ≠ '-')
      (noDigit : Text.isDigit special = false) :
      c ≠ special := by
    rintro rfl
    rcases leading with sign | digit
    · exact noSign sign
    · exact Bool.false_ne_true (noDigit.symm.trans digit)
  rw [readValue, starts.skipBlanks_eq]
  split
  case h_7 => rfl
  all_goals
    next same =>
      obtain ⟨first, -⟩ := List.cons_eq_cons.mp same
      exact absurd first (other _ (by decide) (by decide))

section

variable {α : Type} {item : Reader α} {spells : α → List Char → Prop}
    {bound : Nat}

theorem Padded.starts {x : α} {s : List Char}
    (starts : ∀ {x s}, spells x s → Starts s) (spelled : Padded spells x s) :
    Starts (skipBlanks s) := by
  obtain ⟨blankBefore, written, -⟩ := spelled
  rw [List.append_assoc, skipBlanks_append blankBefore]
  have begins := (starts written).append
  rw [(begins _).skipBlanks_eq]
  exact begins _

theorem accepts_padded (skips : ∀ s, item (skipBlanks s) = item s)
    (starts : ∀ {x s}, spells x s → Starts s)
    (reads : ∀ {x s rest}, spells x s → s.length ≤ bound → Ends rest →
      item (s ++ rest) = some (x, rest)) :
          Accepts item (Padded spells) bound where
  skips := skips
  starts := Padded.starts starts
  reads {x s rest} spelled short ends := by
    obtain @⟨before, inside, after, blankBefore, written, blankAfter⟩ := spelled
    rw [List.length_append, List.length_append] at short
    refine ⟨after ++ rest, ?_, skipBlanks_append blankAfter rest⟩
    rw [← skips, List.append_assoc, List.append_assoc,
      skipBlanks_append blankBefore, skips]
    exact reads written (by omega) (ends.blank_append blankAfter)

theorem SpellsMember.starts {member : StringText × α} {s : List Char}
    (spelled : SpellsMember spells member s) :
    ∃ rest, skipBlanks s = '"' :: rest := by
  obtain ⟨named, -⟩ := spelled
  obtain ⟨blankBefore, ⟨-⟩, -⟩ := named
  rw [List.append_assoc, List.append_assoc, skipBlanks_append blankBefore]
  exact ⟨_, skipBlanks_cons rfl _⟩

theorem accepts_member (accepts : Accepts item (Padded spells) bound) :
    Accepts (readMember item) (SpellsMember spells) bound where
  skips := readMember_skipBlanks item
  starts spelled := by
    obtain ⟨rest, begins⟩ := spelled.starts
    exact ⟨_, _, begins, rfl⟩
  reads {member s rest} spelled short ends := by
    obtain @⟨name, x, s, t, named, written⟩ := spelled
    rw [List.length_append, List.length_cons] at short
    obtain ⟨left, read, skipped⟩ := accepts.reads written (by omega) ends
    obtain @⟨before, quoted, after, blankBefore, writtenName, blankAfter⟩ :=
      named
    obtain ⟨inside, begins, readName⟩ :=
      readString_append writtenName (after ++ ':' :: (t ++ rest))
    have skippedName :
        skipBlanks (before ++ (quoted ++ (after ++ ':' :: (t ++ rest)))) =
            '"' :: inside := by
      rw [skipBlanks_append blankBefore, begins]
      exact skipBlanks_cons rfl inside
    have skippedColon : skipBlanks (after ++ ':' :: (t ++ rest)) =
        ':' :: (t ++ rest) := by
      rw [skipBlanks_append blankAfter]
      exact skipBlanks_cons rfl _
    refine ⟨left, ?_, skipped⟩
    simp [readMember, skippedName, readName, skippedColon, read]

end

/-- Reading gives the document that a text spells, if it is granted as many
levels as the text has characters. -/
theorem readValue_append {levels bound : Nat} {document : Document}
    {s rest : List Char} (spelled : Spells levels document s)
    (short : s.length ≤ bound) (ends : Ends rest) :
    readValue bound (s ++ rest) = some (document, rest) := by
  induction levels generalizing bound document s rest with
  | zero => exact spelled.elim
  | succ levels ih =>
      have starts := spelled.starts
      obtain ⟨bound, rfl⟩ : ∃ less, bound = less + 1 := by
        obtain ⟨c, t, rfl, -⟩ := starts
        rw [List.length_cons] at short
        exact Nat.exists_eq_add_one_of_ne_zero (by omega)
      have accepts : Accepts (readValue bound) (Padded (Spells levels)) bound :=
        accepts_padded (readValue_skipBlanks bound) Spells.starts ih
      have begins := (starts.append rest).skipBlanks_eq
      cases spelled with
      | null => rw [readValue, begins]; rfl
      | yes => rw [readValue, begins]; rfl
      | no => rw [readValue, begins]; rfl
      | number written =>
          have read := readNumber_append written ends
          obtain ⟨c, t, rfl, leading⟩ := written.starts
          have more : Starts (c :: (t ++ rest)) := starts.append rest
          rw [List.cons_append] at read ⊢
          rw [readValue_number leading bound _ more, read]
          rfl
      | string written =>
          obtain ⟨inside, opened, read⟩ := readString_append written rest
          rw [opened] at begins ⊢
          simp [readValue, begins, read]
      | array inside =>
          rw [List.length_append, List.length_cons] at short
          have read := readEnclosed_append accepts (Or.inl rfl) inside
            (by omega) rest
          rw [List.append_assoc, List.cons_append,
            List.singleton_append] at begins ⊢
          simp [readValue, begins, read]
      | object inside =>
          rw [List.length_append, List.length_cons] at short
          have members := accepts_member accepts
          have read := readEnclosed_append members (Or.inr rfl) inside
            (by omega) rest
          rw [List.append_assoc, List.cons_append,
            List.singleton_append] at begins ⊢
          simp [readValue, begins, read]

theorem Document.ofText?_of_written {document : Document} {text : String}
    (written : document.Written text) :
    Document.ofText? text = some document := by
  obtain ⟨levels, spelled⟩ := written
  have accepts : Accepts (readValue text.length)
      (Padded (Spells levels)) text.length :=
    accepts_padded (readValue_skipBlanks _) Spells.starts readValue_append
  obtain ⟨left, read, skipped⟩ :=
    accepts.reads spelled (Nat.le_of_eq String.length_toList) ends_nil
  rw [List.append_nil] at read
  simp only [Document.ofText?, read, skipped]
  rfl

end BulkWrite.Json
