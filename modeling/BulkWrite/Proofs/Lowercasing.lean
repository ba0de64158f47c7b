import BulkWrite.Text.Lowercase

/-!
Small letters within a longer text. What a text becomes there differs from what
it becomes by itself in the capital sigmas alone, since each of them looks at
both sides for letters. The case of ASCII letters is no matter to the others.
-/

namespace BulkWrite.Text

/-- What stands around a text; what stands before it is given backwards. -/
structure Margins where
  before : List Char
  after : List Char

namespace Margins

def none : Margins := ⟨[], []⟩

def past (margins : Margins) (c : Char) : Margins :=
  { margins with before := c :: margins.before }

end Margins

/-- The small letters of a text between margins. -/
def lowercaseBetween (margins : Margins) : List Char → List Char
  | [] => []
  | c :: rest =>
      lowercaseChar margins.before c (rest ++ margins.after) ++
        lowercaseBetween (margins.past c) rest

/-- Each capital sigma of the text has the same small form between these margins
as between those. -/
def SameSigmas (here there : Margins) (s : List Char) : Prop :=
  ∀ first second, s = first ++ capitalSigma :: second →
    sigma (first.reverse ++ here.before) (second ++ here.after) =
      sigma (first.reverse ++ there.before) (second ++ there.after)

theorem lowercaseFrom_append (before s after : List Char) :
    lowercaseFrom before (s ++ after) =
      lowercaseBetween ⟨before, after⟩ s ++
        lowercaseFrom (s.reverse ++ before) after := by
  induction s generalizing before with
  | nil => rfl
  | cons c rest ih =>
      rw [List.cons_append, lowercaseFrom, ih, lowercaseBetween,
        List.reverse_cons, List.append_assoc, List.append_assoc]
      rfl

theorem lowercaseBetween_none (s : List Char) :
    lowercaseBetween .none s = lowercase s := by
  have whole := lowercaseFrom_append [] s []
  rw [List.append_nil, lowercaseFrom, List.append_nil] at whole
  exact whole.symm

/-- In the small letters of a longer text stand those of the text between its
margins. -/
theorem infix_lowercase (before s after : List Char) :
    lowercaseBetween ⟨before.reverse, after⟩ s <:+:
      lowercase (before ++ s ++ after) := by
  refine ⟨lowercaseBetween ⟨[], s ++ after⟩ before,
    lowercaseFrom (s.reverse ++ before.reverse) after, ?_⟩
  rw [lowercase, List.append_assoc before, lowercaseFrom_append,
    List.append_nil, lowercaseFrom_append, List.append_assoc]

/-- Each capital sigma of the text has on both sides, within the text, a
character that counts when letters are looked for. -/
def SettlesSigmas (s : List Char) : Prop :=
  ∀ first second, s = first ++ capitalSigma :: second →
    (∃ c ∈ first, isCaseIgnorable c = false) ∧
      ∃ c ∈ second, isCaseIgnorable c = false

variable {here there : Margins} {c : Char} {s rest : List Char}

theorem meetsCased_cons (c : Char) (s : List Char) :
    meetsCased (c :: s) = if isCaseIgnorable c then meetsCased s
      else isCased c := by
  unfold meetsCased
  cases ignored : isCaseIgnorable c with
  | true => rw [List.dropWhile_cons_of_pos ignored, if_pos rfl]
  | false => simp [ignored]

theorem meetsCased_append_of_exists
    (counts : ∃ c ∈ s, isCaseIgnorable c = false) (t : List Char) :
    meetsCased (s ++ t) = meetsCased s := by
  induction s with
  | nil => simp at counts
  | cons d s ih =>
      rw [List.cons_append, meetsCased_cons, meetsCased_cons]
      cases ignored : isCaseIgnorable d with
      | true =>
          have later : ∃ c ∈ s, isCaseIgnorable c = false := by
            simpa [ignored] using counts
          rw [ih later]
      | false => rfl

/-- No margins change a sigma that the text itself settles. -/
theorem sameSigmas_of_settlesSigmas (settles : SettlesSigmas s) :
    SameSigmas here there s := by
  intro first second split
  obtain ⟨⟨c, before, counts⟩, after⟩ := settles first second split
  have backwards : ∃ c ∈ first.reverse, isCaseIgnorable c = false :=
    ⟨c, List.mem_reverse.mpr before, counts⟩
  simp only [sigma, meetsCased_append_of_exists backwards,
    meetsCased_append_of_exists after]

theorem sameSigmas_nil : SameSigmas here there [] := by
  intro first second split
  simp at split

theorem sameSigmas_cons_iff :
    SameSigmas here there (c :: rest) ↔
      (c = capitalSigma →
        sigma here.before (rest ++ here.after) =
          sigma there.before (rest ++ there.after)) ∧
      SameSigmas (here.past c) (there.past c) rest := by
  constructor
  · intro same
    constructor
    · rintro rfl
      exact same [] rest rfl
    · intro first second split
      have further := same (c :: first) second (congrArg (List.cons c) split)
      simpa [Margins.past] using further
  · intro both first second split
    cases first with
    | nil =>
        cases split
        exact both.1 rfl
    | cons d first =>
        cases split
        have further := both.2 first second rfl
        simpa [Margins.past] using further

theorem lowercaseChar_eq_iff {before after before' after' : List Char} :
    lowercaseChar before c after = lowercaseChar before' c after' ↔
      (c = capitalSigma → sigma before after = sigma before' after') := by
  unfold lowercaseChar
  split
  · next isSigma => simp [isSigma]
  · next other => simp [other]

/-- Without capital sigmas each character has small letters of its own. -/
theorem lowercaseFrom_of_no_sigma (absent : capitalSigma ∉ s)
    (before : List Char) :
    lowercaseFrom before s = s.flatMap fun c => lowercaseChar [] c [] := by
  induction s generalizing before with
  | nil => rfl
  | cons c rest ih =>
      rw [List.mem_cons, not_or] at absent
      have alone : lowercaseChar before c rest = lowercaseChar [] c [] :=
        lowercaseChar_eq_iff.mpr fun isSigma =>
          absurd isSigma.symm absent.1
      rw [lowercaseFrom, alone, ih absent.2, List.flatMap_cons]

theorem length_lowercaseChar (before after before' after' : List Char) :
    (lowercaseChar before c after).length =
      (lowercaseChar before' c after').length := by
  unfold lowercaseChar
  split
  · rfl
  · rfl

theorem lowercaseBetween_eq_iff :
    lowercaseBetween here s = lowercaseBetween there s ↔
      SameSigmas here there s := by
  induction s generalizing here there with
  | nil => exact iff_of_true rfl sameSigmas_nil
  | cons c rest ih =>
      rw [sameSigmas_cons_iff, ← ih, ← lowercaseChar_eq_iff, lowercaseBetween,
        lowercaseBetween]
      constructor
      · intro same
        exact List.append_inj same (length_lowercaseChar _ _ _ _)
      · intro both
        rw [both.1, both.2]

theorem toLower_eq_self_or_ascii (c : Char) :
    c.toLower = c ∨ c.toNat < 128 := by
  by_cases capital : c.val ≥ 'A'.val ∧ c.val ≤ 'Z'.val
  · exact Or.inr (Nat.lt_of_le_of_lt (UInt32.le_iff_toNat_le.mp capital.2)
      (by decide))
  · exact Or.inl (dif_neg capital)

theorem toLower_ascii : ∀ c : Char, c.toNat < 128 → c.toLower.toNat < 128 :=
  forall_ascii (by decide +kernel)

theorem toLower_toLower_ascii : ∀ c :
    Char, c.toNat < 128 → c.toLower.toLower = c.toLower :=
  forall_ascii (by decide +kernel)

theorem ascii_of_toLower_eq {d : Char} (same : c.toLower = d.toLower)
    (small : d.toNat < 128) :
    c.toNat < 128 := by
  rcases toLower_eq_self_or_ascii c with unchanged | ascii
  · rw [← unchanged, same]
    exact toLower_ascii d small
  · exact ascii

theorem lowercaseChar_ascii (before after : List Char) (small : c.toNat < 128) :
    lowercaseChar before c after = [c.toLower] := by
  have noSigma : c ≠ capitalSigma := by
    rintro rfl
    exact absurd small (by decide)
  have noDottedI : c ≠ capitalDottedI := by
    rintro rfl
    exact absurd small (by decide)
  rw [lowercaseChar, if_neg noSigma, if_neg noDottedI,
    smallLetter_ascii c small]

theorem lowercaseBetween_ascii {margins : Margins}
    (ascii : ∀ c ∈ s, c.toNat < 128) :
    lowercaseBetween margins s = s.map Char.toLower := by
  induction s generalizing margins with
  | nil => rfl
  | cons c rest ih =>
      have others : ∀ d ∈ rest, d.toNat < 128 :=
        fun d member => ascii d (List.mem_cons_of_mem c member)
      rw [lowercaseBetween,
        lowercaseChar_ascii _ _ (ascii c List.mem_cons_self), ih others]
      rfl

/-- What does not tell the case of ASCII letters does not tell that of any. -/
theorem congr_toLower {α : Type} {f : Char → α}
    (ascii : ∀ n < 128, f (Char.ofNat n).toLower = f (Char.ofNat n))
    (c : Char) :
    f c.toLower = f c := by
  rcases toLower_eq_self_or_ascii c with unchanged | small
  · rw [unchanged]
  · rw [← Char.ofNat_toNat c]
    exact ascii c.toNat small

theorem isCased_toLower : ∀ c : Char, isCased c.toLower = isCased c :=
  congr_toLower (by decide +kernel)

theorem isCaseIgnorable_toLower : ∀ c :
    Char, isCaseIgnorable c.toLower = isCaseIgnorable c :=
  congr_toLower (by decide +kernel)

theorem meetsCased_map_toLower (s : List Char) :
    meetsCased (s.map Char.toLower) = meetsCased s := by
  induction s with
  | nil => rfl
  | cons c s ih =>
      rw [List.map_cons, meetsCased_cons, meetsCased_cons,
        isCaseIgnorable_toLower, isCased_toLower, ih]

theorem sigma_map_toLower (before after : List Char) :
    sigma (before.map Char.toLower) (after.map Char.toLower) =
      sigma before after := by
  rw [sigma, sigma, meetsCased_map_toLower, meetsCased_map_toLower]

theorem lowercaseChar_toLower (before : List Char) (c : Char)
    (after : List Char) :
    lowercaseChar (before.map Char.toLower) c.toLower (after.map Char.toLower) =
      lowercaseChar before c after := by
  rcases toLower_eq_self_or_ascii c with unchanged | small
  · rw [unchanged, lowercaseChar, sigma_map_toLower, lowercaseChar]
  · rw [lowercaseChar_ascii _ _ (toLower_ascii c small),
      lowercaseChar_ascii _ _ small, toLower_toLower_ascii c small]

theorem lowercaseFrom_map_toLower (before s : List Char) :
    lowercaseFrom (before.map Char.toLower) (s.map Char.toLower) =
      lowercaseFrom before s := by
  induction s generalizing before with
  | nil => rfl
  | cons c after ih =>
      rw [List.map_cons, lowercaseFrom, lowercaseFrom, lowercaseChar_toLower,
        ← List.map_cons, ih]

/-- A text with some of its ASCII letters in the other case has the same small
letters. -/
theorem lowercase_eq_of_toLower_eq {t : List Char}
    (same : s.map Char.toLower = t.map Char.toLower) :
    lowercase s = lowercase t := by
  have first := lowercaseFrom_map_toLower [] s
  rw [same] at first
  exact first.symm.trans (lowercaseFrom_map_toLower [] t)

theorem lowercaseChar_ne_nil (before after : List Char) :
    lowercaseChar before c after ≠ [] := by
  unfold lowercaseChar
  split
  · exact List.cons_ne_nil _ _
  · split <;> exact List.cons_ne_nil _ _

theorem lowercase_eq_nil_iff : lowercase s = [] ↔ s = [] := by
  cases s with
  | nil => exact iff_of_true rfl rfl
  | cons c after => simp [lowercase, lowercaseFrom, lowercaseChar_ne_nil]

/-! Small letters stay as they are. -/

/-- No small letter of the range is a capital of the other: they lie before its
capitals, behind them, or each between two of them. -/
def CaseRange.misses (range other : CaseRange) : Bool :=
  Nat.blt (range.small + (range.last - range.first)) other.first ||
    Nat.blt other.last range.small ||
    (other.step == 2 && (range.step == 2 || range.first == range.last) &&
      (range.small + other.first) % 2 == 1)

theorem CaseRange.small?_eq_none_of_misses {range other : CaseRange}
    (misses : range.misses other = true) {n m : Nat}
    (small : range.small? n = some m) :
    other.small? m = none := by
  unfold small? at small
  split at small
  · next capital =>
      obtain rfl := Option.some.inj small
      simp only [CaseRange.misses, Bool.or_eq_true, Bool.and_eq_true,
        Nat.blt_eq, beq_iff_eq] at misses
      apply if_neg
      rcases misses with (before | behind) | ⟨⟨two, apart⟩, odd⟩
      · omega
      · omega
      · rw [two]
        rcases apart with two | single
        · rw [two] at capital
          omega
        · omega
  · cases small

/-- The capital I with a dot, which the table leaves out. -/
def dottedIRange : CaseRange := ⟨0x130, 0x130, 1, 0x69⟩

theorem caseRanges_miss :
    (caseRanges.all fun range =>
        (dottedIRange :: caseRanges).all range.misses) = true := by
  decide +kernel

/-- Neither a capital letter nor one of the two that the table does not do. -/
structure IsSmall (c : Char) : Prop where
  notSigma : c ≠ capitalSigma
  notDottedI : c ≠ capitalDottedI
  same : smallLetter c = c

instance (c : Char) : Decidable (IsSmall c) :=
  decidable_of_iff (c ≠ capitalSigma ∧ c ≠ capitalDottedI ∧ smallLetter c = c)
    ⟨fun both => ⟨both.1, both.2.1, both.2.2⟩,
      fun small => ⟨small.1, small.2, small.3⟩⟩

theorem isSmall_of_small? {range : CaseRange}
    (listed : range ∈ caseRanges) {n m : Nat}
    (small : range.small? n = some m) : IsSmall (Char.ofNat m) := by
  have missed (other : CaseRange)
      (member : other ∈ dottedIRange :: caseRanges) :
      other.small? m = none := by
    have all := List.all_eq_true.mp caseRanges_miss range listed
    exact CaseRange.small?_eq_none_of_misses
      (List.all_eq_true.mp all other member) small
  have none : (caseRanges.findSome? fun range => range.small? m) = none :=
    List.findSome?_eq_none_iff.mpr fun other member =>
      missed other (List.mem_cons_of_mem _ member)
  by_cases valid : m.isValidChar
  · have code : (Char.ofNat m).toNat = m := by
      rw [Char.ofNat, dif_pos valid]
      rfl
    refine ⟨?_, ?_, ?_⟩
    · intro same
      rw [same] at code
      rw [← code] at none
      exact absurd none (by decide +kernel)
    · intro same
      rw [same] at code
      have := missed dottedIRange List.mem_cons_self
      rw [← code] at this
      exact absurd this (by decide)
    · rw [smallLetter, code, none]
  · rw [Char.ofNat, dif_neg valid]
    decide +kernel

theorem isSmall_smallLetter (notSigma : c ≠ capitalSigma)
    (notDottedI : c ≠ capitalDottedI) :
    IsSmall (smallLetter c) := by
  cases found : caseRanges.findSome? fun range => range.small? c.toNat with
  | none =>
      have same : smallLetter c = c := by rw [smallLetter, found]
      rw [same]
      exact ⟨notSigma, notDottedI, same⟩
  | some m =>
      obtain ⟨range, listed, small⟩ := List.exists_of_findSome?_eq_some found
      rw [smallLetter, found]
      exact isSmall_of_small? listed small

theorem isSmall_of_mem_lowercaseChar {before after : List Char} {d : Char}
    (member : d ∈ lowercaseChar before c after) : IsSmall d := by
  unfold lowercaseChar sigma at member
  split at member
  · obtain rfl := List.mem_singleton.mp member
    split
    · decide +kernel
    · decide +kernel
  · next notSigma =>
      split at member
      · rw [List.mem_cons, List.mem_singleton] at member
        rcases member with rfl | rfl
        · decide +kernel
        · decide +kernel
      · next notDottedI =>
          obtain rfl := List.mem_singleton.mp member
          exact isSmall_smallLetter notSigma notDottedI

theorem isSmall_of_mem_lowercaseFrom {before : List Char} {d : Char}
    (member : d ∈ lowercaseFrom before s) : IsSmall d := by
  induction s generalizing before with
  | nil => cases member
  | cons c after ih =>
      rw [lowercaseFrom, List.mem_append] at member
      rcases member with here | later
      · exact isSmall_of_mem_lowercaseChar here
      · exact ih later

theorem lowercaseFrom_of_isSmall (before : List Char)
    (small : ∀ c ∈ s, IsSmall c) :
    lowercaseFrom before s = s := by
  induction s generalizing before with
  | nil => rfl
  | cons c after ih =>
      have head := small c List.mem_cons_self
      rw [lowercaseFrom,
        ih _ fun d member => small d (List.mem_cons_of_mem c member),
        lowercaseChar, if_neg head.notSigma, if_neg head.notDottedI, head.same]
      rfl

theorem lowercase_lowercase (s : List Char) :
    lowercase (lowercase s) = lowercase s :=
  lowercaseFrom_of_isSmall [] fun _ => isSmall_of_mem_lowercaseFrom

end BulkWrite.Text
