/-!
Sets of characters as closed ranges of code points. Ranges are ascending and
apart, so a search may stop at the first range that begins above the character.
-/

namespace BulkWrite.Text

abbrev CodeRanges := List (Nat × Nat)

namespace CodeRanges

def contains (ranges : CodeRanges) (n : Nat) : Bool :=
  match ranges with
  | [] => false
  | (first, last) :: rest =>
      if n < first then false else n ≤ last || contains rest n

/-- Each range begins at the bound or above it, is not empty, and ends before
the next begins. -/
def isAscendingFrom (bound : Nat) : CodeRanges → Bool
  | [] => true
  | (first, last) :: rest =>
      bound ≤ first && first ≤ last && isAscendingFrom (last + 1) rest

theorem le_of_mem {ranges : CodeRanges} {bound : Nat} {range : Nat × Nat}
    (ascending : ranges.isAscendingFrom bound = true)
    (member : range ∈ ranges) :
    bound ≤ range.1 := by
  induction ranges generalizing bound with
  | nil => simp at member
  | cons head rest ih =>
      simp only [isAscendingFrom, Bool.and_eq_true,
        decide_eq_true_eq] at ascending
      obtain ⟨⟨above, ordered⟩, tail⟩ := ascending
      rcases List.mem_cons.mp member with here | later
      · rw [here]
        exact above
      · have := ih tail later
        omega

/-- The search finds exactly the numbers that lie in one of the ranges. -/
theorem contains_iff {ranges : CodeRanges} {bound : Nat}
    (ascending : ranges.isAscendingFrom bound = true) (n : Nat) :
    ranges.contains n = true ↔ ∃ range ∈ ranges, range.1 ≤ n ∧ n ≤ range.2 := by
  induction ranges generalizing bound with
  | nil => simp [contains]
  | cons head rest ih =>
      obtain ⟨first, last⟩ := head
      simp only [isAscendingFrom, Bool.and_eq_true,
        decide_eq_true_eq] at ascending
      obtain ⟨⟨above, ordered⟩, tail⟩ := ascending
      by_cases below : n < first
      · simp only [contains, below, ↓reduceIte, Bool.false_eq_true, false_iff,
          not_exists, not_and]
        intro range member low
        rcases List.mem_cons.mp member with here | later
        · rw [here] at low
          exact absurd low (Nat.not_le.mpr below)
        · have := le_of_mem tail later
          omega
      · simp only [contains, below, ↓reduceIte, Bool.or_eq_true,
          decide_eq_true_eq, ih tail, List.mem_cons, exists_eq_or_imp]
        have notBelow : first ≤ n := Nat.not_lt.mp below
        simp [notBelow]

/-- Whether each range lies in one of the others. Both ascend, so a range of the
others takes those in front that lie in it, and the next goes on from there. -/
def within (inner : CodeRanges) : CodeRanges → Bool
  | [] => inner.isEmpty
  | wider :: outer =>
      within (inner.dropWhile fun range => wider.1 ≤ range.1 && range.2 ≤
        wider.2) outer

theorem exists_wider_of_within {inner outer : CodeRanges}
    (lies : inner.within outer = true) {range : Nat × Nat}
    (member : range ∈ inner) :
    ∃ wider ∈ outer, wider.1 ≤ range.1 ∧ range.2 ≤ wider.2 := by
  induction outer generalizing inner with
  | nil =>
      rw [List.isEmpty_iff.mp lies] at member
      cases member
  | cons wider outer ih =>
      rw [← List.takeWhile_append_dropWhile
        (p := fun range : Nat × Nat => wider.1 ≤ range.1 && range.2 ≤ wider.2)
          (l := inner),
        List.mem_append] at member
      rcases member with taken | left
      · have fits := List.all_eq_true.mp List.all_takeWhile range taken
        rw [Bool.and_eq_true, decide_eq_true_eq, decide_eq_true_eq] at fits
        exact ⟨wider, List.mem_cons_self, fits⟩
      · obtain ⟨other, later, around⟩ := ih lies left
        exact ⟨other, List.mem_cons_of_mem _ later, around⟩

theorem contains_of_within {inner outer : CodeRanges} {bound floor : Nat}
    (innerAscending : inner.isAscendingFrom bound = true)
    (outerAscending : outer.isAscendingFrom floor = true)
    (lies : inner.within outer = true) {n : Nat}
    (found : inner.contains n = true) :
    outer.contains n = true := by
  obtain ⟨range, listed, low, high⟩ := (contains_iff innerAscending n).mp found
  obtain ⟨wider, member, below, above⟩ := exists_wider_of_within lies listed
  exact (contains_iff outerAscending n).mpr
    ⟨wider, member, Nat.le_trans below low, Nat.le_trans high above⟩

end CodeRanges

/-- A property of all ASCII characters can be checked code point by code
point. -/
theorem forall_ascii {property : Char → Prop}
    (holds : ∀ n < 128, property (Char.ofNat n)) (c : Char)
    (small : c.toNat < 128) : property c := by
  have checked := holds c.toNat small
  rwa [Char.ofNat_toNat] at checked

end BulkWrite.Text
