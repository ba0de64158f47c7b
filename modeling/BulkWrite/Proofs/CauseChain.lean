import BulkWrite.Failure.Chain
import Mathlib.Data.ENat.Lattice

/-!
Chains of causes, entry by entry. At each depth a chain has the error that so
many causes lead to, until there is no further cause. What is kept of a chain is
its entries below a bound, and a chain without end is cut there like any other.
-/

namespace BulkWrite

variable {ε δ : Type}

/-- The error at the depth of the chain, counted from the outermost. -/
def causeAt (cause : ε → Option ε) : Nat → ε → Option ε
  | 0, error => some error
  | depth + 1, error => (cause error).bind (causeAt cause depth)

/-- How many errors a chain has: the depth at which there is none left, if there
is such a depth. -/
noncomputable def chainLength (cause : ε → Option ε) (error : ε) : ℕ∞ :=
  ⨅ (depth : ℕ) (_ : causeAt cause depth error = none), (depth : ℕ∞)

section

variable {cause : ε → Option ε} {error inner : ε}

@[simp] theorem causeAt_zero : causeAt cause 0 error = some error := rfl

theorem causeAt_of_root (root : cause error = none) (depth : Nat) :
    causeAt cause (depth + 1) error = none := by
  rw [causeAt, root]
  rfl

theorem causeAt_of_cause (because : cause error = some inner) (depth : Nat) :
    causeAt cause (depth + 1) error = causeAt cause depth inner := by
  rw [causeAt, because]
  rfl

theorem le_chainLength_iff {count : ℕ} :
    (count : ℕ∞) ≤ chainLength cause error ↔
      ∀ depth < count, causeAt cause depth error ≠ none := by
  rw [chainLength, le_iInf₂_iff]
  constructor
  · intro bounds depth less ended
    exact absurd (Nat.cast_le.mp (bounds depth ended)) (Nat.not_le.mpr less)
  · intro goesOn depth ended
    exact Nat.cast_le.mpr (Nat.le_of_not_lt fun less => goesOn depth less ended)

theorem chainLength_le {depth : ℕ} (ended : causeAt cause depth error = none) :
    chainLength cause error ≤ depth :=
  iInf₂_le depth ended

end

theorem getElem?_chainUpTo (cause : ε → Option ε) (bound : Nat) (error : ε)
    (index : Nat) :
    (chainUpTo cause bound error)[index]? =
      if index < bound then causeAt cause index error else none := by
  induction bound generalizing error index with
  | zero => simp
  | succ bound ih =>
      cases because : cause error with
      | none =>
          rw [chainUpTo_of_root bound because]
          cases index with
          | zero => simp
          | succ depth => simp [causeAt_of_root because depth]
      | some inner =>
          rw [chainUpTo_of_cause bound because]
          cases index with
          | zero => simp
          | succ depth => simp [causeAt_of_cause because depth, ih]

theorem length_chainUpTo (cause : ε → Option ε) (bound : Nat) (error : ε) :
    ((chainUpTo cause bound error).length : ℕ∞) =
      min (chainLength cause error) bound := by
  -- the length of a chain without end is no number, but the numbers below it
  -- tell it from others
  apply ENat.eq_of_forall_natCast_le_iff
  intro count
  rw [le_min_iff, le_chainLength_iff, Nat.cast_le, Nat.cast_le]
  have entry := getElem?_chainUpTo cause bound error
  constructor
  · intro kept
    refine ⟨fun depth less ended => ?_,
      kept.trans (length_chainUpTo_le cause bound error)⟩
    have dropped : (chainUpTo cause bound error)[depth]? = none := by
      simp [entry, ended]
    exact absurd (List.getElem?_eq_none_iff.mp dropped) (by omega)
  · intro both
    obtain ⟨goesOn, below⟩ := both
    by_contra short
    have less : (chainUpTo cause bound error).length < count :=
      Nat.lt_of_not_le short
    have dropped := entry (chainUpTo cause bound error).length
    rw [List.getElem?_eq_none le_rfl, if_pos (less.trans_le below)] at dropped
    exact goesOn _ less dropped.symm

theorem take_chainUpTo (cause : ε → Option ε) (count bound : Nat) (error : ε) :
    (chainUpTo cause bound error).take count =
      chainUpTo cause (min count bound) error := by
  apply List.ext_getElem?
  intro index
  rw [List.getElem?_take, getElem?_chainUpTo, getElem?_chainUpTo, ← ite_and]
  simp only [Nat.lt_min]

section

variable [Traceable ε] [Traceable δ]

theorem getElem?_causeChain_eq_some_iff {error inner : ε} {depth : Nat} :
    (causeChain error)[depth]? = some inner ↔
      depth < 32 ∧ causeAt Traceable.cause depth error = some inner := by
  rw [causeChain, getElem?_chainUpTo, maxChainDepth,
    Option.ite_none_right_eq_some]

theorem map_report_causeChain_congr {first : ε} {second : δ}
    (agree : ∀ depth < maxChainDepth,
      (causeAt Traceable.cause depth first).map Traceable.report =
        (causeAt Traceable.cause depth second).map Traceable.report) :
    (causeChain first).map Traceable.report =
      (causeChain second).map Traceable.report := by
  apply List.ext_getElem?
  intro index
  rw [List.getElem?_map, List.getElem?_map, causeChain, causeChain,
    getElem?_chainUpTo, getElem?_chainUpTo]
  by_cases below : index < maxChainDepth
  · rw [if_pos below, if_pos below, agree index below]
  · rw [if_neg below, if_neg below]
    rfl

/-- Around a cause comes one more error, and the innermost makes room for it. -/
theorem causeChain_of_cause {outer inner : ε}
    (because : Traceable.cause outer = some inner) :
    causeChain outer = outer :: (causeChain inner).take 31 := by
  rw [causeChain, maxChainDepth, chainUpTo_of_cause 31 because, causeChain,
    take_chainUpTo]
  rfl

theorem causeChain_of_short_cause {outer inner : ε}
    (because : Traceable.cause outer = some inner)
    (short : chainLength Traceable.cause inner ≤ 31) :
    causeChain outer = outer :: causeChain inner := by
  have length : ((causeChain inner).length : ℕ∞) ≤ (31 : ℕ) := by
    rw [causeChain, length_chainUpTo]
    exact (min_le_left _ _).trans short
  rw [causeChain_of_cause because,
    List.take_of_length_le (Nat.cast_le.mp length)]

end

namespace Failure

/-- The failure with the reports along its chain, the outermost first. -/
def ofReports (outer : Report) : List Report → Failure
  | [] => .root outer
  | next :: inner => .wrap outer (ofReports next inner)

theorem map_report_chainUpTo_ofReports (bound : Nat) (outer : Report)
    (inner : List Report) :
    (chainUpTo cause? bound (ofReports outer inner)).map report =
      (outer :: inner).take bound := by
  induction inner generalizing bound outer with
  | nil =>
      cases bound with
      | zero => rfl
      | succ bound =>
          rw [chainUpTo_of_root bound rfl, List.take_succ_cons, List.take_nil]
          rfl
  | cons next inner ih =>
      cases bound with
      | zero => rfl
      | succ bound =>
          have because : cause? (ofReports outer (next :: inner)) =
              some (ofReports next inner) :=
            rfl
          rw [chainUpTo_of_cause bound because, List.map_cons, ih,
            List.take_succ_cons]
          rfl

end Failure

end BulkWrite
