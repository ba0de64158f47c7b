import BulkWrite.Failure.Classifier
import BulkWrite.Proofs.CauseChain

/-!
Classification of failures, from what the errors of a chain signal. Going
outward from the innermost error and stopping at the first with an issue finds
the deepest error with an issue, and that error alone gives the verdict.
-/

namespace BulkWrite

namespace Verdict

/-- The verdict with the deciding error one further in. -/
def deeper : Verdict → Verdict
  | .connection depth reason => .connection (depth + 1) reason
  | .transient depth reason => .transient (depth + 1) reason
  | .fatal => .fatal

@[simp] theorem kind_deeper (verdict : Verdict) :
    verdict.deeper.kind = verdict.kind := by
  cases verdict <;> rfl

@[simp] theorem reason?_deeper (verdict : Verdict) :
    verdict.deeper.reason? = verdict.reason? := by
  cases verdict <;> rfl

@[simp] theorem depth?_deeper (verdict : Verdict) :
    verdict.deeper.depth? = verdict.depth?.map (· + 1) := by
  cases verdict <;> rfl

end Verdict

namespace Classifier

def HasIssue (classifier : Classifier) (signals : Signals) : Prop :=
  classifier.heuristics.isConnectionIssue signals = true ∨
    classifier.heuristics.isTransientIssue signals = true

/-- The innermost error with an issue has the index and the signals. -/
structure Innermost (classifier : Classifier) (all : List Signals) (index : Nat)
    (signals : Signals) : Prop where
  entry : all[index]? = some signals
  issue : classifier.HasIssue signals
  last : ∀ deeper other, index < deeper → all[deeper]? = some other →
    ¬ classifier.HasIssue other

/-- The verdict of the innermost error with an issue, for errors that signal
these things, the first of them at the depth. -/
def judgeAll (classifier : Classifier) (depth : Nat) :
    List Signals → Option Verdict
  | [] => none
  | signals :: inner =>
      (classifier.judgeAll (depth + 1) inner).or
        (classifier.judge depth signals)

variable {classifier : Classifier} {depth : Nat} {signals : Signals}

theorem judge_eq_connection_iff {position : Nat} {reason : MatchReason} :
    classifier.judge depth signals = some (.connection position reason) ↔
      depth = position ∧
        classifier.heuristics.connectionIssue signals = some reason := by
  unfold judge
  cases classifier.heuristics.connectionIssue signals with
  | some given => simp
  | none => simp

theorem judge_eq_transient_iff {position : Nat} {reason : MatchReason} :
    classifier.judge depth signals = some (.transient position reason) ↔
      depth = position ∧ classifier.heuristics.connectionIssue signals = none ∧
        classifier.heuristics.transientIssue signals = some reason := by
  unfold judge
  cases classifier.heuristics.connectionIssue signals with
  | some given => simp
  | none => simp [and_comm]

theorem judge_ne_fatal : classifier.judge depth signals ≠ some .fatal := by
  unfold judge
  cases classifier.heuristics.connectionIssue signals with
  | some given => simp
  | none => simp

theorem judge_eq_none_iff :
    classifier.judge depth signals = none ↔ ¬ classifier.HasIssue signals := by
  unfold judge HasIssue Heuristics.isConnectionIssue Heuristics.isTransientIssue
  cases classifier.heuristics.connectionIssue signals with
  | some given => simp
  | none => simp

theorem judge_succ : classifier.judge (depth + 1) signals =
    (classifier.judge depth signals).map Verdict.deeper := by
  unfold judge
  cases classifier.heuristics.connectionIssue signals with
  | some given => rfl
  | none => simp [Function.comp_def, Verdict.deeper]

theorem innermost_zero_iff {outer : Signals} {inner : List Signals} :
    classifier.Innermost (outer :: inner) 0 signals ↔
      outer = signals ∧ classifier.HasIssue outer ∧
        ∀ other ∈ inner, ¬ classifier.HasIssue other := by
  constructor
  · intro innermost
    obtain ⟨entry, issue, last⟩ := innermost
    obtain rfl := Option.some.inj entry
    refine ⟨rfl, issue, fun other member => ?_⟩
    obtain ⟨index, found⟩ := List.mem_iff_getElem?.mp member
    exact last (index + 1) other (Nat.succ_pos index) found
  · intro alone
    obtain ⟨rfl, issue, none⟩ := alone
    refine ⟨rfl, issue, fun deeper other less found => ?_⟩
    obtain ⟨index, rfl⟩ := Nat.exists_eq_succ_of_ne_zero (Nat.ne_of_gt less)
    exact none other (List.mem_of_getElem? found)

theorem innermost_succ_iff {outer : Signals} {inner : List Signals}
    {index : Nat} :
    classifier.Innermost (outer :: inner) (index + 1) signals ↔
      classifier.Innermost inner index signals := by
  constructor
  · intro innermost
    obtain ⟨entry, issue, last⟩ := innermost
    refine ⟨entry, issue, fun deeper other less found => ?_⟩
    exact last (deeper + 1) other (Nat.succ_lt_succ less) found
  · intro innermost
    obtain ⟨entry, issue, last⟩ := innermost
    refine ⟨entry, issue, fun deeper other less found => ?_⟩
    obtain ⟨further, rfl⟩ :=
      Nat.exists_eq_succ_of_ne_zero (Nat.ne_of_gt (Nat.zero_lt_of_lt less))
    exact last further other (Nat.lt_of_succ_lt_succ less) found

theorem judgeAll_succ (depth : Nat) (all : List Signals) :
    classifier.judgeAll (depth + 1) all =
      (classifier.judgeAll depth all).map Verdict.deeper := by
  induction all generalizing depth with
  | nil => rfl
  | cons outer inner ih =>
      rw [judgeAll, judgeAll, ih, judge_succ, Option.map_or]

theorem judgeAll_eq_none_iff {all : List Signals} :
    classifier.judgeAll depth all = none ↔
      ∀ signals ∈ all, ¬ classifier.HasIssue signals := by
  induction all generalizing depth with
  | nil => simp [judgeAll]
  | cons outer inner ih =>
      rw [judgeAll, Option.or_eq_none_iff, ih, judge_eq_none_iff,
        List.forall_mem_cons, and_comm]

theorem judgeAll_eq_some_iff {all : List Signals} {verdict : Verdict} :
    classifier.judgeAll depth all = some verdict ↔
      ∃ index signals, classifier.Innermost all index signals ∧
        classifier.judge (depth + index) signals = some verdict := by
  induction all generalizing depth with
  | nil =>
      simp only [judgeAll, reduceCtorEq, false_iff]
      intro found
      obtain ⟨index, signals, innermost, -⟩ := found
      exact Option.some_ne_none signals innermost.entry.symm
  | cons outer inner ih =>
      -- the inner errors come first; the outer one is asked only where they are
      -- silent
      rw [judgeAll, Option.or_eq_some_iff, ih, judgeAll_eq_none_iff]
      constructor
      · intro decided
        rcases decided with ⟨index, signals, innermost, judged⟩ | ⟨none, judged⟩
        · refine ⟨index + 1, signals, innermost_succ_iff.mpr innermost, ?_⟩
          rwa [Nat.add_right_comm] at judged
        · have issue : classifier.HasIssue outer := by
            by_contra noIssue
            rw [judge_eq_none_iff.mpr noIssue] at judged
            cases judged
          exact ⟨0, outer, innermost_zero_iff.mpr ⟨rfl, issue, none⟩, judged⟩
      · intro found
        obtain ⟨index, signals, innermost, judged⟩ := found
        cases index with
        | zero =>
            obtain ⟨rfl, -, none⟩ := innermost_zero_iff.mp innermost
            exact Or.inr ⟨none, judged⟩
        | succ index =>
            refine Or.inl ⟨index, signals, innermost_succ_iff.mp innermost, ?_⟩
            rwa [Nat.add_right_comm]

theorem judgeAll_ne_fatal {all : List Signals} :
    classifier.judgeAll depth all ≠ some .fatal := by
  intro judged
  obtain ⟨index, signals, -, decided⟩ := judgeAll_eq_some_iff.mp judged
  exact judge_ne_fatal decided

section

variable {ε : Type} [Traceable ε] (error : ε)

def chainSignals (classifier : Classifier) (error : ε) : List Signals :=
  (causeChain error).map classifier.signals

theorem findSome?_reverse_zipIdx (errors : List ε) (depth : Nat) :
    (errors.zipIdx depth).reverse.findSome? (fun (error, depth) =>
        classifier.judge depth (classifier.signals error)) =
      classifier.judgeAll depth (errors.map classifier.signals) := by
  induction errors generalizing depth with
  | nil => rfl
  | cons outer inner ih =>
      rw [List.zipIdx_cons, List.reverse_cons, List.findSome?_append, ih,
        List.map_cons, judgeAll, List.findSome?_singleton]

theorem classify_eq_judgeAll :
    classifier.classify error =
      (classifier.judgeAll 0 (classifier.chainSignals error)).getD .fatal :=
  congrArg (Option.getD · Verdict.fatal)
    (findSome?_reverse_zipIdx (causeChain error) 0)

theorem classify_eq_fatal_iff :
    classifier.classify error = .fatal ↔
      ∀ signals ∈ classifier.chainSignals error,
        ¬ classifier.HasIssue signals := by
  have silent : classifier.judgeAll 0 (classifier.chainSignals error) = none ↔
      ∀ signals ∈ classifier.chainSignals error,
          ¬ classifier.HasIssue signals :=
    judgeAll_eq_none_iff
  rw [classify_eq_judgeAll, ← silent]
  cases judged : classifier.judgeAll 0 (classifier.chainSignals error) with
  | none => simp
  | some verdict =>
      simp only [Option.getD_some, reduceCtorEq, iff_false]
      intro fatal
      rw [fatal] at judged
      exact judgeAll_ne_fatal judged

theorem classify_eq_iff {verdict : Verdict} (issue : verdict ≠ .fatal) :
    classifier.classify error = verdict ↔
      ∃ depth signals, classifier.Innermost (classifier.chainSignals error)
        depth signals ∧
        classifier.judge depth signals = some verdict := by
  have decides : classifier.judgeAll 0 (classifier.chainSignals error) =
      some verdict ↔
      ∃ depth signals, classifier.Innermost (classifier.chainSignals error)
        depth signals ∧
        classifier.judge depth signals = some verdict := by
    simp only [judgeAll_eq_some_iff, Nat.zero_add]
  rw [classify_eq_judgeAll, ← decides]
  cases classifier.judgeAll 0 (classifier.chainSignals error) with
  | none => simp [issue.symm]
  | some judged => simp

theorem exists_innermost {signals : Signals}
    (member : signals ∈ classifier.chainSignals error)
    (issue : classifier.HasIssue signals) :
    ∃ depth deciding, classifier.Innermost (classifier.chainSignals error)
      depth deciding ∧
      classifier.judge depth deciding = some (classifier.classify error) := by
  have notFatal : classifier.classify error ≠ .fatal := fun fatal =>
    (classify_eq_fatal_iff error).mp fatal signals member issue
  exact (classify_eq_iff error notFatal).mp rfl

theorem depth?_of_judge {depth : Nat} {signals : Signals} {verdict : Verdict}
    (judged : classifier.judge depth signals = some verdict) :
    verdict.depth? = some depth := by
  cases verdict with
  | connection position reason =>
      exact congrArg some (judge_eq_connection_iff.mp judged).1.symm
  | transient position reason =>
      exact congrArg some (judge_eq_transient_iff.mp judged).1.symm
  | fatal => exact absurd judged judge_ne_fatal

end

/-- A deadlock inside decides against a lost connection outside. -/
example :
    let classifier : Classifier :=
      { heuristics :=
          { connectionIssue := fun signals =>
              if signals.driverCode = some 2006 then some .connectionCode
              else none
            transientIssue := fun signals =>
              if signals.driverCode = some 1213 then some .transientCode
              else none }
        probes := Probe.defaults }
    classifier.classify
      (Failure.wrap ⟨.driver, "server has gone away",
        { code := some (.int 2006) }⟩
      (.root ⟨.driver, "deadlock", { code := some (.int 1213) }⟩)) =
        .transient 1 .transientCode := by
  decide

end Classifier

end BulkWrite
