import BulkWrite.Proofs.Classification

/-!
Wrapping of failures. An error around a failure changes the verdict only where
the failure by itself is fatal, as long as the chain has room for one more; past
the bound the innermost errors are no longer seen, and the rest of the chain
decides as if it ended there.
-/

namespace BulkWrite

namespace Classifier

variable {ε δ : Type} [Traceable ε] [Traceable δ] {classifier : Classifier}

theorem classify_eq_of_chainSignals {first : ε} {second : δ}
    (same : classifier.chainSignals first = classifier.chainSignals second) :
    classifier.classify first = classifier.classify second := by
  rw [classify_eq_judgeAll, classify_eq_judgeAll, same]

theorem chainSignals_eq_map_report (error : ε) :
    classifier.chainSignals error =
      ((causeChain error).map Traceable.report).map
        (Signals.extract classifier.probes) := by
  rw [List.map_map]
  rfl

theorem classify_eq_of_reports {first : ε} {second : δ}
    (same : (causeChain first).map Traceable.report =
      (causeChain second).map Traceable.report) :
    classifier.classify first = classifier.classify second := by
  apply classify_eq_of_chainSignals
  rw [chainSignals_eq_map_report, chainSignals_eq_map_report, same]

section

variable {outer inner : ε} (because : Traceable.cause outer = some inner)

include because

theorem classify_of_short_cause (classifier : Classifier)
    (short : chainLength Traceable.cause inner ≤ 31) :
    classifier.classify outer =
      if classifier.classify inner = .fatal then
        (classifier.judge 0 (classifier.signals outer)).getD .fatal
      else (classifier.classify inner).deeper := by
  have chain : classifier.chainSignals outer =
      classifier.signals outer :: classifier.chainSignals inner := by
    rw [chainSignals, causeChain_of_short_cause because short]
    rfl
  rw [classify_eq_judgeAll, chain, judgeAll, judgeAll_succ,
    classify_eq_judgeAll]
  cases judged : classifier.judgeAll 0 (classifier.chainSignals inner) with
  | none => simp
  | some verdict =>
      have issue : verdict ≠ .fatal := by
        intro fatal
        rw [fatal] at judged
        exact judgeAll_ne_fatal judged
      simp [issue]

theorem classify_of_cause :
    classifier.classify outer =
      classifier.classify (Failure.ofReports (Traceable.report outer)
        (((causeChain inner).take 31).map Traceable.report)) := by
  apply classify_eq_of_reports
  rw [causeChain_of_cause because, List.map_cons]
  refine (Failure.map_report_chainUpTo_ofReports maxChainDepth _ _).trans
    ?_ |>.symm
  rw [maxChainDepth, List.take_succ_cons, ← List.map_take, List.take_take,
    Nat.min_self]

end

/-- An error around a failure that leaves it room keeps the verdict, with the
deciding error one deeper, and has the last word where the failure is fatal.
Every chain is cut at the bound, and what it has up to there gives the
verdict. -/
theorem wrapping_keeps_verdict (classifier : Classifier) :
    (∀ {ε : Type} [Traceable ε] {outer inner : ε},
      Traceable.cause outer = some inner →
      chainLength Traceable.cause inner ≤ 31 →
        (∀ depth, (classifier.classify inner).depth? = some depth →
          (classifier.classify outer).kind = (classifier.classify inner).kind ∧
            (classifier.classify outer).reason? =
              (classifier.classify inner).reason? ∧
              (classifier.classify outer).depth? = some (depth + 1)) ∧
        (classifier.classify inner = .fatal →
          classifier.classify outer =
            (classifier.judge 0 (classifier.signals outer)).getD .fatal)) ∧
    (∀ {ε : Type} [Traceable ε] (error : ε),
      ((causeChain error).length : ℕ∞) =
        min (chainLength Traceable.cause error) 32 ∧
        ∀ index, (causeChain error)[index]? =
          if index < 32 then causeAt Traceable.cause index error else none) ∧
    (∀ {ε δ : Type} [Traceable ε] [Traceable δ] {first : ε} {second : δ},
      (∀ depth < 32,
        (causeAt Traceable.cause depth first).map Traceable.report =
          (causeAt Traceable.cause depth second).map Traceable.report) →
          classifier.classify first = classifier.classify second) ∧
    ∀ {ε : Type} [Traceable ε] {outer inner : ε},
      Traceable.cause outer = some inner →
      classifier.classify outer =
        classifier.classify (Failure.ofReports (Traceable.report outer)
          (((causeChain inner).take 31).map Traceable.report)) := by
  refine ⟨?_, ?_, ?_, ?_⟩
  · intro ε _ outer inner because short
    have wrapped := classify_of_short_cause because classifier short
    constructor
    · intro depth decided
      have issue : classifier.classify inner ≠ .fatal := by
        intro fatal
        rw [fatal] at decided
        cases decided
      rw [if_neg issue] at wrapped
      simp [wrapped, decided]
    · intro fatal
      rw [wrapped, if_pos fatal]
  · intro ε _ error
    exact ⟨length_chainUpTo Traceable.cause maxChainDepth error,
      getElem?_chainUpTo Traceable.cause maxChainDepth error⟩
  · intro ε δ _ _ first second agree
    exact classify_eq_of_reports (map_report_causeChain_congr agree)
  · intro ε _ outer inner because
    exact classify_of_cause because

/-- A deadlock with 30 errors around it has room for one more, and not for
two. -/
theorem wrapping_keeps_verdict_to_the_bound :
    let classifier : Classifier :=
      { heuristics :=
          { connectionIssue := fun _ => none
            transientIssue := fun signals =>
              if signals.driverCode = some 1213 then some .transientCode
              else none }
        probes := Probe.defaults }
    let wrapper : Report := ⟨.driver, "statement failed", {}⟩
    let inner := Failure.wrapAll (List.replicate 30 wrapper)
      (.root ⟨.driver, "deadlock", { code := some (.int 1213) }⟩)
    let outer := Failure.wrap wrapper inner
    Traceable.cause outer = some inner ∧
      chainLength Traceable.cause inner ≤ 31 ∧
      (classifier.classify inner).depth? = some 30 ∧
        (classifier.classify outer).depth? = some 31 ∧
          classifier.classify (Failure.wrap wrapper outer) = .fatal := by
  intro classifier wrapper inner outer
  have because : Traceable.cause outer = some inner := rfl
  have short : chainLength Traceable.cause inner ≤ 31 := chainLength_le rfl
  have decided : (classifier.classify inner).depth? = some 30 := by decide
  obtain ⟨kept, -⟩ := (wrapping_keeps_verdict classifier).1 because short
  exact ⟨because, short, decided, (kept 30 decided).2.2, by decide⟩

end Classifier

end BulkWrite
