import BulkWrite.Proofs.Classification

/-!
Widening of rules. Rules that list more find every issue that they found before,
so that the deciding error of a failure can only move further in. More rules for
passing conflicts may turn a lost connection into one; more rules for lost
connections never turn one into anything else.
-/

namespace BulkWrite

namespace Signals

/-- The codes that count: the driver code or, where there is none, those in the
message. -/
def codes (signals : Signals) : List Int64 :=
  match signals.driverCode with
  | some code => [code]
  | none => messageCodes signals.message

end Signals

namespace Issue

/-- What tells one issue tells the wider one as well. -/
structure Within (issue wider : Issue) : Prop where
  states : ∀ state, issue.matchesState state = true →
    wider.matchesState state = true
  codes : ∀ code, issue.codes.contains code = true →
    wider.codes.contains code = true
  phrases : issue.phrases ⊆ wider.phrases

variable {issue wider : Issue} {signals : Signals}

theorem isSome_byState?_iff :
    (issue.byState? signals).isSome = true ↔
      ∃ state, signals.sqlState = some state ∧
        issue.matchesState state = true := by
  simp [byState?, Option.any_eq_true]

theorem isSome_byCode?_iff :
    (issue.byCode? signals).isSome = true ↔
      ∃ code ∈ signals.codes, issue.codes.contains code = true := by
  unfold byCode? Signals.codes
  cases signals.driverCode with
  | some code => simp
  | none => simp

theorem isSome_byMessage?_iff :
    (issue.byMessage? signals).isSome = true ↔
      ∃ phrase ∈ issue.phrases,
        phrase <:+: Text.lowercase signals.message.toList := by
  simp [byMessage?, Text.occurs_iff]

theorem isSome_find?_iff :
    (issue.find? signals).isSome = true ↔
      (∃ state, signals.sqlState = some state ∧
        issue.matchesState state = true) ∨
        (∃ code ∈ signals.codes, issue.codes.contains code = true) ∨
          ∃ phrase ∈ issue.phrases,
            phrase <:+: Text.lowercase signals.message.toList := by
  rw [find?, Option.isSome_or, Option.isSome_or, Bool.or_eq_true,
    Bool.or_eq_true, isSome_byState?_iff, isSome_byCode?_iff,
    isSome_byMessage?_iff]

theorem Within.isSome_find? (within : issue.Within wider)
    (found : (issue.find? signals).isSome = true) :
    (wider.find? signals).isSome = true := by
  rw [isSome_find?_iff] at found ⊢
  rcases found with ⟨state, here, told⟩ | ⟨code, here, told⟩ | ⟨phrase, here,
    told⟩
  · exact Or.inl ⟨state, here, within.states state told⟩
  · exact Or.inr (Or.inl ⟨code, here, within.codes code told⟩)
  · exact Or.inr (Or.inr ⟨phrase, within.phrases here, told⟩)

end Issue

namespace Rules

/-- What the rules list for lost connections, the wider rules list as well. -/
structure ConnectionWithin (rules wider : Rules) : Prop where
  states : rules.connectionStatePrefixes ⊆ wider.connectionStatePrefixes
  codes : ∀ code, rules.connectionCodes.contains code = true →
    wider.connectionCodes.contains code = true
  messages : rules.connectionMessages ⊆ wider.connectionMessages

/-- What the rules list for passing conflicts, the wider rules list as well. -/
structure TransientWithin (rules wider : Rules) : Prop where
  states : rules.transientStates ⊆ wider.transientStates
  codes : ∀ code, rules.transientCodes.contains code = true →
    wider.transientCodes.contains code = true
  messages : rules.transientMessages ⊆ wider.transientMessages

variable {rules wider : Rules}

theorem withoutEmpty_subset {texts more : List String} (subset : texts ⊆ more) :
    withoutEmpty texts ⊆ withoutEmpty more :=
  List.filter_subset _ subset

theorem smallPhrases_subset {texts more : List String} (subset : texts ⊆ more) :
    smallPhrases texts ⊆ smallPhrases more :=
  List.map_subset _ (withoutEmpty_subset subset)

theorem ConnectionWithin.issue (within : rules.ConnectionWithin wider) :
    rules.connection.Within wider.connection where
  states state told := by
    obtain ⟨start, listed, begins⟩ := List.any_eq_true.mp told
    exact List.any_eq_true.mpr ⟨start, withoutEmpty_subset within.states listed,
      begins⟩
  codes := within.codes
  phrases := smallPhrases_subset within.messages

theorem TransientWithin.issue (within : rules.TransientWithin wider) :
    rules.transient.Within wider.transient where
  states state told := by
    have listed := List.contains_iff_mem.mp told
    exact List.contains_iff_mem.mpr (withoutEmpty_subset within.states listed)
  codes := within.codes
  phrases := smallPhrases_subset within.messages

theorem connectionWithin_extend (rules : Rules) (phrases : List String) :
    rules.ConnectionWithin
      (rules.apply (.extendConnectionMessages phrases)) where
  states := List.Subset.refl _
  codes _ listed := listed
  messages := List.subset_append_left _ _

end Rules

namespace Classifier

variable {classifier wider : Classifier} {signals : Signals} {depth : Nat}

theorem kind_eq_connection_iff_of_judge {verdict : Verdict}
    (judged : classifier.judge depth signals = some verdict) :
    verdict.kind = .connection ↔
      classifier.heuristics.isConnectionIssue signals = true := by
  rw [Heuristics.isConnectionIssue, Option.isSome_iff_exists]
  cases verdict with
  | connection position reason =>
      exact iff_of_true rfl ⟨reason, (judge_eq_connection_iff.mp judged).2⟩
  | transient position reason =>
      rw [(judge_eq_transient_iff.mp judged).2.1]
      simp [Verdict.kind]
  | fatal => exact absurd judged judge_ne_fatal

theorem isRetryable_of_judge {verdict : Verdict}
    (judged : classifier.judge depth signals = some verdict) :
    verdict.kind.isRetryable = true := by
  cases verdict with
  | connection position reason => rfl
  | transient position reason => rfl
  | fatal => exact absurd judged judge_ne_fatal

section

variable {ε : Type} [Traceable ε] {error : ε}

theorem exists_innermost_of_isRetryable
    (retryable : (classifier.classify error).kind.isRetryable = true) :
    ∃ depth signals, classifier.Innermost (classifier.chainSignals error)
      depth signals ∧
      classifier.judge depth signals = some (classifier.classify error) := by
  refine (classify_eq_iff error fun fatal => ?_).mp rfl
  rw [fatal] at retryable
  cases retryable

variable (same : wider.chainSignals error = classifier.chainSignals error)
  (stays : ∀ signals, classifier.HasIssue signals → wider.HasIssue signals)

include same stays

/-- Where every issue stays one, an error at the same depth or further in
decides. -/
theorem exists_deeper_innermost
    (innermost : classifier.Innermost (classifier.chainSignals error)
      depth signals) :
    ∃ deeper deciding, depth ≤ deeper ∧
      wider.Innermost (classifier.chainSignals error) deeper deciding ∧
        wider.judge deeper deciding = some (wider.classify error) := by
  have issue : wider.HasIssue signals := stays signals innermost.issue
  have member : signals ∈ wider.chainSignals error :=
    same ▸ List.mem_of_getElem? innermost.entry
  obtain ⟨deeper, deciding, found, judged⟩ :=
    exists_innermost error member issue
  rw [same] at found
  refine ⟨deeper, deciding, ?_, found, judged⟩
  by_contra shallower
  exact found.last depth signals (Nat.lt_of_not_le shallower)
    innermost.entry issue

theorem deeper_of_stays
    (retryable : (classifier.classify error).kind.isRetryable = true) :
    ∃ depth deeper, (classifier.classify error).depth? = some depth ∧
      depth ≤ deeper ∧
      (wider.classify error).depth? = some deeper ∧
        (wider.classify error).kind.isRetryable = true := by
  obtain ⟨depth, signals, innermost, decided⟩ :=
    exists_innermost_of_isRetryable retryable
  obtain ⟨deeper, deciding, below, -, judged⟩ :=
    exists_deeper_innermost same stays innermost
  exact ⟨depth, deeper, depth?_of_judge decided, below, depth?_of_judge judged,
    isRetryable_of_judge judged⟩

/-- Where no passing conflict is new, a lost connection stays one: an error
further in that decides now had no issue before, so it is a lost connection
itself. -/
theorem kind_eq_connection_of_stays
    (lost : ∀ signals, classifier.heuristics.isConnectionIssue signals = true →
      wider.heuristics.isConnectionIssue signals = true)
    (back : ∀ signals, wider.heuristics.isTransientIssue signals = true →
      classifier.heuristics.isTransientIssue signals = true)
    (connection : (classifier.classify error).kind = .connection) :
    (wider.classify error).kind = .connection := by
  have retryable : (classifier.classify error).kind.isRetryable = true := by
    rw [connection]
    rfl
  obtain ⟨depth, signals, innermost, decided⟩ :=
    exists_innermost_of_isRetryable retryable
  obtain ⟨deeper, deciding, below, found, judged⟩ :=
    exists_deeper_innermost same stays innermost
  rw [kind_eq_connection_iff_of_judge judged]
  rcases Nat.eq_or_lt_of_le below with here | further
  · obtain rfl : signals = deciding :=
      Option.some.inj (innermost.entry.symm.trans (here ▸ found.entry))
    exact lost signals ((kind_eq_connection_iff_of_judge decided).mp connection)
  · have silent := innermost.last deeper deciding further found.entry
    rcases found.issue with isLost | isConflict
    · exact isLost
    · exact absurd (Or.inr (back deciding isConflict)) silent

end

/-- Wider rules find every failure that is worth a retry, by the same error or
one further in. If they list no more for passing conflicts, a lost connection
stays one. -/
theorem wider_rules_keep_retry {rules wider : Rules}
    (connection : rules.ConnectionWithin wider)
    (transient : rules.TransientWithin wider) (probes : List Probe) {ε : Type}
    [Traceable ε] (error : ε) :
    let before := classify ⟨rules.heuristics, probes⟩ error
    let after := classify ⟨wider.heuristics, probes⟩ error
    (∀ depth, before.kind.isRetryable = true → before.depth? = some depth →
      after.kind.isRetryable = true ∧ ∃ deeper, depth ≤ deeper ∧
        after.depth? = some deeper) ∧
    (wider.TransientWithin rules →
      (before.kind = .connection → after.kind = .connection) ∧
        (before.kind = .transient → after.kind = .transient ∨
            after.kind = .connection)) := by
  intro before after
  let narrow : Classifier := ⟨rules.heuristics, probes⟩
  let wide : Classifier := ⟨wider.heuristics, probes⟩
  have same : wide.chainSignals error = narrow.chainSignals error := rfl
  have stays : ∀ signals, narrow.HasIssue signals → wide.HasIssue signals := by
    intro signals issue
    exact issue.imp connection.issue.isSome_find? transient.issue.isSome_find?
  refine ⟨fun depth retryable decided => ?_,
    fun back => ⟨?_, fun conflict => ?_⟩⟩
  · obtain ⟨position, deeper, here, below, there, kept⟩ :=
      deeper_of_stays same stays retryable
    obtain rfl := Option.some.inj (here.symm.trans decided)
    exact ⟨kept, deeper, below, there⟩
  · exact kind_eq_connection_of_stays same stays
      (fun _ => connection.issue.isSome_find?)
      (fun _ => back.issue.isSome_find?)
  · have retryable : before.kind.isRetryable = true := by
      rw [conflict]
      rfl
    obtain ⟨-, -, -, -, -, kept⟩ := deeper_of_stays same stays retryable
    cases kind : after.kind with
    | connection => exact Or.inr rfl
    | transient => exact Or.inl rfl
    | fatal =>
        rw [kind] at kept
        cases kept

/-- A phrase that is new to the rules moves the decision one error further
in. -/
theorem wider_rules_keep_retry_further_in :
    let rules : Rules := ⟨[], .ofList [2006], [], [], .ofList [1213], []⟩
    let wider := rules.apply (.extendConnectionMessages ["Shut Down"])
    let failure := Failure.wrap ⟨.driver, "", { code := some (.int 2006) }⟩
      (.root ⟨.driver, "host is shut down", {}⟩)
    let before := classify ⟨rules.heuristics, Probe.defaults⟩ failure
    let after := classify ⟨wider.heuristics, Probe.defaults⟩ failure
    rules.ConnectionWithin wider ∧ rules.TransientWithin wider ∧
      wider.TransientWithin rules ∧
      before = .connection 0 .connectionCode ∧
        after = .connection 1 .connectionMessage ∧
        after.kind = .connection ∧ ∃ deeper, 0 ≤ deeper ∧
          after.depth? = some deeper := by
  intro rules wider failure before after
  have connection : rules.ConnectionWithin wider :=
    rules.connectionWithin_extend _
  have transient : rules.TransientWithin wider :=
    ⟨List.Subset.refl _, fun _ => id, List.Subset.refl _⟩
  have back : wider.TransientWithin rules :=
    ⟨List.Subset.refl _, fun _ => id, List.Subset.refl _⟩
  obtain ⟨keeps, stays⟩ :=
    wider_rules_keep_retry connection transient Probe.defaults failure
  have verdict : before = .connection 0 .connectionCode := by decide
  have kind : before.kind = .connection := congrArg Verdict.kind verdict
  refine ⟨connection, transient, back, verdict, by decide, (stays back).1 kind,
    ?_⟩
  exact (keeps 0 (by decide) (congrArg Verdict.depth? verdict)).2

/-- More rules for passing conflicts can turn a lost connection into one. -/
example :
    let rules : Rules := ⟨[], .ofList [2006], [], [], .ofList [], []⟩
    let wider := rules.apply (.setTransientCodes [1213])
    let failure := Failure.wrap ⟨.driver, "", { code := some (.int 2006) }⟩
      (.root ⟨.driver, "", { code := some (.int 1213) }⟩)
    classify ⟨rules.heuristics, Probe.defaults⟩ failure =
      .connection 0 .connectionCode ∧
      classify ⟨wider.heuristics, Probe.defaults⟩ failure =
        .transient 1 .transientCode := by
  decide

end Classifier

end BulkWrite
