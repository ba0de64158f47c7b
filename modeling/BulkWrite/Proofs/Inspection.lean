import BulkWrite.Proofs.Wrapping

/-!
The log of a classification. Errors are inspected from the innermost outward,
each once and each logged, and the deciding one is the last. So the log shows
the depths from the end of the chain down to the deciding one and then the
verdict, and what lies further out changes nothing.
-/

namespace BulkWrite

/-- The depth of the deciding error, or of the outermost one. -/
def Verdict.stop (verdict : Verdict) : Nat := verdict.depth?.getD 0

namespace Classifier

variable {ε δ : Type} [Traceable ε] [Traceable δ]
    {classifier other : Classifier}

/-- What is inspected of errors and their depths. -/
def sights (classifier : Classifier) (errors : List (ε × Nat)) :
    List (Signals × Nat) :=
  errors.map fun (error, depth) => (classifier.signals error, depth)

def inspections (sights : List (Signals × Nat)) : List ClassifyEvent :=
  sights.map fun (signals, depth) => .inspecting depth signals

theorem inspect_congr (same : classifier.heuristics = other.heuristics)
    {first : List (ε × Nat)} {second : List (δ × Nat)}
    (alike : classifier.sights first = other.sights second) :
    classifier.inspect first = other.inspect second := by
  have judges (depth : Nat) (signals : Signals) :
      classifier.judge depth signals = other.judge depth signals := by
    rw [judge, judge, same]
  induction first generalizing second with
  | nil =>
      obtain rfl := List.map_eq_nil_iff.mp alike.symm
      rfl
  | cons head rest ih =>
      cases second with
      | nil => cases alike
      | cons otherHead otherRest =>
          obtain ⟨headAlike, restAlike⟩ := List.cons_eq_cons.mp alike
          obtain ⟨signalsAlike, depthAlike⟩ := Prod.mk.inj headAlike
          simp only [inspect, signalsAlike, depthAlike, judges, ih restAlike]

theorem inspect_append_of_silent {silent rest : List (ε × Nat)}
    (noIssue : ∀ sight ∈ classifier.sights silent,
      ¬ classifier.HasIssue sight.1) :
    classifier.inspect (silent ++ rest) =
      ⟨(classifier.inspect rest).result,
        inspections (classifier.sights silent) ++
            (classifier.inspect rest).events⟩ := by
  induction silent with
  | nil => rfl
  | cons head silent ih =>
      obtain ⟨headSilent, restSilent⟩ := List.forall_mem_cons.mp noIssue
      have unjudged : classifier.judge head.2 (classifier.signals head.1) =
          none :=
        judge_eq_none_iff.mpr headSilent
      simp only [List.cons_append, inspect, unjudged, ih restSilent]
      rfl

theorem inspect_of_judge {error : ε} {depth : Nat} {verdict : Verdict}
    (decides : classifier.judge depth (classifier.signals error) = some verdict)
    (rest : List (ε × Nat)) :
    classifier.inspect ((error, depth) :: rest) =
      ⟨verdict, [.inspecting depth (classifier.signals error)]⟩ := by
  simp only [inspect, decides]

/-- Behind a verdict nothing is inspected. -/
theorem inspect_append_of_decided {errors : List (ε × Nat)}
    (decided : (classifier.inspect errors).result ≠ .fatal)
    (rest : List (ε × Nat)) :
    classifier.inspect (errors ++ rest) = classifier.inspect errors := by
  induction errors with
  | nil => exact absurd rfl decided
  | cons head errors ih =>
      cases judged : classifier.judge head.2 (classifier.signals head.1) with
      | some verdict =>
          rw [List.cons_append, inspect_of_judge judged,
            inspect_of_judge judged]
      | none =>
          have later : (classifier.inspect errors).result ≠ .fatal := by
            simpa only [inspect, judged] using decided
          simp only [List.cons_append, inspect, judged, ih later]

/-- The errors from the depth on, with their depths, innermost first. -/
def inwardFrom (depth : Nat) (error : ε) : List (ε × Nat) :=
  (((causeChain error).drop depth).zipIdx depth).reverse

section

variable {error inner : ε} {depth : Nat}

theorem inwardOut_eq_append (within : depth ≤ (causeChain error).length) :
    inwardOut error =
      inwardFrom depth error ++
        ((causeChain error).take depth).zipIdx.reverse := by
  have split : (causeChain error).zipIdx =
      ((causeChain error).take depth).zipIdx ++
          ((causeChain error).drop depth).zipIdx depth := by
    conv_lhs => rw [← List.take_append_drop depth (causeChain error)]
    rw [List.zipIdx_append, List.length_take, Nat.min_eq_left within,
      Nat.zero_add]
  rw [inwardOut, split, List.reverse_append, inwardFrom]

theorem inwardFrom_of_entry (entry : (causeChain error)[depth]? = some inner) :
    inwardFrom depth error =
      inwardFrom (depth + 1) error ++ [(inner, depth)] := by
  obtain ⟨within, rfl⟩ := List.getElem?_eq_some_iff.mp entry
  rw [inwardFrom, List.drop_eq_getElem_cons within, List.zipIdx_cons,
    List.reverse_cons, inwardFrom]

theorem mem_sights_inwardFrom_iff {signals : Signals} {position : Nat} :
    (signals, position) ∈ classifier.sights (inwardFrom depth error) ↔
      depth ≤ position ∧
        (classifier.chainSignals error)[position]? = some signals := by
  simp only [sights, inwardFrom, List.mem_map, List.mem_reverse, Prod.exists,
    List.mk_mem_zipIdx_iff_le_and_getElem?_sub, List.getElem?_drop,
    Prod.mk.injEq, chainSignals, List.getElem?_map, Option.map_eq_some_iff]
  constructor
  · intro found
    obtain ⟨inner, position, ⟨above, entry⟩, rfl, rfl⟩ := found
    rw [Nat.add_sub_cancel' above] at entry
    exact ⟨above, inner, entry, rfl⟩
  · intro found
    obtain ⟨above, inner, entry, rfl⟩ := found
    refine ⟨inner, position, ⟨above, ?_⟩, rfl, rfl⟩
    rwa [Nat.add_sub_cancel' above]

/-- Errors are inspected from the end of the chain down to the deciding one, or
all of them. -/
theorem inspect_inwardFrom_stop (classifier : Classifier) (error : ε) :
    classifier.inspect (inwardFrom (classifier.classify error).stop error) =
      ⟨classifier.classify error,
        inspections (classifier.sights
            (inwardFrom (classifier.classify error).stop error))⟩ := by
  by_cases fatal : classifier.classify error = .fatal
  · have noIssue : ∀ sight ∈ classifier.sights (inwardFrom 0 error),
        ¬ classifier.HasIssue sight.1 := by
      intro sight member
      obtain ⟨-, entry⟩ := mem_sights_inwardFrom_iff.mp member
      exact (classify_eq_fatal_iff error).mp fatal sight.1
        (List.mem_of_getElem? entry)
    rw [fatal, Verdict.stop, Verdict.depth?, Option.getD_none,
      ← List.append_nil (inwardFrom 0 error), inspect_append_of_silent noIssue]
    simp [inspect]
  · obtain ⟨depth, signals, innermost, judged⟩ :=
      (classify_eq_iff error fatal).mp rfl
    have entry := innermost.entry
    rw [chainSignals, List.getElem?_map, Option.map_eq_some_iff] at entry
    obtain ⟨deciding, entry, rfl⟩ := entry
    have noIssue : ∀ sight ∈ classifier.sights (inwardFrom (depth + 1) error),
        ¬ classifier.HasIssue sight.1 := by
      intro sight member
      obtain ⟨above, deeper⟩ := mem_sights_inwardFrom_iff.mp member
      exact innermost.last sight.2 sight.1 above deeper
    rw [Verdict.stop, depth?_of_judge judged, Option.getD_some,
      inwardFrom_of_entry entry, inspect_append_of_silent noIssue,
      inspect_of_judge judged]
    simp [sights, inspections]

theorem stop_lt_length (classifier : Classifier) (error : ε) :
    (classifier.classify error).stop < (causeChain error).length := by
  by_cases fatal : classifier.classify error = .fatal
  · rw [fatal, causeChain, maxChainDepth, chainUpTo]
    exact Nat.succ_pos _
  · obtain ⟨depth, signals, innermost, judged⟩ :=
      (classify_eq_iff error fatal).mp rfl
    obtain ⟨within, -⟩ := List.getElem?_eq_some_iff.mp innermost.entry
    rw [chainSignals, List.length_map] at within
    rwa [Verdict.stop, depth?_of_judge judged, Option.getD_some]

theorem inspect_inwardOut_of_inwardFrom {verdict : Verdict}
    (within : verdict.stop ≤ (causeChain error).length)
    (decided : (classifier.inspect (inwardFrom verdict.stop error)).result =
      verdict) :
    classifier.inspect (inwardOut error) =
      classifier.inspect (inwardFrom verdict.stop error) := by
  rw [inwardOut_eq_append within]
  by_cases fatal : verdict = .fatal
  · -- the outermost error has been inspected
    subst fatal
    exact congrArg classifier.inspect (List.append_nil _)
  · exact inspect_append_of_decided (by rwa [decided]) _

theorem inspect_inwardOut (classifier : Classifier) (error : ε) :
    classifier.inspect (inwardOut error) =
      classifier.inspect
        (inwardFrom (classifier.classify error).stop error) := by
  apply inspect_inwardOut_of_inwardFrom (stop_lt_length classifier error).le
  rw [inspect_inwardFrom_stop]

theorem sights_inwardFrom (classifier : Classifier) (depth : Nat) (error : ε) :
    classifier.sights (inwardFrom depth error) =
      (((classifier.chainSignals error).drop depth).zipIdx depth).reverse := by
  rw [sights, inwardFrom, List.map_reverse, chainSignals, ← List.map_drop,
    List.zipIdx_map]
  rfl

/-- Only what the deciding error and those further in signal matters to the
log. -/
theorem classifyLogged_congr {second : δ}
    (same : classifier.heuristics = other.heuristics)
    (length : (causeChain error).length = (causeChain second).length)
    (alike : (classifier.chainSignals error).drop
      (classifier.classify error).stop =
      (other.chainSignals second).drop (classifier.classify error).stop) :
    classifier.classifyLogged error = other.classifyLogged second := by
  have inspected : classifier.inspect
      (inwardFrom (classifier.classify error).stop error) =
      other.inspect (inwardFrom (classifier.classify error).stop second) := by
    apply inspect_congr same
    rw [sights_inwardFrom, sights_inwardFrom, alike]
  have within : (classifier.classify error).stop ≤ (causeChain second).length :=
    length ▸ (stop_lt_length classifier error).le
  have decided :
      (other.inspect
          (inwardFrom (classifier.classify error).stop second)).result =
      classifier.classify error := by
    rw [← inspected, inspect_inwardFrom_stop]
  rw [classifyLogged, classifyLogged, inspect_inwardOut, inspected,
    inspect_inwardOut_of_inwardFrom within decided, length]

end

end Classifier

end BulkWrite
