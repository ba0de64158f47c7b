import BulkWrite.Proofs.Inspection

/-!
Registration of kinds of errors. A probe sees the errors of its kind and no
others, so at most one answer is to be had of an error, whichever probe gives
it. What counts of the registered kinds is therefore their set, and of that only
the kinds that the chain has.
-/

namespace BulkWrite

theorem Probe.examine_eq_some_iff {probe : Probe} {report : Report}
    {capabilities : Capabilities} :
    probe.examine report = some capabilities ↔
      report.kind = probe.kind ∧ report.capabilities = capabilities := by
  simp [examine]

theorem Probe.examine_eq_none_iff {probe : Probe} {report : Report} :
    probe.examine report = none ↔ report.kind ≠ probe.kind := by
  simp [examine]

namespace Signals

variable {probes others : List Probe} {report : Report}

theorem extract_of_known (known : report.kind ∈ probes.map Probe.kind) :
    extract probes report = report.capabilities.signals report.message := by
  obtain ⟨probe, member, same⟩ := List.mem_map.mp known
  have found : (probes.findSome? (·.examine report)).isSome := by
    rw [List.findSome?_isSome_iff]
    exact ⟨probe, member, by simp [Probe.examine, same]⟩
  obtain ⟨capabilities, finds⟩ := Option.isSome_iff_exists.mp found
  obtain ⟨other, -, examined⟩ := List.exists_of_findSome?_eq_some finds
  obtain ⟨-, rfl⟩ := Probe.examine_eq_some_iff.mp examined
  rw [extract, finds]

theorem extract_of_unknown (unknown : report.kind ∉ probes.map Probe.kind) :
    extract probes report = { message := report.message } := by
  have nothing : probes.findSome? (·.examine report) = none := by
    rw [List.findSome?_eq_none_iff]
    intro probe member
    rw [Probe.examine_eq_none_iff]
    intro same
    exact unknown (same ▸ List.mem_map_of_mem member)
  rw [extract, nothing]

theorem extract_congr
    (same : report.kind ∈ probes.map Probe.kind ↔
      report.kind ∈ others.map Probe.kind) :
    extract probes report = extract others report := by
  by_cases known : report.kind ∈ probes.map Probe.kind
  · rw [extract_of_known known, extract_of_known (same.mp known)]
  · rw [extract_of_unknown known,
      extract_of_unknown (fun found => known (same.mpr found))]

end Signals

namespace Classifier

def registerAll (classifier : Classifier) (kinds : List ErrorKind) :
    Classifier :=
  kinds.foldl register classifier

def kinds (classifier : Classifier) : List ErrorKind :=
  classifier.probes.map Probe.kind

variable {classifier other : Classifier}

@[simp] theorem heuristics_registerAll (classifier : Classifier)
    (kinds : List ErrorKind) :
    (classifier.registerAll kinds).heuristics = classifier.heuristics := by
  induction kinds generalizing classifier with
  | nil => rfl
  | cons kind kinds ih => exact ih (classifier.register kind)

@[simp] theorem kinds_registerAll (classifier : Classifier)
    (kinds : List ErrorKind) :
    (classifier.registerAll kinds).kinds = classifier.kinds ++ kinds := by
  induction kinds generalizing classifier with
  | nil => exact (List.append_nil _).symm
  | cons kind kinds ih =>
      rw [registerAll, List.foldl_cons, ← registerAll, ih]
      simp [register, Classifier.kinds]

theorem mem_kinds_registerAll_iff {kind known : ErrorKind}
    (unneeded : known = kind → kind ∈ classifier.kinds)
    (earlier later : List ErrorKind) :
    known ∈ (classifier.registerAll (earlier ++ kind :: later)).kinds ↔
      known ∈ (classifier.registerAll (earlier ++ later)).kinds := by
  simp only [kinds_registerAll, List.mem_append, List.mem_cons]
  constructor
  · rintro (fresh | before | same | after)
    · exact Or.inl fresh
    · exact Or.inr (Or.inl before)
    · exact Or.inl (same ▸ unneeded same)
    · exact Or.inr (Or.inr after)
  · rintro (fresh | before | after)
    · exact Or.inl fresh
    · exact Or.inr (Or.inl before)
    · exact Or.inr (Or.inr (Or.inr after))

/-- Of what the classifiers know, only the kinds of the errors up to the bound
matter. -/
theorem classifyLogged_eq_of_kinds {ε : Type} [Traceable ε] {error : ε}
    (same : classifier.heuristics = other.heuristics)
    (known : ∀ inner ∈ causeChain error,
      (Traceable.report inner).kind ∈ classifier.kinds ↔
        (Traceable.report inner).kind ∈ other.kinds) :
    classifier.classifyLogged error = other.classifyLogged error := by
  have signals : classifier.chainSignals error = other.chainSignals error :=
    List.map_congr_left fun inner member =>
      Signals.extract_congr (known inner member)
  exact classifyLogged_congr same rfl (by rw [signals])

/-- The order of registrations does not matter, nor do repetitions. A further
kind changes neither verdicts nor logs where no error up to the bound is of it,
or where it is known from the start. An error of a registered kind gives its own
capabilities. -/
theorem registrations_form_a_set (heuristics : Heuristics) :
    let fresh := ofHeuristics heuristics
    (∀ kinds others : List ErrorKind, (∀ kind, kind ∈ kinds ↔ kind ∈ others) →
      ∀ {ε : Type} [Traceable ε] (error : ε),
        (fresh.registerAll kinds).classifyLogged error =
          (fresh.registerAll others).classifyLogged error) ∧
    (∀ earlier kind later {ε : Type} [Traceable ε] (error : ε),
      (∀ depth < 32, ∀ inner, causeAt Traceable.cause depth error = some inner →
        (Traceable.report inner).kind ≠ kind) ∨
          kind ∈ [ErrorKind.driver, .postgres, .postgresServer] →
      (fresh.registerAll (earlier ++ kind :: later)).classifyLogged error =
        (fresh.registerAll (earlier ++ later)).classifyLogged error) ∧
    ∀ earlier kind later {ε : Type} [Traceable ε] (error : ε),
      (Traceable.report error).kind = kind →
        (fresh.registerAll (earlier ++ kind :: later)).signals error =
          (Traceable.report error).capabilities.signals
            (Traceable.report error).message := by
  intro fresh
  refine ⟨?_, ?_, ?_⟩
  · intro kinds others same ε _ error
    apply classifyLogged_eq_of_kinds (by simp)
    intro inner _
    simp [same]
  · intro earlier kind later ε _ error unneeded
    apply classifyLogged_eq_of_kinds (by simp)
    intro inner member
    apply mem_kinds_registerAll_iff
    intro same
    rcases unneeded with absent | known
    · obtain ⟨depth, kept⟩ := List.mem_iff_getElem?.mp member
      obtain ⟨below, entry⟩ := getElem?_causeChain_eq_some_iff.mp kept
      exact absurd same (absent depth below inner entry)
    · exact known
  · intro earlier kind later ε _ error same
    apply Signals.extract_of_known
    change _ ∈ kinds _
    simp [same]

/-- The code of a vendor's error is seen once the vendor is registered, however
often and among whichever others. -/
theorem registrations_form_a_set_with_vendor :
    let heuristics : Heuristics :=
      { connectionIssue := fun _ => none
        transientIssue := fun signals =>
          if signals.driverCode = some 1213 then some .transientCode else none }
    let fresh := ofHeuristics heuristics
    let vendor : ErrorKind := ⟨"vendor"⟩
    let bare : ErrorKind := ⟨"bare"⟩
    let failure := Failure.wrap ⟨.driver, "statement failed", {}⟩
      (.root ⟨vendor, "vendor failure", { code := some (.int 1213) }⟩)
    fresh.classify failure = .fatal ∧
      (fresh.registerAll [vendor]).classify failure =
        .transient 1 .transientCode ∧
      (fresh.registerAll [bare, vendor, bare, vendor]).classifyLogged failure =
        (fresh.registerAll [vendor, bare]).classifyLogged failure ∧
      (fresh.registerAll [bare, vendor]).classifyLogged failure =
        (fresh.registerAll [vendor]).classifyLogged failure ∧
      (fresh.registerAll [vendor, .driver]).classifyLogged failure =
        (fresh.registerAll [vendor]).classifyLogged failure := by
  intro heuristics fresh vendor bare failure
  obtain ⟨sameSet, unneeded, -⟩ := registrations_form_a_set heuristics
  refine ⟨by decide, by decide, sameSet _ _ ?_ failure,
    unneeded [] bare [vendor] failure ?_,
    unneeded [vendor] .driver [] failure (Or.inr (by decide))⟩
  · intro kind
    simp only [List.mem_cons, List.not_mem_nil]
    tauto
  · refine Or.inl fun depth below inner entry => ?_
    match depth, entry with
    | 0, entry =>
        obtain rfl := Option.some.inj entry
        decide
    | 1, entry =>
        obtain rfl := Option.some.inj entry
        decide

end Classifier

end BulkWrite
