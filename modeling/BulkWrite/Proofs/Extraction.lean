import BulkWrite.Failure.Signals

/-!
What the signals of an error are taken from. The first probe that knows the
error finds its capabilities. Among these structured information hides a bare
code, both go before the error's own state code, and a message goes before the
error's own text. What is zero or empty tells nothing.
-/

namespace BulkWrite

namespace Capabilities

inductive GivesDriverCode (capabilities : Capabilities) (n : Int64) : Prop
  | informed {info : ErrorInfo} (given : capabilities.info = some info)
      (told : info.driverCode = some n) (nonzero : n ≠ 0)
  | bare (uninformed : capabilities.info = none)
      (code : capabilities.code = some (.int n))
      (nonzero : n ≠ 0)

/-- A state code that goes before the error's own. -/
inductive GivesState (capabilities : Capabilities) (state : String) : Prop
  | informed {info : ErrorInfo} (given : capabilities.info = some info)
      (told : info.sqlState = some state) (nonempty : state ≠ "")
  | bare {rest : String} (uninformed : capabilities.info = none)
      (code : capabilities.code = some (.text (state ++ rest)))
      (length : state.length = 5)

inductive GivesMessage (capabilities : Capabilities) (text : String) : Prop
  | informed {info : ErrorInfo} (given : capabilities.info = some info)
      (told : info.message = some text) (nonempty : text ≠ "")

/-- The signals are those of an error with the capabilities and a message of its
own. -/
structure Yields (capabilities : Capabilities) (message : String)
    (signals : Signals) : Prop where
  driverCode : ∀ n, signals.driverCode = some n ↔ capabilities.GivesDriverCode n
  sqlState : ∀ state, signals.sqlState = some state ↔
    capabilities.GivesState state ∨
      (∀ other, ¬ capabilities.GivesState other) ∧
        capabilities.sqlState = some state ∧ state ≠ ""
  message : ∀ text, signals.message = text ↔
    capabilities.GivesMessage text ∨
      (∀ other, ¬ capabilities.GivesMessage other) ∧ message = text

end Capabilities

theorem nonEmpty_eq_some_iff {given : Option String} {text : String} :
    nonEmpty given = some text ↔ given = some text ∧ text ≠ "" := by
  simp [nonEmpty, Option.filter_eq_some_iff]

namespace ErrorCode

variable {message : String}

theorem driverCode_signals_iff {code : ErrorCode} {n : Int64} :
    (code.signals message).driverCode = some n ↔ code = .int n ∧ n ≠ 0 := by
  cases code with
  | int m =>
      rw [signals, Option.ite_none_left_eq_some, Option.some.injEq,
        ErrorCode.int.injEq]
      constructor
      · intro told
        obtain ⟨nonzero, rfl⟩ := told
        exact ⟨rfl, nonzero⟩
      · intro told
        obtain ⟨rfl, nonzero⟩ := told
        exact ⟨nonzero, rfl⟩
  | text s => simp [signals]

theorem sqlState_signals_iff {code : ErrorCode} {state : String} :
    (code.signals message).sqlState = some state ↔
      (∃ rest, code = .text (state ++ rest)) ∧ state.length = 5 := by
  cases code with
  | int n => simp [signals]
  | text s =>
      change (if (s.toList.take 5).length =
        5 then some (String.ofList (s.toList.take 5))
        else none) = some state ↔ _
      rw [Option.ite_none_right_eq_some, Option.some.injEq, ← String.toList_inj,
        String.toList_ofList]
      constructor
      · intro taken
        obtain ⟨length, same⟩ := taken
        refine ⟨⟨String.ofList (s.toList.drop 5), congrArg _ ?_⟩, ?_⟩
        · rw [← String.toList_inj, String.toList_append, String.toList_ofList,
            ← same, List.take_append_drop]
        · rw [← String.length_toList, ← same, length]
      · intro split
        obtain ⟨⟨rest, same⟩, length⟩ := split
        obtain rfl := ErrorCode.text.inj same
        rw [← String.length_toList] at length
        rw [String.toList_append, List.take_left' length]
        exact ⟨length, rfl⟩

end ErrorCode

namespace Capabilities

variable {capabilities : Capabilities} {message : String}

/-! Structured information hides the bare code. -/

theorem firstSignals_of_info {info : ErrorInfo}
    (given : capabilities.info = some info) :
    capabilities.firstSignals message = info.signals message := by
  simp only [firstSignals, given]

theorem firstSignals_of_code {code : ErrorCode}
    (uninformed : capabilities.info = none)
    (given : capabilities.code = some code) :
    capabilities.firstSignals message = code.signals message := by
  simp only [firstSignals, uninformed, given]

theorem firstSignals_of_none (uninformed : capabilities.info = none)
    (absent : capabilities.code = none) :
    capabilities.firstSignals message = { message } := by
  simp only [firstSignals, uninformed, absent]

theorem driverCode_firstSignals_iff {n : Int64} :
    (capabilities.firstSignals message).driverCode = some n ↔
      capabilities.GivesDriverCode n := by
  constructor
  · intro told
    cases given : capabilities.info with
    | some info =>
        rw [firstSignals_of_info given, ErrorInfo.signals,
          Option.filter_eq_some_iff, decide_eq_true_eq] at told
        exact .informed given told.1 told.2
    | none =>
        cases code : capabilities.code with
        | some code =>
            rw [firstSignals_of_code given code,
              ErrorCode.driverCode_signals_iff] at told
            exact .bare given (told.1 ▸ code) told.2
        | none =>
            rw [firstSignals_of_none given code] at told
            cases told
  · intro gives
    cases gives with
    | informed given told nonzero =>
        rw [firstSignals_of_info given, ErrorInfo.signals,
          Option.filter_eq_some_iff, decide_eq_true_eq]
        exact ⟨told, nonzero⟩
    | bare uninformed code nonzero =>
        rw [firstSignals_of_code uninformed code,
          ErrorCode.driverCode_signals_iff]
        exact ⟨rfl, nonzero⟩

theorem sqlState_firstSignals_iff {state : String} :
    (capabilities.firstSignals message).sqlState = some state ↔
      capabilities.GivesState state := by
  constructor
  · intro told
    cases given : capabilities.info with
    | some info =>
        rw [firstSignals_of_info given, ErrorInfo.signals,
          nonEmpty_eq_some_iff] at told
        exact .informed given told.1 told.2
    | none =>
        cases code : capabilities.code with
        | some code =>
            rw [firstSignals_of_code given code,
              ErrorCode.sqlState_signals_iff] at told
            obtain ⟨⟨rest, rfl⟩, length⟩ := told
            exact .bare given code length
        | none =>
            rw [firstSignals_of_none given code] at told
            cases told
  · intro gives
    cases gives with
    | informed given told nonempty =>
        rw [firstSignals_of_info given, ErrorInfo.signals, nonEmpty_eq_some_iff]
        exact ⟨told, nonempty⟩
    | bare uninformed code length =>
        rw [firstSignals_of_code uninformed code,
          ErrorCode.sqlState_signals_iff]
        exact ⟨⟨_, rfl⟩, length⟩

theorem message_firstSignals_iff {text : String} :
    (capabilities.firstSignals message).message = text ↔
      capabilities.GivesMessage text ∨
        (∀ other, ¬ capabilities.GivesMessage other) ∧ message = text := by
  have uninformed (absent : capabilities.info = none) (other : String) :
      ¬ capabilities.GivesMessage other := by
    intro gives
    obtain ⟨given, -, -⟩ := gives
    cases absent.symm.trans given
  cases given : capabilities.info with
  | some info =>
      have gives (other : String) :
          capabilities.GivesMessage other ↔
              nonEmpty info.message = some other := by
        rw [nonEmpty_eq_some_iff]
        constructor
        · intro gives
          obtain ⟨same, told, nonempty⟩ := gives
          obtain rfl := Option.some.inj (given.symm.trans same)
          exact ⟨told, nonempty⟩
        · intro told
          exact .informed given told.1 told.2
      rw [firstSignals_of_info given, ErrorInfo.signals]
      simp only [gives]
      cases nonEmpty info.message with
      | some told => simp
      | none => simp
  | none =>
      have own : (capabilities.firstSignals message).message = message := by
        cases code : capabilities.code with
        | some bare =>
            rw [firstSignals_of_code given code]
            cases bare <;> rfl
        | none => rw [firstSignals_of_none given code]
      simp [own, uninformed given]

/-! The error's own state code comes last. -/

theorem driverCode_signals :
    (capabilities.signals message).driverCode =
      (capabilities.firstSignals message).driverCode := rfl

theorem message_signals :
    (capabilities.signals message).message =
      (capabilities.firstSignals message).message := rfl

theorem sqlState_signals :
    (capabilities.signals message).sqlState =
      (capabilities.firstSignals message).sqlState.or
        (nonEmpty capabilities.sqlState) := rfl

theorem yields_signals (capabilities : Capabilities) (message : String) :
    capabilities.Yields message (capabilities.signals message) where
  driverCode n := by rw [driverCode_signals, driverCode_firstSignals_iff]
  sqlState state := by
    have silent : (capabilities.firstSignals message).sqlState = none ↔
        ∀ other, ¬ capabilities.GivesState other := by
      simp only [Option.eq_none_iff_forall_ne_some, ne_eq,
        sqlState_firstSignals_iff]
    rw [sqlState_signals, Option.or_eq_some_iff, sqlState_firstSignals_iff,
      silent, nonEmpty_eq_some_iff]
  message text := by rw [message_signals, message_firstSignals_iff]

theorem GivesDriverCode.ne_zero {n : Int64}
    (gives : capabilities.GivesDriverCode n) : n ≠ 0 := by
  cases gives with
  | informed given told nonzero => exact nonzero
  | bare uninformed code nonzero => exact nonzero

theorem GivesState.ne_empty {state : String}
    (gives : capabilities.GivesState state) :
    state ≠ "" := by
  cases gives with
  | informed given told nonempty => exact nonempty
  | bare uninformed code length =>
      rintro rfl
      cases length

theorem signals_with_code {info : ErrorInfo}
    (given : capabilities.info = some info) (code : Option ErrorCode) :
    { capabilities with code }.signals message =
      capabilities.signals message := by
  have same : { capabilities with code }.firstSignals message =
      capabilities.firstSignals message := by
    rw [firstSignals_of_info given, firstSignals_of_info]
    exact given
  rw [signals, signals, same]

theorem signals_with_sqlState {state : String}
    (gives : capabilities.GivesState state) (own : Option String) :
    { capabilities with sqlState := own }.signals message =
      capabilities.signals message := by
  have told : (capabilities.firstSignals message).sqlState = some state :=
    sqlState_firstSignals_iff.mpr gives
  have same : { capabilities with sqlState := own }.firstSignals message =
      capabilities.firstSignals message := rfl
  rw [signals, signals, same, told, Option.some_or, Option.some_or]

end Capabilities

namespace Signals

/-- The signals of an error with the message, from what each probe finds of
it. -/
def ofFindings (findings : List (Option Capabilities)) (message : String) :
    Signals :=
  match findings.findSome? id with
  | some capabilities => capabilities.signals message
  | none => { message }

/-- The first probe that knows the error finds the capabilities. -/
def Finds (findings : List (Option Capabilities))
    (capabilities : Capabilities) : Prop :=
  ∃ unknowing later,
    findings = List.replicate unknowing none ++ some capabilities :: later

variable {findings : List (Option Capabilities)} {message : String}

theorem ofFindings_of_finds {capabilities : Capabilities}
    (finds : Finds findings capabilities) :
    ofFindings findings message = capabilities.signals message := by
  obtain ⟨unknowing, later, rfl⟩ := finds
  simp [ofFindings, List.findSome?_append]

theorem ofFindings_of_unknown (unknown : ∀ finding ∈ findings, finding = none) :
    ofFindings findings message = { message } := by
  have nothing : findings.findSome? id = none :=
    List.findSome?_eq_none_iff.mpr unknown
  rw [ofFindings, nothing]

theorem finds_or_unknown (findings : List (Option Capabilities)) :
    (∃ capabilities, Finds findings capabilities) ∨
      ∀ finding ∈ findings, finding = none := by
  induction findings with
  | nil => exact Or.inr (by simp)
  | cons finding rest ih =>
      cases finding with
      | some capabilities => exact Or.inl ⟨capabilities, 0, rest, rfl⟩
      | none =>
          rcases ih with ⟨capabilities, unknowing, later, rfl⟩ | unknown
          · exact Or.inl ⟨capabilities, unknowing + 1, later, rfl⟩
          · exact Or.inr (List.forall_mem_cons.mpr ⟨rfl, unknown⟩)

theorem extract_eq_ofFindings (probes : List Probe) (report : Report) :
    extract probes report =
      ofFindings (probes.map (·.examine report)) report.message := by
  rw [extract, ofFindings, List.findSome?_map]
  rfl

theorem driverCode_ofFindings_ne_zero :
    (ofFindings findings message).driverCode ≠ some 0 := by
  rcases finds_or_unknown findings with ⟨capabilities, finds⟩ | unknown
  · rw [ofFindings_of_finds finds]
    intro zero
    exact ((capabilities.yields_signals message).driverCode 0).mp
      zero |>.ne_zero rfl
  · rw [ofFindings_of_unknown unknown]
    exact (Option.some_ne_none _).symm

theorem sqlState_ofFindings_ne_empty :
    (ofFindings findings message).sqlState ≠ some "" := by
  rcases finds_or_unknown findings with ⟨capabilities, finds⟩ | unknown
  · rw [ofFindings_of_finds finds]
    intro empty
    rcases ((capabilities.yields_signals message).sqlState "").mp empty with
      gives | ⟨-, -, nonempty⟩
    · exact gives.ne_empty rfl
    · exact nonempty rfl
  · rw [ofFindings_of_unknown unknown]
    exact (Option.some_ne_none _).symm

/-- The first probe that knows the error gives its capabilities, whatever the
probes are, and the signals follow from these in order of precedence. A bare
code does not matter beside structured information, nor an own state code beside
another, and the latter never beyond the state code. -/
theorem extract_by_precedence :
    (∀ probes report, extract probes report =
      ofFindings (probes.map (·.examine report)) report.message) ∧
    ∀ findings message,
      let signals := ofFindings findings message
      signals.driverCode ≠ some 0 ∧ signals.sqlState ≠ some "" ∧
      ((∀ finding ∈ findings, finding = none) →
        signals = { sqlState := none, driverCode := none, message }) ∧
      ∀ capabilities, Finds findings capabilities →
        capabilities.Yields message signals ∧
        (∀ others code, capabilities.info ≠ none →
          Finds others { capabilities with code } →
          ofFindings others message = signals) ∧
        ∀ others own, Finds others { capabilities with sqlState := own } →
          (ofFindings others message).driverCode = signals.driverCode ∧
          (ofFindings others message).message = signals.message ∧
          ((∃ state, capabilities.GivesState state) →
              ofFindings others message = signals) := by
  refine ⟨extract_eq_ofFindings, fun findings message => ?_⟩
  refine ⟨driverCode_ofFindings_ne_zero, sqlState_ofFindings_ne_empty,
    ofFindings_of_unknown, fun capabilities finds => ?_⟩
  rw [ofFindings_of_finds finds]
  refine ⟨capabilities.yields_signals message, ?_, ?_⟩
  · intro others code informed othersFind
    obtain ⟨info, given⟩ := Option.ne_none_iff_exists'.mp informed
    rw [ofFindings_of_finds othersFind, Capabilities.signals_with_code given]
  · intro others own othersFind
    rw [ofFindings_of_finds othersFind]
    refine ⟨rfl, rfl, fun stated => ?_⟩
    obtain ⟨state, gives⟩ := stated
    exact Capabilities.signals_with_sqlState gives own

/-- Information without content hides a bare code, and leaves the own state
code. -/
theorem extract_by_precedence_without_content :
    let capabilities : Capabilities :=
      { info := some {}, code := some (.int 2006), sqlState := some "08S01" }
    let findings := [none, some capabilities,
      some { code := some (.text "40001") }]
    Finds findings capabilities ∧ capabilities.info ≠ none ∧
      (ofFindings findings "gone").sqlState = some "08S01" ∧
      (ofFindings findings "gone").driverCode = none ∧
      ofFindings [some { capabilities with code := none }] "gone" =
          ofFindings findings "gone" := by
  intro capabilities findings
  have finds : Finds findings capabilities := ⟨1, _, rfl⟩
  have informed : capabilities.info ≠ none := Option.some_ne_none _
  obtain ⟨-, -, -, known⟩ := extract_by_precedence.2 findings "gone"
  obtain ⟨-, withoutCode, -⟩ := known capabilities finds
  exact ⟨finds, informed, rfl, rfl, withoutCode _ none informed ⟨0, [], rfl⟩⟩

end Signals

end BulkWrite
