import BulkWrite.Failure.Heuristics

/-!
What decides an issue. A state code goes before codes and codes go before
phrases, and the reason given tells which of them it was. Of the texts of the
rules only those that are not empty count.
-/

namespace BulkWrite

namespace Issue

def TellsState (issue : Issue) (signals : Signals) : Prop :=
  ∃ state, signals.sqlState = some state ∧ issue.matchesState state = true

def TellsOwnCode (issue : Issue) (signals : Signals) : Prop :=
  ∃ code, signals.driverCode = some code ∧ issue.codes.contains code = true

def TellsCodeInMessage (issue : Issue) (signals : Signals) : Prop :=
  signals.driverCode = none ∧
    ∃ code ∈ messageCodes signals.message, issue.codes.contains code = true

def TellsPhrase (issue : Issue) (signals : Signals) : Prop :=
  ∃ phrase ∈ issue.phrases, phrase <:+: Text.lowercase signals.message.toList

/-- The ways of telling an issue, in the order in which they are tried. -/
inductive Evidence where
  | stateCode
  | ownCode
  | codeInMessage
  | phrase

def reason (issue : Issue) : Evidence → MatchReason
  | .stateCode => issue.stateReason
  | .ownCode => issue.codeReason
  | .codeInMessage => issue.codeInMessageReason
  | .phrase => issue.messageReason

/-- The evidence is there, and none that goes before it. -/
def Decides (issue : Issue) (signals : Signals) : Evidence → Prop
  | .stateCode => issue.TellsState signals
  | .ownCode => ¬ issue.TellsState signals ∧ issue.TellsOwnCode signals
  | .codeInMessage =>
      ¬ issue.TellsState signals ∧ issue.TellsCodeInMessage signals
  | .phrase =>
      ¬ issue.TellsState signals ∧
        (¬ issue.TellsOwnCode signals ∧ ¬ issue.TellsCodeInMessage signals) ∧
          issue.TellsPhrase signals

variable {issue : Issue} {signals : Signals} {reason : MatchReason}

theorem byState?_eq_some_iff :
    issue.byState? signals = some reason ↔
      issue.TellsState signals ∧ issue.stateReason = reason := by
  simp [byState?, TellsState, Option.any_eq_true]

theorem byState?_eq_none_iff :
    issue.byState? signals = none ↔ ¬ issue.TellsState signals := by
  simp [byState?, TellsState, Option.any_eq_true]

theorem byCode?_eq_some_iff :
    issue.byCode? signals = some reason ↔
      (issue.TellsOwnCode signals ∧ issue.codeReason = reason) ∨
        (issue.TellsCodeInMessage signals ∧
            issue.codeInMessageReason = reason) := by
  unfold byCode? TellsOwnCode TellsCodeInMessage
  cases signals.driverCode with
  | some code => simp
  | none => simp

theorem byCode?_eq_none_iff :
    issue.byCode? signals = none ↔
      ¬ issue.TellsOwnCode signals ∧ ¬ issue.TellsCodeInMessage signals := by
  unfold byCode? TellsOwnCode TellsCodeInMessage
  cases signals.driverCode with
  | some code => simp
  | none => simp

theorem byMessage?_eq_some_iff :
    issue.byMessage? signals = some reason ↔
      issue.TellsPhrase signals ∧ issue.messageReason = reason := by
  simp [byMessage?, TellsPhrase, Text.occurs_iff]

theorem find?_eq_some_iff :
    issue.find? signals = some reason ↔
      ∃ evidence, issue.Decides signals evidence ∧
        issue.reason evidence = reason := by
  rw [find?, Option.or_eq_some_iff, Option.or_eq_some_iff, byState?_eq_some_iff,
    byState?_eq_none_iff, byCode?_eq_some_iff, byCode?_eq_none_iff,
    byMessage?_eq_some_iff]
  constructor
  · intro found
    rcases found with ⟨told, same⟩ | ⟨noState,
      (⟨told, same⟩ | ⟨told, same⟩) | ⟨noCode, told, same⟩⟩
    · exact ⟨.stateCode, told, same⟩
    · exact ⟨.ownCode, ⟨noState, told⟩, same⟩
    · exact ⟨.codeInMessage, ⟨noState, told⟩, same⟩
    · exact ⟨.phrase, ⟨noState, noCode, told⟩, same⟩
  · intro found
    obtain ⟨evidence, decides, same⟩ := found
    cases evidence with
    | stateCode => exact Or.inl ⟨decides, same⟩
    | ownCode => exact Or.inr ⟨decides.1, Or.inl (Or.inl ⟨decides.2, same⟩)⟩
    | codeInMessage =>
        exact Or.inr ⟨decides.1, Or.inl (Or.inr ⟨decides.2, same⟩)⟩
    | phrase =>
        exact Or.inr ⟨decides.1, Or.inr ⟨decides.2.1, decides.2.2, same⟩⟩

/-- Where the reasons differ, the one given tells the evidence. -/
theorem find?_eq_reason_iff (distinct : Function.Injective issue.reason)
    (evidence : Evidence) :
    issue.find? signals = some (issue.reason evidence) ↔
      issue.Decides signals evidence := by
  rw [find?_eq_some_iff]
  constructor
  · intro found
    obtain ⟨other, decides, same⟩ := found
    exact distinct same ▸ decides
  · intro decides
    exact ⟨evidence, decides, rfl⟩

end Issue

namespace Rules

variable {rules : Rules} {signals : Signals}

theorem connection_reason_injective :
    Function.Injective rules.connection.reason := by
  intro first second same
  cases first <;> cases second <;> first | rfl | cases same

theorem transient_reason_injective :
    Function.Injective rules.transient.reason := by
  intro first second same
  cases first <;> cases second <;> first | rfl | cases same

theorem mem_withoutEmpty_iff {texts : List String} {text : String} :
    text ∈ withoutEmpty texts ↔ text ∈ texts ∧ text ≠ "" := by
  simp [withoutEmpty]

theorem mem_smallPhrases_iff {texts : List String} {phrase : List Char} :
    phrase ∈ smallPhrases texts ↔
      ∃ text ∈ texts, text ≠ "" ∧ Text.lowercase text.toList = phrase := by
  simp only [smallPhrases, List.mem_map, mem_withoutEmpty_iff, and_assoc]

def ListsPrefix (rules : Rules) (signals : Signals) : Prop :=
  ∃ start ∈ rules.connectionStatePrefixes, start ≠ "" ∧
    ∃ state, signals.sqlState = some state ∧ start.toList <+: state.toList

def ListsState (rules : Rules) (signals : Signals) : Prop :=
  ∃ state ∈ rules.transientStates, state ≠ "" ∧ signals.sqlState = some state

def FindsPhrase (texts : List String) (signals : Signals) : Prop :=
  ∃ text ∈ texts, text ≠ "" ∧
    Text.lowercase text.toList <:+: Text.lowercase signals.message.toList

theorem connection_tellsState_iff :
    rules.connection.TellsState signals ↔ rules.ListsPrefix signals := by
  simp only [Issue.TellsState, connection, List.any_eq_true,
    List.isPrefixOf_iff_prefix, mem_withoutEmpty_iff, ListsPrefix]
  constructor
  · intro told
    obtain ⟨state, own, start, listed, begins⟩ := told
    exact ⟨start, listed.1, listed.2, state, own, begins⟩
  · intro told
    obtain ⟨start, listed, nonempty, state, own, begins⟩ := told
    exact ⟨state, own, start, ⟨listed, nonempty⟩, begins⟩

theorem transient_tellsState_iff :
    rules.transient.TellsState signals ↔ rules.ListsState signals := by
  simp only [Issue.TellsState, transient, List.contains_iff_mem,
    mem_withoutEmpty_iff, ListsState]
  constructor
  · intro told
    obtain ⟨state, own, listed, nonempty⟩ := told
    exact ⟨state, listed, nonempty, own⟩
  · intro told
    obtain ⟨state, listed, nonempty, own⟩ := told
    exact ⟨state, own, listed, nonempty⟩

theorem tellsPhrase_iff {issue : Issue} {texts : List String}
    (listed : issue.phrases = smallPhrases texts) :
    issue.TellsPhrase signals ↔ FindsPhrase texts signals := by
  simp only [Issue.TellsPhrase, listed, mem_smallPhrases_iff, FindsPhrase]
  constructor
  · intro told
    obtain ⟨-, ⟨text, member, nonempty, rfl⟩, found⟩ := told
    exact ⟨text, member, nonempty, found⟩
  · intro told
    obtain ⟨text, member, nonempty, found⟩ := told
    exact ⟨_, ⟨text, member, nonempty, rfl⟩, found⟩

end Rules

end BulkWrite
