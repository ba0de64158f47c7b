import BulkWrite.Failure.Classifier
import BulkWrite.Proofs.Deciding
import BulkWrite.Proofs.Lowercasing
import Mathlib.Data.Set.Basic

/-!
Respelling of rules. What counts of a list of texts is the set of those that are
not empty, and of phrases the set of their small letters, in which a sigma has
the form of its place in the phrase. Rules of which the same counts classify
every failure alike.
-/

namespace BulkWrite

namespace Issue

variable {issue other : Issue}

/-- The same tells both issues, and for the same reasons. -/
structure Alike (issue other : Issue) : Prop where
  states : ∀ signals, issue.TellsState signals ↔ other.TellsState signals
  codes : ∀ code, issue.codes.contains code = other.codes.contains code
  phrases : ∀ signals, issue.TellsPhrase signals ↔ other.TellsPhrase signals
  reasons : issue.reason = other.reason

theorem Alike.find?_eq (alike : issue.Alike other) :
    issue.find? = other.find? := by
  have decides (signals : Signals) (evidence : Evidence) :
      issue.Decides signals evidence ↔ other.Decides signals evidence := by
    cases evidence <;>
      simp only [Decides, TellsOwnCode, TellsCodeInMessage, alike.states,
        alike.codes, alike.phrases]
  funext signals
  apply Option.ext
  intro reason
  rw [find?_eq_some_iff, find?_eq_some_iff]
  apply exists_congr
  intro evidence
  rw [decides, alike.reasons]

end Issue

def smallText (text : String) : List Char := Text.lowercase text.toList

/-- The texts that are not empty, each by what it counts as. -/
def counted {α : Type} (key : String → α) (texts : List String) : Set α :=
  { value | ∃ text ∈ texts, text ≠ "" ∧ key text = value }

/-- Changes of a list of texts that leave what counts. -/
inductive Respelled {α : Type} (key : String → α) :
    List String → List String → Prop
  | reordered {texts other : List String} (same : texts.Perm other) :
      Respelled key texts other
  | repeated {texts : List String} {text : String} (listed : text ∈ texts) :
      Respelled key texts (text :: texts)
  | empty {texts : List String} : Respelled key texts ("" :: texts)
  | recased {texts : List String} {text other : String} (nonempty : text ≠ "")
      (otherNonempty : other ≠ "") (same : key text = key other) :
      Respelled key (text :: texts) (other :: texts)
  | symm {texts other : List String} (respelled : Respelled key texts other) :
      Respelled key other texts
  | trans {texts middle other : List String}
      (first : Respelled key texts middle)
      (second : Respelled key middle other) : Respelled key texts other

section

variable {α : Type} {key : String → α} {texts other : List String}

theorem exists_counted_iff {property : α → Prop} :
    (∃ text ∈ texts, text ≠ "" ∧ property (key text)) ↔
      ∃ value ∈ counted key texts, property value := by
  constructor
  · intro found
    obtain ⟨text, listed, nonempty, holds⟩ := found
    exact ⟨key text, ⟨text, listed, nonempty, rfl⟩, holds⟩
  · intro found
    obtain ⟨-, ⟨text, listed, nonempty, rfl⟩, holds⟩ := found
    exact ⟨text, listed, nonempty, holds⟩

theorem counted_withoutEmpty (texts : List String) :
    counted key (Rules.withoutEmpty texts) = counted key texts := by
  ext value
  constructor
  · intro counts
    obtain ⟨text, member, counts⟩ := counts
    exact ⟨text, (Rules.mem_withoutEmpty_iff.mp member).1, counts⟩
  · intro counts
    obtain ⟨text, member, nonempty, same⟩ := counts
    exact ⟨text, Rules.mem_withoutEmpty_iff.mpr ⟨member, nonempty⟩, nonempty,
      same⟩

theorem smallText_ofList_smallText (text : String) :
    smallText (String.ofList (smallText text)) = smallText text := by
  rw [smallText, smallText, String.toList_ofList, Text.lowercase_lowercase]

theorem counted_smallPhrases (texts : List String) :
    counted smallText ((Rules.smallPhrases texts).map String.ofList) =
      counted smallText texts := by
  ext value
  constructor
  · intro counts
    obtain ⟨plain, member, -, rfl⟩ := counts
    obtain ⟨small, phrase, rfl⟩ := List.mem_map.mp member
    obtain ⟨text, listed, nonempty, rfl⟩ := Rules.mem_smallPhrases_iff.mp phrase
    exact ⟨text, listed, nonempty, (smallText_ofList_smallText text).symm⟩
  · intro counts
    obtain ⟨text, listed, nonempty, rfl⟩ := counts
    have phrase := Rules.mem_smallPhrases_iff.mpr ⟨text, listed, nonempty, rfl⟩
    refine ⟨_, List.mem_map_of_mem phrase, fun empty => nonempty ?_,
      smallText_ofList_smallText text⟩
    have small : Text.lowercase text.toList = [] := by simpa using empty
    exact String.toList_eq_nil_iff.mp (Text.lowercase_eq_nil_iff.mp small)

theorem exists_iff_of_counted_eq (same : counted key texts = counted key other)
    (property : α → Prop) :
    (∃ text ∈ texts, text ≠ "" ∧ property (key text)) ↔
      ∃ text ∈ other, text ≠ "" ∧ property (key text) := by
  rw [exists_counted_iff, same, exists_counted_iff]

theorem Respelled.counted_eq (respelled : Respelled key texts other) :
    counted key texts = counted key other := by
  induction respelled with
  | reordered same =>
      ext value
      simp only [counted, Set.mem_ofPred_eq, same.mem_iff]
  | repeated listed =>
      ext value
      constructor
      · intro counts
        obtain ⟨text, member, counts⟩ := counts
        exact ⟨text, List.mem_cons_of_mem _ member, counts⟩
      · intro counts
        obtain ⟨text, member, counts⟩ := counts
        rcases List.mem_cons.mp member with rfl | earlier
        · exact ⟨text, listed, counts⟩
        · exact ⟨text, earlier, counts⟩
  | empty =>
      ext value
      simp [counted]
  | recased nonempty otherNonempty same =>
      ext value
      simp [counted, nonempty, otherNonempty, same]
  | symm respelled ih => exact ih.symm
  | trans first second firstIh secondIh => exact firstIh.trans secondIh

end

namespace Rules

variable {rules other : Rules} {signals : Signals}

/-- The same counts of both rules: of phrases their small letters, of other
texts all of it. -/
structure Alike (rules other : Rules) : Prop where
  statePrefixes :
    counted id rules.connectionStatePrefixes =
      counted id other.connectionStatePrefixes
  connectionCodes : ∀ code,
    rules.connectionCodes.contains code = other.connectionCodes.contains code
  connectionMessages :
    counted smallText rules.connectionMessages =
      counted smallText other.connectionMessages
  states : counted id rules.transientStates = counted id other.transientStates
  transientCodes : ∀ code,
    rules.transientCodes.contains code = other.transientCodes.contains code
  transientMessages :
    counted smallText rules.transientMessages =
      counted smallText other.transientMessages

/-- Every list of the one rules is a respelling of the other's. -/
structure Respelling (rules other : Rules) : Prop where
  statePrefixes : Respelled id rules.connectionStatePrefixes
    other.connectionStatePrefixes
  connectionCodes : ∀ code,
    rules.connectionCodes.contains code = other.connectionCodes.contains code
  connectionMessages :
    Respelled smallText rules.connectionMessages other.connectionMessages
  states : Respelled id rules.transientStates other.transientStates
  transientCodes : ∀ code,
    rules.transientCodes.contains code = other.transientCodes.contains code
  transientMessages :
    Respelled smallText rules.transientMessages other.transientMessages

theorem Respelling.alike (respelling : rules.Respelling other) :
    rules.Alike other where
  statePrefixes := respelling.statePrefixes.counted_eq
  connectionCodes := respelling.connectionCodes
  connectionMessages := respelling.connectionMessages.counted_eq
  states := respelling.states.counted_eq
  transientCodes := respelling.transientCodes
  transientMessages := respelling.transientMessages.counted_eq

/-- The rules as plain sets: without empty texts, and with phrases in small
letters. -/
def normalised (rules : Rules) : Rules where
  connectionStatePrefixes := withoutEmpty rules.connectionStatePrefixes
  connectionCodes := rules.connectionCodes
  connectionMessages :=
    (smallPhrases rules.connectionMessages).map String.ofList
  transientStates := withoutEmpty rules.transientStates
  transientCodes := rules.transientCodes
  transientMessages := (smallPhrases rules.transientMessages).map String.ofList

theorem alike_normalised (rules : Rules) : rules.Alike rules.normalised where
  statePrefixes := (counted_withoutEmpty _).symm
  connectionCodes _ := rfl
  connectionMessages := (counted_smallPhrases _).symm
  states := (counted_withoutEmpty _).symm
  transientCodes _ := rfl
  transientMessages := (counted_smallPhrases _).symm

theorem findsPhrase_iff_of_counted_eq {texts others : List String}
    (same : counted smallText texts = counted smallText others) :
    FindsPhrase texts signals ↔ FindsPhrase others signals :=
  exists_iff_of_counted_eq same fun phrase => phrase <:+:
    Text.lowercase signals.message.toList

theorem Alike.connection (alike : rules.Alike other) :
    rules.connection.Alike other.connection where
  states signals := by
    rw [connection_tellsState_iff, connection_tellsState_iff]
    exact exists_iff_of_counted_eq alike.statePrefixes fun start =>
      ∃ state, signals.sqlState = some state ∧ start.toList <+: state.toList
  codes := alike.connectionCodes
  phrases signals := by
    rw [tellsPhrase_iff rfl, tellsPhrase_iff rfl]
    exact findsPhrase_iff_of_counted_eq alike.connectionMessages
  reasons := by
    funext evidence
    cases evidence <;> rfl

theorem Alike.transient (alike : rules.Alike other) :
    rules.transient.Alike other.transient where
  states signals := by
    rw [transient_tellsState_iff, transient_tellsState_iff]
    exact exists_iff_of_counted_eq alike.states fun state => signals.sqlState =
      some state
  codes := alike.transientCodes
  phrases signals := by
    rw [tellsPhrase_iff rfl, tellsPhrase_iff rfl]
    exact findsPhrase_iff_of_counted_eq alike.transientMessages
  reasons := by
    funext evidence
    cases evidence <;> rfl

theorem Alike.heuristics_eq (alike : rules.Alike other) :
    rules.heuristics = other.heuristics := by
  rw [heuristics, heuristics, alike.connection.find?_eq,
    alike.transient.find?_eq]

/-- Every match is one of a text that is not empty. -/
structure MatchesText (rules : Rules) (signals : Signals) : Prop where
  statePrefix : rules.heuristics.connectionIssue signals =
    some .connectionState →
    rules.ListsPrefix signals
  connectionPhrase : rules.heuristics.connectionIssue signals =
    some .connectionMessage →
    FindsPhrase rules.connectionMessages signals
  state : rules.heuristics.transientIssue signals = some .transientState →
    rules.ListsState signals
  transientPhrase : rules.heuristics.transientIssue signals =
    some .transientMessage →
    FindsPhrase rules.transientMessages signals

theorem matchesText (rules : Rules) (signals : Signals) :
    rules.MatchesText signals where
  statePrefix found :=
    connection_tellsState_iff.mp
      ((Issue.find?_eq_reason_iff connection_reason_injective .stateCode).mp
        found)
  connectionPhrase found :=
    (tellsPhrase_iff rfl).mp
      ((Issue.find?_eq_reason_iff connection_reason_injective .phrase).mp
        found).2.2
  state found :=
    transient_tellsState_iff.mp
      ((Issue.find?_eq_reason_iff transient_reason_injective .stateCode).mp
        found)
  transientPhrase found :=
    (tellsPhrase_iff rfl).mp
      ((Issue.find?_eq_reason_iff transient_reason_injective .phrase).mp
        found).2.2

end Rules

namespace Classifier

/-- Rules of which the same counts classify every failure alike. Order and
repetitions do not count, nor do empty texts, which never match, nor the case of
letters in a phrase, of ASCII letters in any phrase and of all letters in one
without capital sigmas. -/
theorem only_counted_texts_matter (rules : Rules) (probes : List Probe)
    {ε : Type} [Traceable ε] (error : ε) :
    (∀ other, rules.Alike other →
      classify ⟨rules.heuristics, probes⟩ error =
        classify ⟨other.heuristics, probes⟩ error) ∧
    (∀ other, rules.Respelling other → rules.Alike other) ∧
    rules.Alike rules.normalised ∧
    (∀ first second : String,
      first.toList.map Char.toLower = second.toList.map Char.toLower →
        smallText first = smallText second) ∧
    (∀ first second : String, Text.capitalSigma ∉ first.toList →
      Text.capitalSigma ∉ second.toList →
        (first.toList.flatMap fun c => Text.lowercaseChar [] c []) =
          (second.toList.flatMap fun c => Text.lowercaseChar [] c []) →
        smallText first = smallText second) ∧
    (∀ signals, rules.MatchesText signals) := by
  refine ⟨fun other alike => ?_, fun other respelling => respelling.alike,
    rules.alike_normalised,
    fun first second same => Text.lowercase_eq_of_toLower_eq same, ?_,
    rules.matchesText⟩
  · rw [alike.heuristics_eq]
  · intro first second absent otherAbsent same
    rw [smallText, Text.lowercase, Text.lowercaseFrom_of_no_sigma absent, same,
      ← Text.lowercaseFrom_of_no_sigma otherAbsent []]
    rfl

theorem only_counted_texts_matter_respelled :
    let rules := Rules.default.applyAll
      [.setConnectionStatePrefixes ["08", "57P"], .setConnectionMessages [],
        .setTransientMessages ["Deadlock", "ΟΔΟΣ"]]
    let other := Rules.default.applyAll
      [.setConnectionStatePrefixes ["", "57P", "57P", "08"],
        .setConnectionMessages [""],
        .setTransientMessages ["", "deadLOCK", "ΟΔΟΣ"]]
    let failure := Failure.wrap ⟨.driver, "", { sqlState := some "57P01" }⟩
      (.root ⟨.driver, "DEADLOCK found", {}⟩)
    rules.Respelling other ∧ rules.Alike other ∧
      classify ⟨rules.heuristics, Probe.defaults⟩ failure =
        .transient 1 .transientMessage ∧
      classify ⟨other.heuristics, Probe.defaults⟩ failure =
        .transient 1 .transientMessage := by
  intro rules other failure
  obtain ⟨same, respellings, -, recasings, -, -⟩ :=
    only_counted_texts_matter rules Probe.defaults failure
  have recased : smallText "Deadlock" = smallText "deadLOCK" :=
    recasings _ _ (by decide)
  have respelling : rules.Respelling other := {
    statePrefixes := .trans (.reordered (by decide))
      (.trans (.repeated (by decide)) .empty)
    connectionCodes _ := rfl
    connectionMessages := .empty
    states := .reordered (.refl _)
    transientCodes _ := rfl
    transientMessages := .trans
      (.recased (by decide) (by decide) recased) .empty }
  have alike : rules.Alike other := respellings other respelling
  have verdict : classify ⟨rules.heuristics, Probe.defaults⟩ failure =
      .transient 1 .transientMessage := by decide
  exact ⟨respelling, alike, verdict, same other alike ▸ verdict⟩

/-- A phrase that ends in a capital sigma means less than the same phrase with a
small one. -/
theorem recased_phrase_changes_verdict :
    let rules := Rules.default.apply (.setConnectionMessages ["ΟΔΟΣ"])
    let other := Rules.default.apply (.setConnectionMessages ["οδοσ"])
    let failure := Failure.root ⟨.driver, "ΟΔΟΣΑ", {}⟩
    "ΟΔΟΣ".toList.map Text.smallLetter =
        "οδοσ".toList.map Text.smallLetter ∧
      classify ⟨rules.heuristics, Probe.defaults⟩ failure = .fatal ∧
      classify ⟨other.heuristics, Probe.defaults⟩ failure =
        .connection 0 .connectionMessage := by
  decide +kernel

end Classifier

end BulkWrite
