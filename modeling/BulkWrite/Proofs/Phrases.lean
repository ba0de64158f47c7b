import BulkWrite.Proofs.Deciding
import BulkWrite.Proofs.Lowercasing

/-!
Phrases in messages. A phrase of ASCII characters is found in any letter case
and between any texts. Of other phrases the small letters depend on what stands
around them, so that a phrase may go unseen in a message that has it word for
word.
-/

namespace BulkWrite

namespace Issue

variable {issue : Issue} {signals : Signals}

/-- A phrase of the issue always decides it where state codes and codes do
not. -/
theorem find?_of_phrase {phrase : List Char} (listed : phrase ∈ issue.phrases)
    (stands : phrase <:+: Text.lowercase signals.message.toList) :
    issue.find? signals =
      some (((issue.byState? signals).or (issue.byCode? signals)).getD
          issue.messageReason) := by
  have told : issue.byMessage? signals = some issue.messageReason :=
    byMessage?_eq_some_iff.mpr ⟨⟨phrase, listed, stands⟩, rfl⟩
  rw [find?, told, ← Option.or_assoc]
  cases (issue.byState? signals).or (issue.byCode? signals) with
  | none => rfl
  | some reason => rfl

end Issue

namespace Rules

theorem mem_smallPhrases {texts : List String} {phrase : String}
    (nonempty : phrase ≠ "") (listed : phrase ∈ texts) :
    Text.lowercase phrase.toList ∈ smallPhrases texts :=
  mem_smallPhrases_iff.mpr ⟨phrase, listed, nonempty, rfl⟩

/-- Whichever list has the phrase, the message is enough for its issue, and only
a state code or a code can decide instead. -/
structure Detects (rules : Rules) (phrase : String) (signals : Signals) :
    Prop where
  isConnection : phrase ∈ rules.connectionMessages →
    rules.heuristics.isConnectionIssue signals = true
  isTransient : phrase ∈ rules.transientMessages →
    rules.heuristics.isTransientIssue signals = true
  connectionReason : phrase ∈ rules.connectionMessages →
    rules.heuristics.connectionIssue signals =
      some (((rules.connection.byState? signals).or
        (rules.connection.byCode? signals)).getD .connectionMessage)
  transientReason : phrase ∈ rules.transientMessages →
    rules.heuristics.transientIssue signals =
      some (((rules.transient.byState? signals).or
        (rules.transient.byCode? signals)).getD .transientMessage)

theorem detects_of_stands (rules : Rules) {phrase : String}
    (nonempty : phrase ≠ "") {signals : Signals}
    (stands : Text.lowercase phrase.toList <:+:
      Text.lowercase signals.message.toList) :
    rules.Detects phrase signals := by
  have connection (listed : phrase ∈ rules.connectionMessages) :
      rules.heuristics.connectionIssue signals = _ :=
    rules.connection.find?_of_phrase (mem_smallPhrases nonempty listed) stands
  have transient (listed : phrase ∈ rules.transientMessages) :
      rules.heuristics.transientIssue signals = _ :=
    rules.transient.find?_of_phrase (mem_smallPhrases nonempty listed) stands
  exact ⟨fun listed => Option.isSome_of_eq_some (connection listed),
    fun listed => Option.isSome_of_eq_some (transient listed), connection,
    transient⟩

theorem stands_of_toLower_eq {phrase spelling before after message : List Char}
    (ascii : ∀ c ∈ phrase, c.toNat < 128)
    (recased : spelling.map Char.toLower = phrase.map Char.toLower)
    (split : message = before ++ spelling ++ after) :
    Text.lowercase phrase <:+: Text.lowercase message := by
  have asciiSpelling : ∀ c ∈ spelling, c.toNat < 128 := by
    intro c member
    have small : c.toLower ∈ phrase.map Char.toLower := recased ▸
      List.mem_map_of_mem member
    obtain ⟨d, listed, same⟩ := List.mem_map.mp small
    exact Text.ascii_of_toLower_eq same.symm (ascii d listed)
  have stands := Text.infix_lowercase before spelling after
  rw [Text.lowercaseBetween_ascii asciiSpelling, recased,
    ← Text.lowercaseBetween_ascii ascii, Text.lowercaseBetween_none] at stands
  rwa [split]

/-- An ASCII phrase is detected in any letter case and between any texts. -/
theorem ascii_phrase_detected (rules : Rules) {phrase : String}
    (nonempty : phrase ≠ "") (ascii : ∀ c ∈ phrase.toList, c.toNat < 128)
    {before spelling after : List Char}
    (recased : spelling.map Char.toLower = phrase.toList.map Char.toLower)
    {signals : Signals}
    (split : signals.message.toList = before ++ spelling ++ after) :
    rules.Detects phrase signals :=
  rules.detects_of_stands nonempty (stands_of_toLower_eq ascii recased split)

/-- A code that the rules do not list leaves the decision to the phrase. -/
theorem ascii_phrase_detected_between_sigmas :
    let signals : Signals := ⟨some "42000", some 1064, "ΑΣGone AWAYΣİ"⟩
    "gone away" ≠ "" ∧ (∀ c ∈ "gone away".toList, c.toNat < 128) ∧
      "Gone AWAY".toList.map Char.toLower =
        "gone away".toList.map Char.toLower ∧
      signals.message.toList =
        "ΑΣ".toList ++ "Gone AWAY".toList ++ "Σİ".toList ∧
      "gone away" ∈ default.connectionMessages ∧
      default.heuristics.isConnectionIssue signals = true ∧
      default.heuristics.connectionIssue signals = some .connectionMessage := by
  intro signals
  have nonempty : "gone away" ≠ "" := by decide
  have checked : "gone away".toList.all (fun c => c.toNat < 128) = true := by
    decide
  have ascii : ∀ c ∈ "gone away".toList, c.toNat < 128 :=
    fun c member => of_decide_eq_true (List.all_eq_true.mp checked c member)
  have recased :
      "Gone AWAY".toList.map Char.toLower =
        "gone away".toList.map Char.toLower := by decide
  have split :
      signals.message.toList =
        "ΑΣ".toList ++ "Gone AWAY".toList ++ "Σİ".toList := by decide
  have listed : "gone away" ∈ default.connectionMessages := by decide
  have detects := ascii_phrase_detected default nonempty ascii recased split
  refine ⟨nonempty, ascii, recased, split, listed, detects.isConnection listed,
    ?_⟩
  rw [detects.connectionReason listed]
  decide

/-- A phrase is detected where a message has it word for word and its capital
sigmas have the same small form there as in the phrase alone. -/
theorem verbatim_phrase_detected_of_sameSigmas (rules : Rules) {phrase : String}
    (nonempty : phrase ≠ "") {before after : List Char} {signals : Signals}
    (split : signals.message.toList = before ++ phrase.toList ++ after) :
    let here : Text.Margins := ⟨before.reverse, after⟩
    Text.lowercaseBetween here phrase.toList <:+:
      Text.lowercase signals.message.toList ∧
      (Text.lowercaseBetween here phrase.toList = Text.lowercase phrase.toList ↔
        Text.SameSigmas here .none phrase.toList) ∧
      (Text.SettlesSigmas phrase.toList →
        Text.SameSigmas here .none phrase.toList) ∧
      (Text.SameSigmas here .none phrase.toList →
          rules.Detects phrase signals) := by
  intro here
  have stands : Text.lowercaseBetween here phrase.toList <:+:
      Text.lowercase signals.message.toList := by
    rw [split]
    exact Text.infix_lowercase before phrase.toList after
  have agree : Text.lowercaseBetween here phrase.toList =
      Text.lowercase phrase.toList ↔
      Text.SameSigmas here .none phrase.toList := by
    rw [← Text.lowercaseBetween_none, Text.lowercaseBetween_eq_iff]
  refine ⟨stands, agree, Text.sameSigmas_of_settlesSigmas, fun same => ?_⟩
  rw [agree.mpr same] at stands
  exact rules.detects_of_stands nonempty stands

theorem verbatim_phrase_detected_of_sameSigmas_at_its_start :
    let rules := default.apply (.extendTransientMessages ["ΣΥΓΚΡΟΥΣΗ"])
    let signals : Signals := { message := "ΔΙΑΣΥΓΚΡΟΥΣΗ" }
    "ΣΥΓΚΡΟΥΣΗ" ≠ "" ∧ "ΣΥΓΚΡΟΥΣΗ" ∈ rules.transientMessages ∧
      signals.message.toList = "ΔΙΑ".toList ++ "ΣΥΓΚΡΟΥΣΗ".toList ++ [] ∧
      Text.SameSigmas ⟨"ΔΙΑ".toList.reverse, []⟩ .none "ΣΥΓΚΡΟΥΣΗ".toList ∧
      rules.heuristics.transientIssue signals = some .transientMessage := by
  intro rules signals
  have nonempty : "ΣΥΓΚΡΟΥΣΗ" ≠ "" := by decide
  have listed : "ΣΥΓΚΡΟΥΣΗ" ∈ rules.transientMessages := by decide
  have split : signals.message.toList =
    "ΔΙΑ".toList ++ "ΣΥΓΚΡΟΥΣΗ".toList ++ [] := by decide
  obtain ⟨-, agree, -, detects⟩ :=
    verbatim_phrase_detected_of_sameSigmas rules nonempty split
  have same := agree.mp (by decide +kernel)
  refine ⟨nonempty, listed, split, same, ?_⟩
  rw [(detects same).transientReason listed]
  decide

/-- The stem of a word is overlooked in the word: alone it ends in a final
sigma. -/
theorem verbatim_phrase_overlooked :
    let rules := default.apply (.setConnectionMessages ["ΑΠΟΣΥΝΔΕΣ"])
    let signals : Signals := { message := "ΑΠΟΣΥΝΔΕΣΗ" }
    "ΑΠΟΣΥΝΔΕΣ" ≠ "" ∧ "ΑΠΟΣΥΝΔΕΣ" ∈ rules.connectionMessages ∧
      signals.message.toList = [] ++ "ΑΠΟΣΥΝΔΕΣ".toList ++ "Η".toList ∧
      rules.heuristics.connectionIssue signals = none := by
  decide +kernel

end Rules

end BulkWrite
