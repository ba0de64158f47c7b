import BulkWrite.Failure.MessageCodes
import BulkWrite.Failure.Rules
import BulkWrite.Failure.Signals
import BulkWrite.Text.Lowercase
import BulkWrite.Text.Occurrence

/-!
Heuristics decide from the signals of one error whether it means a lost
connection or a passing conflict. Rules give such heuristics: state codes are
asked first, then codes, then phrases.
-/

namespace BulkWrite

inductive MatchReason where
  | connectionState
  | connectionCode
  | connectionCodeInMessage
  | connectionMessage
  | transientState
  | transientCode
  | transientCodeInMessage
  | transientMessage
deriving DecidableEq

namespace MatchReason

def name : MatchReason → String
  | .connectionState => "ConnectionState"
  | .connectionCode => "ConnectionCode"
  | .connectionCodeInMessage => "ConnectionCodeInMessage"
  | .connectionMessage => "ConnectionMessage"
  | .transientState => "TransientState"
  | .transientCode => "TransientCode"
  | .transientCodeInMessage => "TransientCodeInMessage"
  | .transientMessage => "TransientMessage"

end MatchReason

structure Heuristics where
  connectionIssue : Signals → Option MatchReason
  transientIssue : Signals → Option MatchReason

namespace Heuristics

def isConnectionIssue (heuristics : Heuristics) (signals : Signals) : Bool :=
  (heuristics.connectionIssue signals).isSome

def isTransientIssue (heuristics : Heuristics) (signals : Signals) : Bool :=
  (heuristics.transientIssue signals).isSome

end Heuristics

/-- One kind of issue: what tells it, and the reason given for each way of
telling. -/
structure Issue where
  matchesState : String → Bool
  codes : CodeSet
  /-- Phrases in small letters, none of them empty. -/
  phrases : List (List Char)
  stateReason : MatchReason
  codeReason : MatchReason
  codeInMessageReason : MatchReason
  messageReason : MatchReason

namespace Issue

def byState? (issue : Issue) (signals : Signals) : Option MatchReason :=
  if signals.sqlState.any issue.matchesState then some issue.stateReason
  else none

/-- Codes in the message count only for an error without a code of its own. -/
def byCode? (issue : Issue) (signals : Signals) : Option MatchReason :=
  match signals.driverCode with
  | some code =>
      if issue.codes.contains code then some issue.codeReason else none
  | none =>
      if (messageCodes signals.message).any issue.codes.contains then
        some issue.codeInMessageReason
      else none

/-- Phrases are found in any letter case. -/
def byMessage? (issue : Issue) (signals : Signals) : Option MatchReason :=
  let message := Text.lowercase signals.message.toList
  if issue.phrases.any fun phrase => Text.occurs phrase message then
    some issue.messageReason
  else none

def find? (issue : Issue) (signals : Signals) : Option MatchReason :=
  (issue.byState? signals).or
    ((issue.byCode? signals).or (issue.byMessage? signals))

end Issue

namespace Rules

/-- An empty text would be found everywhere and is left out. -/
def withoutEmpty (texts : List String) : List String := texts.filter (· ≠ "")

def smallPhrases (texts : List String) : List (List Char) :=
  (withoutEmpty texts).map fun text => Text.lowercase text.toList

def connection (rules : Rules) : Issue where
  matchesState state :=
    (withoutEmpty rules.connectionStatePrefixes).any fun start =>
      start.toList.isPrefixOf state.toList
  codes := rules.connectionCodes
  phrases := smallPhrases rules.connectionMessages
  stateReason := .connectionState
  codeReason := .connectionCode
  codeInMessageReason := .connectionCodeInMessage
  messageReason := .connectionMessage

def transient (rules : Rules) : Issue where
  matchesState state := (withoutEmpty rules.transientStates).contains state
  codes := rules.transientCodes
  phrases := smallPhrases rules.transientMessages
  stateReason := .transientState
  codeReason := .transientCode
  codeInMessageReason := .transientCodeInMessage
  messageReason := .transientMessage

def heuristics (rules : Rules) : Heuristics where
  connectionIssue := rules.connection.find?
  transientIssue := rules.transient.find?

end Rules

end BulkWrite
