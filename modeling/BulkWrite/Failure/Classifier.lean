import BulkWrite.Event
import BulkWrite.Failure.Chain
import BulkWrite.Failure.Heuristics
import BulkWrite.ParamType
import BulkWrite.Text.Quoted

/-!
Classification of failures. Of the errors in a chain of causes the innermost one
that means something decides; for a single error a lost connection goes before a
passing conflict. A failure of which no error means anything is fatal.
-/

namespace BulkWrite

/-- What to do about a failure: reconnect and retry, retry, or give up. -/
inductive FailureKind where
  | connection
  | transient
  | fatal
deriving DecidableEq

namespace FailureKind

def all : List FailureKind := [.connection, .transient, .fatal]

def tag : FailureKind → String
  | .connection => "connection"
  | .transient => "transient"
  | .fatal => "fatal"

def ofTag? (tag : String) : Option FailureKind := all.find? (·.tag == tag)

theorem ofTag?_tag (kind : FailureKind) : ofTag? kind.tag = some kind := by
  cases kind <;> decide

def ofJsonText? (text : String) : Option FailureKind := do
  let document ← Json.Document.ofText? text
  ofTag? (← document.tag?)

def isRetryable (kind : FailureKind) : Bool := kind ≠ .fatal

def requiresReconnect (kind : FailureKind) : Bool := kind = .connection

end FailureKind

/-- The outcome, with the depth of the deciding error, counted from the
outermost, and what decided. -/
inductive Verdict where
  | connection (depth : Nat) (reason : MatchReason)
  | transient (depth : Nat) (reason : MatchReason)
  | fatal
deriving DecidableEq

namespace Verdict

def kind : Verdict → FailureKind
  | .connection .. => .connection
  | .transient .. => .transient
  | .fatal => .fatal

def depth? : Verdict → Option Nat
  | .connection depth _ => some depth
  | .transient depth _ => some depth
  | .fatal => none

def reason? : Verdict → Option MatchReason
  | .connection _ reason => some reason
  | .transient _ reason => some reason
  | .fatal => none

end Verdict

inductive ClassifyEvent where
  | inspecting (depth : Nat) (signals : Signals)
  | classified (verdict : Verdict) (chainLength : Nat)
deriving DecidableEq

namespace ClassifyEvent

def optional (shown : Option String) : String :=
  match shown with
  | some s => "Some(" ++ s ++ ")"
  | none => "None"

def level : ClassifyEvent → Level
  | .inspecting .. => .trace
  | .classified .. => .debug

def fields : ClassifyEvent → List (String × String)
  | .inspecting depth signals =>
      [("message", "inspecting error"), ("depth", toString depth),
        ("sql_state", optional (signals.sqlState.map Text.quoted)),
        ("driver_code", optional (signals.driverCode.map fun code =>
          toString code.toInt)),
        ("message", signals.message)]
  | .classified verdict chainLength =>
      [("message", "classified error"), ("error_type", verdict.kind.tag),
        ("depth", optional (verdict.depth?.map toString)),
        ("reason", optional (verdict.reason?.map MatchReason.name)),
        ("chain_len", toString chainLength)]

def toEvent (event : ClassifyEvent) : Event :=
  ⟨"bulksql.classify", event.level, event.fields⟩

end ClassifyEvent

structure Classifier where
  heuristics : Heuristics
  probes : List Probe

namespace Classifier

def ofHeuristics (heuristics : Heuristics) : Classifier :=
  ⟨heuristics, Probe.defaults⟩

def ofRules (rules : Rules) : Classifier := ofHeuristics rules.heuristics

def register (classifier : Classifier) (kind : ErrorKind) : Classifier :=
  { classifier with probes := classifier.probes ++ [⟨kind⟩] }

/-- The verdict that the signals of a single error allow. -/
def judge (classifier : Classifier) (depth : Nat) (signals : Signals) :
    Option Verdict :=
  match classifier.heuristics.connectionIssue signals with
  | some reason => some (.connection depth reason)
  | none =>
      (classifier.heuristics.transientIssue signals).map (.transient depth)

section

variable {ε : Type} [Traceable ε]

def signals (classifier : Classifier) (error : ε) : Signals :=
  Signals.extract classifier.probes (Traceable.report error)

/-- The errors of a chain with their depths, innermost first. -/
def inwardOut (error : ε) : List (ε × Nat) := (causeChain error).zipIdx.reverse

def classify (classifier : Classifier) (error : ε) : Verdict :=
  let verdict? := (inwardOut error).findSome? fun (inner, depth) =>
    classifier.judge depth (classifier.signals inner)
  verdict?.getD .fatal

/-- Inspects errors in the given order up to the deciding one, and logs each. -/
def inspect (classifier : Classifier) :
    List (ε × Nat) → Logged ClassifyEvent Verdict
  | [] => ⟨.fatal, []⟩
  | (error, depth) :: rest =>
      let signals := classifier.signals error
      match classifier.judge depth signals with
      | some verdict => ⟨verdict, [.inspecting depth signals]⟩
      | none =>
          let later := classifier.inspect rest
          ⟨later.result, .inspecting depth signals :: later.events⟩

/-- Classifies an error, and logs the errors inspected on the way and the
verdict. -/
def classifyLogged (classifier : Classifier) (error : ε) :
    Logged ClassifyEvent Verdict :=
  let inspected := classifier.inspect (inwardOut error)
  ⟨inspected.result,
    inspected.events ++
      [.classified inspected.result (causeChain error).length]⟩

end

end Classifier

end BulkWrite
