/-!
Signals: what one error tells about its cause. Every error has a message. Errors
of a kind that a probe knows may tell more: structured information, a bare code,
or a state code of their own.
-/

namespace BulkWrite

structure ErrorKind where
  name : String
deriving DecidableEq

namespace ErrorKind

/-- Errors of this library's own type, into which others may be converted. -/
def driver : ErrorKind := ⟨"driver"⟩

def postgres : ErrorKind := ⟨"postgres"⟩

def postgresServer : ErrorKind := ⟨"postgres server"⟩

end ErrorKind

structure ErrorInfo where
  sqlState : Option String := none
  driverCode : Option Int64 := none
  message : Option String := none
deriving DecidableEq

inductive ErrorCode where
  | int (n : Int64)
  | text (s : String)
deriving DecidableEq

structure Capabilities where
  info : Option ErrorInfo := none
  code : Option ErrorCode := none
  sqlState : Option String := none
deriving DecidableEq

structure Report where
  kind : ErrorKind
  message : String
  capabilities : Capabilities := {}

/-- A probe sees the capabilities of errors of its kind. -/
structure Probe where
  kind : ErrorKind
deriving DecidableEq

namespace Probe

def examine (probe : Probe) (report : Report) : Option Capabilities :=
  if report.kind = probe.kind then some report.capabilities else none

def defaults : List Probe := [⟨.driver⟩, ⟨.postgres⟩, ⟨.postgresServer⟩]

end Probe

structure Signals where
  sqlState : Option String := none
  driverCode : Option Int64 := none
  message : String := ""
deriving DecidableEq

/-- An empty text tells nothing. -/
def nonEmpty (s : Option String) : Option String := s.filter (· ≠ "")

namespace ErrorInfo

def signals (info : ErrorInfo) (message : String) : Signals where
  sqlState := nonEmpty info.sqlState
  driverCode := info.driverCode.filter (· ≠ 0)
  message := (nonEmpty info.message).getD message

end ErrorInfo

namespace ErrorCode

def stateLength : Nat := 5

/-- An integer other than zero is a driver code. The first characters of a text
that is long enough are a state code. -/
def signals (code : ErrorCode) (message : String) : Signals :=
  match code with
  | .int n => { message, driverCode := if n = 0 then none else some n }
  | .text s =>
      let state := s.toList.take stateLength
      { message,
        sqlState :=
          if state.length = stateLength then some (String.ofList state)
          else none }

end ErrorCode

namespace Capabilities

/-- Structured information hides a bare code even where it has nothing to
say. -/
def firstSignals (capabilities : Capabilities) (message : String) : Signals :=
  match capabilities.info, capabilities.code with
  | some info, _ => info.signals message
  | none, some code => code.signals message
  | none, none => { message }

/-- The state code of its own is asked for last. -/
def signals (capabilities : Capabilities) (message : String) : Signals :=
  let first := capabilities.firstSignals message
  { first with sqlState := first.sqlState.or (nonEmpty capabilities.sqlState) }

end Capabilities

namespace Signals

/-- The first probe that knows the error gives its capabilities. -/
def extract (probes : List Probe) (report : Report) : Signals :=
  match probes.findSome? (·.examine report) with
  | some capabilities => capabilities.signals report.message
  | none => { message := report.message }

end Signals

end BulkWrite
