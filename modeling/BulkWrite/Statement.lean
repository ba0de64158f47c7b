import BulkWrite.Event
import BulkWrite.Operation

/-!
Statements. A structured statement carries out an operation on a table; a raw
one is text that is taken as it is. Building a statement gives its query or says
what is wrong with it, and one event tells the outcome.
-/

namespace BulkWrite

structure TableStatement where
  table : String
  operation : Operation
  quoter : Quoter := .backtick
  reuseHint : ReuseHint := .none
  /-- Whether the statement is declared to be harmless when repeated. -/
  idempotent : Bool := false

namespace TableStatement

def build (statement : TableStatement) : Except ValidationError Query := do
  let template ← statement.operation.compile statement.table
  return template.toQuery statement.quoter statement.reuseHint

end TableStatement

structure RawStatement where
  sql : String
  params : List Value
  types : TypeMap := .empty
  reuseHint : ReuseHint := .none
  idempotent : Bool := false

namespace RawStatement

def toQuery (statement : RawStatement) : Query :=
  ⟨statement.sql, statement.params, statement.types, statement.reuseHint⟩

end RawStatement

inductive Statement where
  | table (statement : TableStatement)
  | raw (statement : RawStatement)

/-- What is logged of a build. A raw statement has no table. -/
inductive BuildEvent where
  | built (statement : String) (table : Option String) (paramCount : Nat)
      (hint : ReuseHint)
  | rejected (statement : String) (table : Option String)
      (error : ValidationError)

namespace BuildEvent

private def tableField : Option String → List (String × String)
  | some table => [("table", table)]
  | none => []

def fields : BuildEvent → List (String × String)
  | .built statement table paramCount hint =>
      ("message", "statement built") :: ("statement", statement) ::
        tableField table ++
        [("param_count", toString paramCount), ("reuse_hint", hint.name)]
  | .rejected statement table error =>
      ("message", "statement rejected") :: ("statement", statement) ::
        tableField table ++
        [("error", error.message)]

def toEvent (event : BuildEvent) : Event :=
  ⟨"bulksql.build", .debug, event.fields⟩

end BuildEvent

namespace Statement

def name : Statement → String
  | .table statement => statement.operation.name
  | .raw _ => "raw"

def table? : Statement → Option String
  | .table statement => some statement.table
  | .raw _ => none

def isIdempotent : Statement → Bool
  | .table statement => statement.idempotent
  | .raw statement => statement.idempotent

def build : Statement → Except ValidationError Query
  | .table statement => statement.build
  | .raw statement => .ok statement.toQuery

def outcome (statement : Statement) : Except ValidationError Query → BuildEvent
  | .ok query =>
      .built statement.name statement.table? query.params.length query.reuseHint
  | .error error => .rejected statement.name statement.table? error

def buildLogged (statement : Statement) :
    Logged BuildEvent (Except ValidationError Query) :=
  let result := statement.build
  ⟨result, [statement.outcome result]⟩

@[simp] theorem result_buildLogged (statement : Statement) :
    statement.buildLogged.result = statement.build := rfl

end Statement

end BulkWrite
