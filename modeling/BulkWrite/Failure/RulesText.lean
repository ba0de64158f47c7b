import BulkWrite.Failure.Rules
import BulkWrite.Json.Document
import BulkWrite.Json.Printer

/-!
Rules as JSON. Each list has its own field, and a field that is left out keeps
the default list. So a document is read as changes of the default rules.
-/

namespace BulkWrite.Rules

inductive Field where
  | connectionStatePrefixes
  | connectionCodes
  | connectionMessages
  | transientStates
  | transientCodes
  | transientMessages
deriving DecidableEq

namespace Field

/-- The fields in the order in which they are written. -/
def all : List Field :=
  [.connectionStatePrefixes, .connectionCodes, .connectionMessages,
    .transientStates, .transientCodes, .transientMessages]

theorem mem_all (field : Field) : field ∈ all := by
  cases field <;> decide

def name : Field → String
  | .connectionStatePrefixes => "connection_state_prefixes"
  | .connectionCodes => "connection_codes"
  | .connectionMessages => "connection_messages"
  | .transientStates => "transient_states"
  | .transientCodes => "transient_codes"
  | .transientMessages => "transient_messages"

def ofName? (name : String) : Option Field := all.find? (·.name == name)

theorem ofName?_name (field : Field) : ofName? field.name = some field := by
  cases field <;> decide

end Field

def codesJson (codes : CodeSet) : Json :=
  Json.integers (codes.codes.map Int64.toInt)

def fieldJson (rules : Rules) : Field → Json
  | .connectionStatePrefixes => Json.strings rules.connectionStatePrefixes
  | .connectionCodes => codesJson rules.connectionCodes
  | .connectionMessages => Json.strings rules.connectionMessages
  | .transientStates => Json.strings rules.transientStates
  | .transientCodes => codesJson rules.transientCodes
  | .transientMessages => Json.strings rules.transientMessages

def toJson (rules : Rules) : Json :=
  .object (Field.all.map fun field => (field.name, rules.fieldJson field))

def text (rules : Rules) : String := rules.toJson.text

open Json (Document StringText)

def itemString? : Document → Option String
  | .string text => text.string?
  | _ => none

/-- A code is an integer of 64 signed bits, written as one. -/
def itemCode? : Document → Option Int64
  | .number text =>
      match text.value? with
      | some (.integer n) =>
          if Int64.minValue.toInt ≤ n ∧ n ≤ Int64.maxValue.toInt then
            some (Int64.ofInt n)
          else none
      | _ => none
  | _ => none

def listOf? {α : Type} (item? : Document → Option α) :
    Document → Option (List α)
  | .array items => items.mapM item?
  | _ => none

/-- The list of a field, as the change that puts it into rules. -/
def Field.change? (field : Field) (document : Document) : Option Change :=
  match field with
  | .connectionStatePrefixes =>
      .setConnectionStatePrefixes <$> listOf? itemString? document
  | .connectionCodes => .setConnectionCodes <$> listOf? itemCode? document
  | .connectionMessages =>
      .setConnectionMessages <$> listOf? itemString? document
  | .transientStates => .setTransientStates <$> listOf? itemString? document
  | .transientCodes => .setTransientCodes <$> listOf? itemCode? document
  | .transientMessages => .setTransientMessages <$> listOf? itemString? document

def ofFields? (fields : List (Field × Document)) : Option Rules := do
  let changes ← fields.mapM fun (field, document) => field.change? document
  some (default.applyAll changes)

/-- The members whose names are fields. What the others hold does not matter. -/
def knownFields? (members : List (StringText × Document)) :
    Option (List (Field × Document)) := do
  let named ← members.mapM fun (name, document) =>
    (·, document) <$> name.string?
  some (named.filterMap fun (name, document) =>
    (Field.ofName? name).map (·, document))

/-- An object names its fields, each at most once. An array gives the lists in
order and may end early. -/
def ofDocument? : Document → Option Rules
  | .object members => do
      let fields ← knownFields? members
      if (fields.map Prod.fst).Nodup then ofFields? fields else none
  | .array items =>
      if items.length ≤ Field.all.length then ofFields? (Field.all.zip items)
      else none
  | _ => none

def ofText? (text : String) : Option Rules :=
  Document.ofText? text >>= ofDocument?

end BulkWrite.Rules
