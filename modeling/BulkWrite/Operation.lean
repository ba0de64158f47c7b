import BulkWrite.UpdatePlan

/-!
Operations on the rows of one table, and the template of each. Compiling an
operation either finds what is wrong with it or gives a template that names only
what the operation names and binds only its values.
-/

namespace BulkWrite

/-- The rows whose identifier column holds one of the identifiers. -/
structure Selection where
  column : String
  identifiers : List Value
  type : Option ParamType := none

inductive Operation where
  | insert (rows : Batch) (types : ColumnTypes)
  | insertIgnore (rows : Batch) (types : ColumnTypes)
  | upsert (rows : Batch) (types : ColumnTypes) (updateColumns : List String)
  | deleteByIds (selection : Selection)
  | deleteByIdsWithLimit (selection : Selection) (limit : Int64)
  | updateByIds (selection : Selection) (values : Row) (types : ColumnTypes)
  | bulkUpdate (rows : Batch) (types : ColumnTypes) (identifierColumn : String)
      (identifierType : Option ParamType) (updateColumns : List String)

namespace Template

def names (columns : List String) : Template :=
  commaSeparated (columns.map fun column => [Piece.name column])

def binds (bindings : List Binding) : Template :=
  commaSeparated (bindings.map fun binding => [Piece.bind binding])

end Template

namespace Selection

def bindings (selection : Selection) : List Binding :=
  selection.identifiers.map fun value => ⟨value, selection.type⟩

def template (selection : Selection) : Template :=
  Piece.name selection.column :: Piece.text " IN " ::
    Template.parenthesised (Template.binds selection.bindings)

end Selection

namespace Operation

open Piece Template

def name : Operation → String
  | .insert .. => "insert"
  | .insertIgnore .. => "insert_ignore"
  | .upsert .. => "upsert"
  | .deleteByIds .. => "delete_by_ids"
  | .deleteByIdsWithLimit .. => "delete_by_ids_with_limit"
  | .updateByIds .. => "update_by_ids"
  | .bulkUpdate .. => "bulk_update"

def insertTemplate (keywords table : String) (values : RowValues) : Template :=
  text keywords :: Piece.name table :: text " " ::
    parenthesised (names values.columns) ++
    text " VALUES " :: values.template

/-- Gives a column the value that the rejected row had in it. -/
def conflictAssignment (column : String) : Template :=
  [Piece.name column, text " = VALUES(", Piece.name column, text ")"]

def conflictTemplate (updateColumns : List String) : Template :=
  text " ON DUPLICATE KEY UPDATE " :: commaSeparated
    (updateColumns.map conflictAssignment)

def deleteTemplate (table : String) (selection : Selection) : Template :=
  text "DELETE FROM " :: Piece.name table :: text " WHERE " ::
    selection.template

def limitTemplate (limit : Int64) : Template :=
  [text (" LIMIT " ++ toString limit.toInt)]

def updateTemplate (table : String) (assignments : List Template)
    (selection : Selection) : Template :=
  text "UPDATE " :: Piece.name table :: text " SET " ::
    commaSeparated assignments ++
    text " WHERE " :: selection.template

def assignment (types : ColumnTypes) (entry : Entry) : Template :=
  [Piece.name entry.1, text " = ", bind ⟨entry.2, types.get? entry.1⟩]

/-- One case of a column: where the identifier matches, the column takes the
value. -/
def caseTemplate (identifierColumn : String)
    (identifierType valueType : Option ParamType) (pair : Value × Value) :
    Template :=
  [text " WHEN ", Piece.name identifierColumn, text " = ",
    bind ⟨pair.1, identifierType⟩, text " THEN ", bind ⟨pair.2, valueType⟩]

/-- A column keeps its value where no case matches. -/
def casesTemplate (identifierColumn : String)
    (identifierType : Option ParamType) (types : ColumnTypes)
    (column : ColumnCases) : Template :=
  Piece.name column.column :: text " = CASE" ::
    column.cases.flatMap
      (caseTemplate identifierColumn identifierType
        (types.get? column.column)) ++
    [text " ELSE ", Piece.name column.column, text " END"]

def compileDelete (table : String) (selection : Selection) :
    Except ValidationError Template :=
  if selection.identifiers.isEmpty then .error .emptyIdentifiers
  else .ok (deleteTemplate table selection)

def compile (table : String) : Operation → Except ValidationError Template
  | .insert rows types => do
      return insertTemplate "INSERT INTO " table (← rows.values types)
  | .insertIgnore rows types => do
      return insertTemplate "INSERT IGNORE INTO " table (← rows.values types)
  | .upsert rows types updateColumns => do
      if updateColumns.isEmpty then throw .emptyUpdateColumns
      let values ← rows.values types
      let unknown := updateColumns.filter fun column =>
        !values.columns.contains column
      if !unknown.isEmpty then throw (.unknownUpdateColumns unknown)
      return insertTemplate "INSERT INTO " table values ++
        conflictTemplate updateColumns
  | .deleteByIds selection => compileDelete table selection
  | .deleteByIdsWithLimit selection limit => do
      let template ← compileDelete table selection
      if limit ≤ 0 then throw (.invalidLimit limit)
      return template ++ limitTemplate limit
  | .updateByIds selection values types => do
      if selection.identifiers.isEmpty then throw .emptyIdentifiers
      if values.isEmpty then throw .emptyColumnValues
      return updateTemplate table
        (values.entries.map (assignment types)) selection
  | .bulkUpdate rows types identifierColumn identifierType updateColumns => do
      let plan ← UpdatePlan.ofRows rows identifierColumn updateColumns
      return updateTemplate table
        (plan.columns.map (casesTemplate identifierColumn identifierType types))
        ⟨identifierColumn, plan.identifiers, identifierType⟩

end Operation

end BulkWrite
