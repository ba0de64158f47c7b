import BulkWrite.Batch

/-!
Update plans: for each updated column the value that it takes for each
identifier. Repeated identifiers stay, and the first of them counts when the
plan is carried out.
-/

namespace BulkWrite

/-- The cases of one column: identifier and value for each row. -/
structure ColumnCases where
  column : String
  cases : List (Value × Value)

structure UpdatePlan where
  identifiers : List Value
  columns : List ColumnCases

namespace UpdatePlan

/-- The columns that a row must have: the identifier first, then each updated
column once. -/
def required (identifierColumn : String) (updateColumns : List String) :
    List String :=
  identifierColumn :: updateColumns.eraseDups

def cases (rows : Batch) (identifierColumn column : String) :
    List (Value × Value) :=
  rows.map fun row => (row.valueOf identifierColumn, row.valueOf column)

/-- The plan of a batch in which every row has the required columns. Other
columns of a row are left alone. -/
def ofRows (rows : Batch) (identifierColumn : String)
    (updateColumns : List String) :
    Except ValidationError UpdatePlan := do
  if rows.isEmpty then throw .emptyRows
  if updateColumns.isEmpty then throw .emptyUpdateColumns
  rows.checkRows fun row index =>
    row.requireAll index (required identifierColumn updateColumns)
  return {
    identifiers := rows.map (·.valueOf identifierColumn)
    columns := updateColumns.eraseDups.map fun column =>
      ⟨column, cases rows identifierColumn column⟩ }

end UpdatePlan

end BulkWrite
