import BulkWrite.Row
import BulkWrite.Template
import BulkWrite.ValidationError

/-!
Batches of rows with one set of columns. The first row fixes the columns and
their order; later rows may list theirs in any order but must have exactly that
set.
-/

namespace BulkWrite

/-- The most parameters that one prepared statement accepts. -/
def maxPlaceholders : Nat := 65535

abbrev Batch := List Row

structure RowValues where
  columns : List String
  rows : List (List Binding)

namespace RowValues

def rowTemplate (row : List Binding) : Template :=
  Template.parenthesised
    (Template.commaSeparated (row.map fun binding => [Piece.bind binding]))

def template (values : RowValues) : Template :=
  Template.commaSeparated (values.rows.map rowTemplate)

/-- The text holds no name, so that no quoter matters to it. -/
def fragment (values : RowValues) : String := values.template.sql default

def params (values : RowValues) : List Value := values.template.params

def typesFrom (values : RowValues) (start : UInt64) : TypeMap :=
  values.template.typesFrom start

/-- The start position, given as a number, counts as a machine word. -/
def types (values : RowValues) (start : Nat) : TypeMap :=
  values.typesFrom (.ofNat start)

end RowValues

namespace Row

/-- Checks the row with the given index for columns that it must have. -/
def requireAll (row : Row) (index : Nat) (columns : List String) :
    Except ValidationError Unit :=
  match row.missing? columns with
  | some column => .error (.missingColumn index column)
  | none => .ok ()

/-- Checks the row with the given index for exactly the columns. A missing
column is reported before one that does not belong. -/
def requireExactly (row : Row) (index : Nat) (columns : List String) :
    Except ValidationError Unit := do
  row.requireAll index columns
  match row.stray? columns with
  | some column => .error (.unexpectedColumn index column)
  | none => .ok ()

def bindings (row : Row) (types : ColumnTypes) (columns : List String) :
    List Binding :=
  columns.map fun column => ⟨row.valueOf column, types.get? column⟩

end Row

namespace Batch

def equals : Batch → Batch → Bool
  | [], [] => true
  | row :: rows, other :: others => row.equals other && equals rows others
  | _, _ => false

def columns : Batch → Except ValidationError (List String)
  | [] => .error .emptyRows
  | first :: _ =>
      if first.isEmpty then .error .invalidFirstRow else .ok first.columns

/-- Checks every row in order against the given check, and stops at the first
that fails. -/
def checkRows (rows : Batch) (check : Row → Nat → Except ValidationError Unit) :
    Except ValidationError Unit :=
  rows.zipIdx.forM fun (row, index) => check row index

def values (rows : Batch) (types : ColumnTypes) :
    Except ValidationError RowValues := do
  let columns ← rows.columns
  rows.checkRows fun row index => row.requireExactly index columns
  return ⟨columns, rows.map fun row => row.bindings types columns⟩

/-- Consecutive pieces of a list, all but the last of the given size. -/
def chunks (size : Nat) (rows : Batch) : List Batch :=
  if rows.isEmpty ∨ size = 0 then []
  else rows.take size :: chunks size (rows.drop size)
termination_by rows.length
decreasing_by
  rename_i more
  cases rows with
  | nil => simp at more
  | cons row rest =>
      simp only [List.length_drop, List.length_cons]
      have : size ≠ 0 := fun zero => more (Or.inr zero)
      omega

/-- Splits a batch into chunks that each bind at most `max` parameters. The
first row alone gives the width; whether later rows agree with it shows when a
chunk is compiled. -/
def split (rows : Batch) (max : Nat) : Except ValidationError (List Batch) := do
  let columns ← rows.columns
  if max < columns.length then .error (.tooManyColumns columns.length max)
  else return rows.chunks (max / columns.length)

end Batch

end BulkWrite
