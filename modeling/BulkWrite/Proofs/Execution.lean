import BulkWrite.Proofs.Correspondence

/-!
Carrying out updates on a table. An assignment reads the record as it was, or as
the assignments before it have left it; for the update of a batch the two come
to the same, even where the identifier changes on the way.
-/

namespace BulkWrite

/-- When the value of a column matches an operand. A value need not match
itself. -/
structure Matching where
  holds : Value → Value → Bool
  symm : ∀ {a b : Value}, holds a b = true → holds b a = true
  trans : ∀ {a b c : Value}, holds a b = true → holds b c = true →
    holds a c = true

theorem Matching.holds_eq (matching : Matching) {a b : Value}
    (matched : matching.holds a b = true) (c : Value) :
    matching.holds b c = matching.holds a c := by
  rw [Bool.eq_iff_iff]
  exact ⟨matching.trans matched, matching.trans (matching.symm matched)⟩

/-- Integers match if they are equal. Nothing else matches, null included. -/
def Matching.integers : Matching where
  holds
    | .int a, .int b => a == b
    | _, _ => false
  symm := by
    intro a b matched
    cases a <;> cases b <;> simp_all
  trans := by
    intro a b c first second
    cases a <;> cases b <;> cases c <;> simp_all

inductive Order where
  | simultaneous
  | leftToRight

abbrev Record := String → Value

/-- What an assignment reads, of the record as it was and as it is now. -/
def Order.reads (order : Order) (old now : Record) : Record :=
  match order with
  | .simultaneous => old
  | .leftToRight => now

namespace Record

def set (record : Record) (column : String) (value : Value) : Record :=
  fun other => if other = column then value else record other

/-- The record with the values of the row in the columns. -/
def patch (record : Record) (row : Row) (columns : List String) : Record :=
  fun column => if column ∈ columns then row.valueOf column else record column

theorem patch_nil (record : Record) (row : Row) :
    record.patch row [] = record := by
  funext column
  exact if_neg List.not_mem_nil

theorem set_patch (record : Record) (row : Row) (columns : List String)
    (column : String) :
    (record.patch row columns).set column (row.valueOf column) =
      record.patch row (columns ++ [column]) := by
  funext other
  unfold set patch
  by_cases same : other = column
  · simp [same]
  · simp [same]

theorem patch_eraseDups (record : Record) (row : Row) (columns : List String) :
    record.patch row columns.eraseDups = record.patch row columns := by
  funext column
  unfold patch
  simp only [List.mem_eraseDups]

end Record

abbrev Tables := String → List Record

def Tables.change (tables : Tables) (table : String)
    (change : Record → Record) : Tables :=
  fun other => if other = table then (tables other).map change else tables other

variable (matching : Matching)

/-- A record takes the result of the first branch that it matches. -/
def Assigned.eval (record : Record) : Assigned Value → Value
  | .plain content => content
  | .cases branches otherwise =>
      match branches.find? fun branch =>
        matching.holds (record branch.column) branch.operand with
      | some branch => branch.result
      | none => record otherwise

def Condition.holds (condition : Condition Value) (record : Record) : Bool :=
  condition.operands.any fun operand =>
    matching.holds (record condition.column) operand

namespace Command

def assign (order : Order) (old : Record) :
    List (Assignment Value) → Record → Record
  | [], now => now
  | assignment :: rest, now =>
      assign order old rest
        (now.set assignment.column
          (assignment.assigned.eval matching (order.reads old now)))

/-- The tables after an update. -/
def update? (order : Order) (tables : Tables) : Command Value → Option Tables
  | .update table assignments condition =>
      some (tables.change table fun record =>
        if condition.holds matching record then
          assign matching order record assignments record
        else record)
  | _ => none

end Command

namespace Batch

/-- The first row whose identifier the record matches. -/
def rowFor? (rows : Batch) (identifierColumn : String) (record : Record) :
    Option Row :=
  rows.find? fun row =>
    matching.holds (record identifierColumn) (row.valueOf identifierColumn)

def applyTo (rows : Batch) (identifierColumn : String)
    (updateColumns : List String) (record : Record) : Record :=
  match rows.rowFor? matching identifierColumn record with
  | some row => record.patch row updateColumns
  | none => record

variable {matching} {rows : Batch} {identifierColumn : String}
    {record : Record} {row : Row}

theorem holds_condition (rows : Batch) (identifierColumn : String)
    (record : Record) :
    Condition.holds matching
      ⟨identifierColumn, rows.map (·.valueOf identifierColumn)⟩ record =
      (rows.rowFor? matching identifierColumn record).isSome := by
  rw [Condition.holds, List.any_map, rowFor?, List.isSome_find?]
  rfl

theorem eval_keyedCases
    (found : rows.rowFor? matching identifierColumn record = some row)
    (column : String) :
    (Operation.keyedCases rows identifierColumn column).eval matching record =
      row.valueOf column := by
  let branch (row : Row) : Branch Value :=
    ⟨identifierColumn, row.valueOf identifierColumn, row.valueOf column⟩
  have first : (rows.map branch).find? (fun branch =>
      matching.holds (record branch.column) branch.operand) =
          some (branch row) := by
    rw [List.find?_map]
    exact congrArg (Option.map branch) found
  unfold Operation.keyedCases Assigned.eval
  simp only [first, branch]

theorem holds_of_rowFor?
    (found : rows.rowFor? matching identifierColumn record = some row) :
    matching.holds (record identifierColumn) (row.valueOf identifierColumn) =
      true := by
  unfold rowFor? at found
  have matched := List.find?_some found
  exact matched

/-- A record is for the same row once it has some of the values of the row. -/
theorem rowFor?_patch
    (found : rows.rowFor? matching identifierColumn record = some row)
    (columns : List String) :
    rows.rowFor? matching identifierColumn (record.patch row columns) =
      some row := by
  by_cases member : identifierColumn ∈ columns
  · have sameMatches := matching.holds_eq (holds_of_rowFor? found)
    rw [← found]
    unfold rowFor? Record.patch
    simp only [if_pos member, sameMatches]
  · rw [← found]
    unfold rowFor? Record.patch
    simp only [if_neg member]

theorem rowFor?_reads (order : Order)
    (found : rows.rowFor? matching identifierColumn record = some row)
    (columns : List String) :
    rows.rowFor? matching identifierColumn
      (order.reads record (record.patch row columns)) =
      some row := by
  cases order with
  | simultaneous => exact found
  | leftToRight => exact rowFor?_patch found columns

theorem assign_keyedCases (order : Order)
    (found : rows.rowFor? matching identifierColumn record = some row)
    (columns done : List String) :
    Command.assign matching order record
        (columns.map fun column =>
          ⟨column, Operation.keyedCases rows identifierColumn column⟩)
        (record.patch row done) =
      record.patch row (done ++ columns) := by
  induction columns generalizing done with
  | nil => rw [List.append_nil, List.map_nil, Command.assign]
  | cons column rest ih =>
      have value := eval_keyedCases (rowFor?_reads order found done) column
      rw [List.map_cons, Command.assign, value, Record.set_patch, ih,
        List.append_assoc]
      rfl

end Batch

namespace TableStatement

variable {statement : TableStatement} {query : Query} {rows : Batch}
    {types : ColumnTypes}
  {identifierColumn : String} {identifierType : Option ParamType}
  {updateColumns : List String}

theorem update?_bulkUpdate (matching : Matching) (order : Order)
    (operation : statement.operation =
      .bulkUpdate rows types identifierColumn identifierType updateColumns)
    (tables : Tables) :
    statement.command.update? matching order tables =
      some (tables.change statement.table
        (rows.applyTo matching identifierColumn updateColumns)) := by
  rw [command, operation, Operation.command_bulkUpdate, Command.update?]
  congr 2
  funext record
  rw [Batch.holds_condition, Batch.applyTo]
  cases found : rows.rowFor? matching identifierColumn record with
  | none => rfl
  | some row =>
      have assigned :=
        Batch.assign_keyedCases order found updateColumns.eraseDups []
      rw [Record.patch_nil, List.nil_append, Record.patch_eraseDups] at assigned
      exact assigned

/-- The statement of a batch does to its table what the batch says, whatever its
assignments read. Where no name runs into the space behind it, the text and the
parameters have no other meaning. -/
theorem bulkUpdate_applies_batch
    (operation : statement.operation =
      .bulkUpdate rows types identifierColumn identifierType updateColumns)
    (built : statement.build = .ok query) (matching : Matching) (order : Order)
    (tables : Tables) :
    ∃ command : Command Value,
      command.chars statement.quoter = query.sql.toList ∧
        command.contents = query.params ∧
        (statement.quoter.delimiter ≠ ' ' →
          Command.read? statement.quoter query.sql.toList query.params =
            some command) ∧
          command.update? matching order tables =
            some (tables.change statement.table
              (rows.applyTo matching identifierColumn updateColumns)) := by
  obtain ⟨sameChars, sameContents, filled⟩ := build_command built
  refine ⟨statement.command, sameChars.symm, sameContents.symm, ?_, ?_⟩
  · intro space
    have separated : statement.command.Separated statement.quoter := by
      rw [command, operation]
      exact space
    rw [sameChars, sameContents]
    exact Command.read?_chars filled separated
  · exact update?_bulkUpdate matching order operation tables

/-- The identifier column is updated twice over, and the identifier 1 has two
rows. -/
theorem bulkUpdate_applies_batch_moved_identifier :
    let rows : Batch := [Row.ofList [("id", .int 1), ("name", .text "first")],
      Row.ofList [("name", .text "second"), ("id", .int 1)],
      Row.ofList [("id", .null), ("name", .text "third")]]
    let statement : TableStatement :=
      { table := "users"
        operation := .bulkUpdate rows {} "id" none ["id", "name", "id"] }
    let tables : Tables := fun _ => [fun _ => .int 1, fun _ => .null]
    ∃ query, statement.build = .ok query ∧ query.params.length = 15 ∧
      ∃ command : Command Value,
        command.chars statement.quoter = query.sql.toList ∧
        command.contents = query.params ∧
          Command.read? statement.quoter query.sql.toList query.params =
            some command ∧
            ∃ updated,
              command.update? .integers .leftToRight tables = some updated ∧
              (updated "users").map
                (fun record => (record "id", record "name")) =
                [(.int 1, .text "first"), (.null, .null)] := by
  intro rows statement tables
  have operation : statement.operation =
    .bulkUpdate rows {} "id" none ["id", "name", "id"] := rfl
  refine ⟨_, rfl, rfl, ?_⟩
  obtain ⟨command, chars, contents, read, updated⟩ :=
    bulkUpdate_applies_batch operation rfl Matching.integers .leftToRight tables
  exact ⟨command, chars, contents, read (by decide), _, updated, rfl⟩

end TableStatement

end BulkWrite
