import BulkWrite.Proofs.Collecting
import BulkWrite.Proofs.Compilation

/-!
Statements written from left to right. Text, parameters and types grow together,
with a comma in front of every item but the first and a type at the number of
parameters so far. What is written like this is the template of the statement.
-/

namespace BulkWrite

namespace Template

/-- The template with its names as plain text. -/
def quoted (quoter : Quoter) (template : Template) : Template :=
  template.map fun piece =>
    match piece with
    | .name column => .text (quoter.quote column)
    | piece => piece

section

variable (quoter : Quoter) (template : Template)

theorem chars_quoted :
    (template.quoted quoter).chars default = template.chars quoter := by
  induction template with
  | nil => rfl
  | cons piece rest ih =>
      have tail : chars default (quoted quoter rest) = chars quoter rest := ih
      cases piece with
      | text s => exact congrArg (s.toList ++ ·) tail
      | name column =>
          exact congrArg₂ (· ++ ·) (quoter.toList_quote column) tail
      | bind binding => exact congrArg ('?' :: ·) tail

theorem bindings_quoted :
    (template.quoted quoter).bindings = template.bindings := by
  induction template with
  | nil => rfl
  | cons piece rest ih =>
      have tail : bindings (quoted quoter rest) = bindings rest := ih
      cases piece with
      | text s => exact tail
      | name column => exact tail
      | bind binding => exact congrArg (binding :: ·) tail

end

end Template

namespace Collected

variable {α : Type} (quoter : Quoter)

def addName (collected : Collected) (name : String) : Collected :=
  collected.addText (quoter.quote name)

/-- A value stands behind the others, and so does its type. -/
def addNext (collected : Collected) (binding : Binding) : Collected :=
  collected.addValue collected.params.length binding

def addPiece (collected : Collected) : Piece → Collected
  | .text s => collected.addText s
  | .name column => collected.addName quoter column
  | .bind binding => collected.addNext binding

def write (template : Template) (collected : Collected) : Collected :=
  template.foldl (addPiece quoter) collected

/-- Adds the items one by one, with a comma in front of every one but the
first. -/
def addSeparated (add : Collected → α → Collected) (items : List α)
    (collected : Collected) : Collected :=
  items.zipIdx.foldl
    (fun collected item => add (collected.separate item.2) item.1) collected

def toQuery (collected : Collected) (hint : ReuseHint) : Query :=
  ⟨collected.fragment, collected.params, collected.types, hint⟩

theorem write_append (first second : Template) (collected : Collected) :
    write quoter (first ++ second) collected =
      write quoter second (write quoter first collected) :=
  List.foldl_append

theorem write_ofTemplate (template before : Template) :
    write quoter template (ofTemplate before before.types) =
      ofTemplate (before ++ template.quoted quoter)
        (before ++ template.quoted quoter).types := by
  -- What has been written is always a template: each piece adds itself to it,
  -- with its own type.
  induction template generalizing before with
  | nil =>
      rw [Template.quoted, List.map_nil, List.append_nil]
      rfl
  | cons piece rest ih =>
      have step : addPiece quoter (ofTemplate before before.types) piece =
          ofTemplate (before ++ Template.quoted quoter [piece])
            (before ++ Template.quoted quoter [piece]).types := by
        cases piece with
        | text s =>
            exact (addText_ofTemplate before _ s).trans
              (congrArg _ (Template.types_append_text before s).symm)
        | name column =>
            exact (addText_ofTemplate before _ (quoter.quote column)).trans
              (congrArg _ (Template.types_append_text before _).symm)
        | bind binding =>
            exact (addValue_ofTemplate before _ _ binding).trans
              (congrArg _ (Template.types_append_bind before binding).symm)
      have tail := ih (before ++ Template.quoted quoter [piece])
      rw [List.append_assoc] at tail
      rw [write, List.foldl_cons, step]
      exact tail

theorem toQuery_write (template : Template) (hint : ReuseHint) :
    (write quoter template empty).toQuery hint =
      template.toQuery quoter hint := by
  have written := write_ofTemplate quoter template []
  change write quoter template empty = _ at written
  rw [written, List.nil_append, ofTemplate, toQuery, Template.toQuery,
    Template.sql, Template.chars_quoted, Template.params, Template.types,
    Template.bindings_quoted]
  rfl

section

variable {add : Collected → α → Collected} {each : α → Template}

theorem foldl_eq_write (writes : ∀ collected item, add collected item =
    write quoter (each item) collected) (items : List α) (collected :
      Collected) :
    items.foldl add collected =
      write quoter (items.flatMap each) collected := by
  induction items generalizing collected with
  | nil => rfl
  | cons item items ih =>
      rw [List.foldl_cons, List.flatMap_cons, write_append, ih, writes]

theorem separate_eq_write (collected : Collected) (index : Nat) :
    collected.separate index = write quoter (separator index) collected := by
  cases index with
  | zero => rfl
  | succ index => rfl

theorem addSeparated_eq_write (writes : ∀ collected item, add collected item =
    write quoter (each item) collected) (items : List α) (collected :
      Collected) :
    addSeparated add items collected =
      write quoter (Template.commaSeparated (items.map each)) collected := by
  have step (collected : Collected) (item : α × Nat) :
      add (collected.separate item.2) item.1 =
        write quoter (separator item.2 ++ each item.1) collected := by
    rw [write_append, ← separate_eq_write, writes]
  rw [addSeparated, foldl_eq_write quoter step, ← separated_zero, separated]

end

/-! Statements, written clause by clause. -/

/-- Adds the identifiers behind whatever parameters there are. -/
def addIdentifiers (identifiers : List Value) (type : Option ParamType)
    (collected : Collected) : Collected :=
  addSeparated (fun collected value => collected.addNext ⟨value, type⟩)
    identifiers collected

def addSelection (selection : Selection) (collected : Collected) : Collected :=
  let opened :=
    (((collected.addText " WHERE ").addName quoter selection.column).addText
    " IN ").addText "("
  (opened.addIdentifiers selection.identifiers selection.type).addText ")"

def addEntry (types : ColumnTypes) (collected : Collected) (entry : Entry) :
    Collected :=
  ((collected.addName quoter entry.1).addText " = ").addNext
    ⟨entry.2, types.get? entry.1⟩

def addCase (identifierColumn : String)
    (identifierType valueType : Option ParamType) (collected : Collected)
    (pair : Value × Value) : Collected :=
  let compared :=
    (((collected.addText " WHEN ").addName quoter identifierColumn).addText
    " = ").addNext ⟨pair.1, identifierType⟩
  (compared.addText " THEN ").addNext ⟨pair.2, valueType⟩

def addCases (identifierColumn : String) (identifierType : Option ParamType)
    (types : ColumnTypes) (collected : Collected) (column : ColumnCases) :
    Collected :=
  let opened := (collected.addName quoter column.column).addText " = CASE"
  let filled := column.cases.foldl
    (addCase quoter identifierColumn identifierType (types.get? column.column))
      opened
  ((filled.addText " ELSE ").addName quoter column.column).addText " END"

def delete (table : String) (selection : Selection) : Collected :=
  ((empty.addText "DELETE FROM ").addName quoter table).addSelection
    quoter selection

def deleteWithLimit (table : String) (selection : Selection) (limit : Int64) :
    Collected :=
  (delete quoter table selection).addText (" LIMIT " ++ toString limit.toInt)

def update (add : Collected → α → Collected) (table : String) (items : List α)
    (selection : Selection) : Collected :=
  let opened := ((empty.addText "UPDATE ").addName quoter table).addText " SET "
  (addSeparated add items opened).addSelection quoter selection

theorem addIdentifiers_eq_write (selection : Selection)
    (collected : Collected) :
    collected.addIdentifiers selection.identifiers selection.type =
      write quoter (Template.binds selection.bindings) collected := by
  have step (collected : Collected) (value : Value) :
      collected.addNext ⟨value, selection.type⟩ =
        write quoter [Piece.bind ⟨value, selection.type⟩] collected := rfl
  rw [addIdentifiers, addSeparated_eq_write quoter step, Template.binds,
    Selection.bindings, List.map_map]
  rfl

theorem addSelection_eq_write (selection : Selection) (collected : Collected) :
    collected.addSelection quoter selection =
      write quoter (.text " WHERE " :: selection.template) collected := by
  simp only [addSelection, addIdentifiers_eq_write quoter]
  exact (write_append quoter _ [Piece.text ")"] _).symm

theorem addEntry_eq_write (types : ColumnTypes) (collected : Collected)
    (entry : Entry) :
    collected.addEntry quoter types entry =
      write quoter (Operation.assignment types entry) collected := rfl

theorem addCases_eq_write (identifierColumn : String)
    (identifierType : Option ParamType) (types : ColumnTypes)
    (collected : Collected) (column : ColumnCases) :
    addCases quoter identifierColumn identifierType types collected column =
      write quoter
        (Operation.casesTemplate identifierColumn identifierType types column)
        collected := by
  have step (collected : Collected) (pair : Value × Value) :
      addCase quoter identifierColumn identifierType
        (types.get? column.column) collected pair =
        write quoter (Operation.caseTemplate identifierColumn identifierType
          (types.get? column.column) pair) collected := rfl
  simp only [addCases, foldl_eq_write quoter step]
  exact (write_append quoter _
    [Piece.text " ELSE ", Piece.name column.column, Piece.text " END"] _).symm

theorem delete_eq_write (table : String) (selection : Selection) :
    delete quoter table selection =
      write quoter (Operation.deleteTemplate table selection) empty := by
  rw [delete, addSelection_eq_write]
  exact (write_append quoter
    [Piece.text "DELETE FROM ", Piece.name table] _ empty).symm

theorem deleteWithLimit_eq_write (table : String) (selection : Selection)
    (limit : Int64) :
    deleteWithLimit quoter table selection limit =
      write quoter
        (Operation.deleteTemplate table selection ++
          Operation.limitTemplate limit) empty := by
  rw [deleteWithLimit, delete_eq_write, write_append]
  rfl

theorem update_eq_write {add : Collected → α → Collected} {each : α → Template}
    (writes : ∀ collected item, add collected item =
      write quoter (each item) collected)
    (table : String) (items : List α) (selection : Selection) :
    update quoter add table items selection =
      write quoter (Operation.updateTemplate table (items.map each) selection)
        empty := by
  simp only [update, addSelection_eq_write, addSeparated_eq_write quoter writes]
  exact (write_append quoter _
    (Piece.text " WHERE " :: selection.template) _).symm

end Collected

namespace TableStatement

variable (statement : TableStatement)

/-- The update of a batch is written from its plan alone. -/
theorem build_bulkUpdate {rows : Batch} {types : ColumnTypes}
    {identifierColumn : String} {identifierType : Option ParamType}
    {updateColumns : List String} (operation : statement.operation =
      .bulkUpdate rows types identifierColumn identifierType updateColumns) :
    statement.build =
      (UpdatePlan.ofRows rows identifierColumn updateColumns).map fun plan =>
        (Collected.update statement.quoter
          (Collected.addCases statement.quoter identifierColumn
            identifierType types)
          statement.table plan.columns
          ⟨identifierColumn, plan.identifiers, identifierType⟩).toQuery
              statement.reuseHint := by
  rw [build, operation, Operation.compile]
  cases UpdatePlan.ofRows rows identifierColumn updateColumns with
  | error error => rfl
  | ok plan =>
      have written := Collected.update_eq_write statement.quoter
        (Collected.addCases_eq_write statement.quoter identifierColumn
          identifierType types)
        statement.table plan.columns ⟨identifierColumn, plan.identifiers,
          identifierType⟩
      have query := Collected.toQuery_write statement.quoter
        (Operation.updateTemplate statement.table
          (plan.columns.map (Operation.casesTemplate identifierColumn
            identifierType types))
          ⟨identifierColumn, plan.identifiers, identifierType⟩)
            statement.reuseHint
      rw [Except.map, written, query]
      rfl

end TableStatement

end BulkWrite
