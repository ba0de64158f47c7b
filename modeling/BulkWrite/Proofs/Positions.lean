import BulkWrite.Proofs.Planning
import Mathlib.Tactic.Ring

/-!
Positions of parameters. The update of a batch binds identifiers and values in
turn, column by column and row by row, and all identifiers once more at the end.
Each has its declared type at its own position, and no other position has one.
-/

namespace BulkWrite

namespace Query

def BoundAt (query : Query) (position : Nat) (value : Value)
    (type : Option ParamType) : Prop :=
  query.params[position]? = some value ∧ query.typeAt? position = type

theorem boundAt_of_bindings {query : Query} {position : Nat} {binding : Binding}
    (bound : query.bindings[position]? = some binding) :
    query.BoundAt position binding.value binding.type := by
  rw [bindings, List.getElem?_map, Option.map_eq_some_iff] at bound
  obtain ⟨pair, found, same⟩ := bound
  rw [List.getElem?_zipIdx, Option.map_eq_some_iff] at found
  obtain ⟨value, atPosition, isPair⟩ := found
  rw [Nat.zero_add] at isPair
  subst isPair
  subst same
  exact ⟨atPosition, rfl⟩

/-- The parameters of an update with one case for each row. -/
structure CaseLayout (query : Query) (rows : Batch) (types : ColumnTypes)
    (identifierColumn : String) (identifierType : Option ParamType)
    (columns : List String) : Prop where
  length_params : query.params.length = rows.length * (2 * columns.length + 1)
  operand : ∀ (j i : Nat) (column : String) (row : Row),
    columns[j]? = some column → rows[i]? = some row →
      ∃ identifier, row.get? identifierColumn = some identifier ∧
        query.BoundAt (2 * rows.length * j + 2 * i) identifier identifierType
  result : ∀ (j i : Nat) (column : String) (row : Row),
    columns[j]? = some column → rows[i]? = some row →
      ∃ value, row.get? column = some value ∧
        query.BoundAt (2 * rows.length * j + 2 * i + 1) value
          (types.get? column)
  selected : ∀ (i : Nat) (row : Row), rows[i]? = some row →
    ∃ identifier, row.get? identifierColumn = some identifier ∧
      query.BoundAt (2 * rows.length * columns.length + i) identifier
        identifierType
  typed : ∀ position type, query.typeAt? position = some type →
    (∃ j i, j < columns.length ∧ i < rows.length ∧
        (position = 2 * rows.length * j + 2 * i ∨
          position = 2 * rows.length * j + 2 * i + 1)) ∨
      ∃ i, i < rows.length ∧ position = 2 * rows.length * columns.length + i

/-- Every position is that of an operand, a result or an identifier at the
end. -/
theorem position_cases {n k position : Nat}
    (below : position < n * (2 * k + 1)) :
    (∃ j i, j < k ∧ i < n ∧
      (position = 2 * n * j + 2 * i ∨ position = 2 * n * j + 2 * i + 1)) ∨
      ∃ i, i < n ∧ position = 2 * n * k + i := by
  rcases Nat.lt_or_ge position (2 * n * k) with inCases | behind
  · have left : 0 < 2 * n :=
      Nat.pos_of_mul_pos_right (Nat.zero_lt_of_lt inCases)
    have divided := Nat.div_add_mod position (2 * n)
    have offset := Nat.mod_lt position left
    refine Or.inl ⟨position / (2 * n), position % (2 * n) / 2,
      Nat.div_lt_of_lt_mul inCases, ?_, ?_⟩
    · omega
    · omega
  · have total : n * (2 * k + 1) = 2 * n * k + n := by ring
    refine Or.inr ⟨position - 2 * n * k, ?_, ?_⟩
    · omega
    · omega

end Query

namespace Template

variable {template : Template} {quoter : Quoter} {hint : ReuseHint}
    {position : Nat}

theorem boundAt_toQuery {binding : Binding}
    (bound : template.bindings[position]? = some binding) :
    (template.toQuery quoter hint).BoundAt position binding.value
      binding.type := by
  apply Query.boundAt_of_bindings
  rwa [bindings_toQuery]

theorem lt_of_typeAt?_toQuery {type : ParamType}
    (typed : (template.toQuery quoter hint).typeAt? position = some type) :
    position < template.bindings.length := by
  obtain ⟨index, below, same⟩ := TypeMap.exists_slot_of_get? typed
  rw [List.length_map] at below
  omega

end Template

namespace Operation

variable (rows : Batch) (types : ColumnTypes) (identifierColumn : String)
  (identifierType : Option ParamType) (columns : List String)

def identifierBinding (row : Row) : Binding :=
  ⟨row.valueOf identifierColumn, identifierType⟩

def caseBindings (column : String) : List (List Binding) :=
  rows.map fun row =>
    [identifierBinding identifierColumn identifierType row,
      ⟨row.valueOf column, types.get? column⟩]

def columnBindings : List (List Binding) :=
  columns.map fun column =>
    (caseBindings rows types identifierColumn identifierType column).flatten

theorem bindings_template_bulkUpdate (table : String)
    (updateColumns : List String) :
    ((bulkUpdate rows types identifierColumn identifierType
        updateColumns).template table).bindings =
      (columnBindings rows types identifierColumn identifierType
          updateColumns.eraseDups).flatten ++
        rows.map (identifierBinding identifierColumn identifierType) := by
  rw [bindings_template]
  simp only [command, Command.contents, UpdatePlan.plan, UpdatePlan.cases,
    casesAssignment, Assignment.contents, Assigned.contents, branch,
    Branch.contents, Selection.condition, Selection.bindings, columnBindings,
    caseBindings, List.map_map, List.flatMap_def, Function.comp_def]
  rfl

theorem length_of_mem_caseBindings (column : String) {pair : List Binding}
    (member : pair ∈ caseBindings rows types identifierColumn
      identifierType column) :
    pair.length = 2 := by
  obtain ⟨row, -, rfl⟩ := List.mem_map.mp member
  rfl

theorem length_of_mem_columnBindings {list : List Binding}
    (member : list ∈ columnBindings rows types identifierColumn
      identifierType columns) :
    list.length = rows.length * 2 := by
  obtain ⟨column, -, rfl⟩ := List.mem_map.mp member
  rw [length_flatten_of_width fun pair inside =>
    length_of_mem_caseBindings rows types
    identifierColumn identifierType column inside, caseBindings,
    List.length_map]

theorem length_columnBindings :
    (columnBindings rows types identifierColumn identifierType
      columns).flatten.length =
      columns.length * (rows.length * 2) := by
  rw [length_flatten_of_width fun list inside =>
    length_of_mem_columnBindings rows types
    identifierColumn identifierType columns inside, columnBindings,
    List.length_map]

variable {rows types identifierColumn identifierType columns}

theorem getElem?_columnBindings {j i side : Nat} {column : String} {row : Row}
    (inside : side < 2) (atColumn : columns[j]? = some column)
    (atRow : rows[i]? = some row) :
    (columnBindings rows types identifierColumn identifierType
        columns).flatten[2 * rows.length * j + 2 * i + side]? =
      [identifierBinding identifierColumn identifierType row,
        ⟨row.valueOf column, types.get? column⟩][side]? := by
  obtain ⟨below, -⟩ := List.getElem?_eq_some_iff.mp atRow
  have position : 2 * rows.length * j + 2 * i + side =
      j * (rows.length * 2) + (i * 2 + side) := by ring
  have outer := RowValues.getElem?_flatten_of_width
    (fun list member => length_of_mem_columnBindings rows types identifierColumn
      identifierType
      columns member) (c := i * 2 + side) (by omega) j
  have inner := RowValues.getElem?_flatten_of_width
    (fun pair member => length_of_mem_caseBindings rows types identifierColumn
      identifierType column member) inside i
  rw [position, outer, columnBindings, List.getElem?_map, atColumn,
    Option.map_some, Option.bind_some, inner, caseBindings, List.getElem?_map,
    atRow, Option.map_some, Option.bind_some]

section

variable {table : String} {updateColumns : List String}

/-- The bindings of the cases are those of the template as far as they go. -/
theorem getElem?_bindings_of_columnBindings {position : Nat} {binding : Binding}
    (found : (columnBindings rows types identifierColumn identifierType
      updateColumns.eraseDups).flatten[position]? = some binding) :
    ((bulkUpdate rows types identifierColumn identifierType
        updateColumns).template table).bindings[position]? = some binding := by
  obtain ⟨below, -⟩ := List.getElem?_eq_some_iff.mp found
  rw [bindings_template_bulkUpdate, List.getElem?_append_left below, found]

theorem getElem?_bindings_selected {i : Nat} {row : Row}
    (atRow : rows[i]? = some row) :
    ((bulkUpdate rows types identifierColumn identifierType
        updateColumns).template table).bindings[
          2 * rows.length * updateColumns.eraseDups.length + i]? =
      some (identifierBinding identifierColumn identifierType row) := by
  have behind : 2 * rows.length * updateColumns.eraseDups.length =
      (columnBindings rows types identifierColumn identifierType
        updateColumns.eraseDups).flatten.length := by
    rw [length_columnBindings]
    ring
  rw [bindings_template_bulkUpdate, behind,
    List.getElem?_append_right (Nat.le_add_right _ _), Nat.add_sub_cancel_left,
    List.getElem?_map, atRow]
  rfl

theorem length_bindings_bulkUpdate :
    ((bulkUpdate rows types identifierColumn identifierType
        updateColumns).template table).bindings.length =
            rows.length * (2 * updateColumns.eraseDups.length + 1) := by
  rw [bindings_template_bulkUpdate, List.length_append, length_columnBindings,
    List.length_map]
  ring

end

end Operation

namespace TableStatement

variable {statement : TableStatement} {query : Query} {rows : Batch}
    {types : ColumnTypes}
  {identifierColumn : String} {identifierType : Option ParamType}
  {updateColumns : List String}

theorem caseLayout_of_build
    (operation : statement.operation =
      .bulkUpdate rows types identifierColumn identifierType updateColumns)
    (built : statement.build = .ok query) :
    query.CaseLayout rows types identifierColumn identifierType
      updateColumns.eraseDups := by
  obtain ⟨valid, rfl⟩ := build_eq_ok.mp built
  rw [operation] at valid ⊢
  have held {row : Row} {column : String} {i : Nat}
      (atRow : rows[i]? = some row)
      (asked : column ∈ UpdatePlan.required identifierColumn updateColumns) :
      row.get? column = some (row.valueOf column) :=
    Row.get?_of_contains
      (valid.has row (List.mem_of_getElem? atRow) column asked)
  refine ⟨(List.length_map _).trans Operation.length_bindings_bulkUpdate, ?_,
    ?_, ?_, ?_⟩
  · intro j i column row atColumn atRow
    refine ⟨_, held atRow List.mem_cons_self, ?_⟩
    exact Template.boundAt_toQuery
      (Operation.getElem?_bindings_of_columnBindings
      (Operation.getElem?_columnBindings Nat.zero_lt_two atColumn atRow))
  · intro j i column row atColumn atRow
    refine ⟨_, held atRow
      (List.mem_cons_of_mem _ (List.mem_of_getElem? atColumn)), ?_⟩
    exact Template.boundAt_toQuery
      (Operation.getElem?_bindings_of_columnBindings
      (Operation.getElem?_columnBindings Nat.one_lt_two atColumn atRow))
  · intro i row atRow
    refine ⟨_, held atRow List.mem_cons_self, ?_⟩
    exact Template.boundAt_toQuery (Operation.getElem?_bindings_selected atRow)
  · intro position type typed
    have below := Template.lt_of_typeAt?_toQuery typed
    rw [Operation.length_bindings_bulkUpdate] at below
    exact Query.position_cases below

/-- The parameters of the update of a batch and their types, position by
position, and the pass that writes them. -/
theorem bulkUpdate_positions
    (operation : statement.operation =
      .bulkUpdate rows types identifierColumn identifierType updateColumns)
    (built : statement.build = .ok query) :
    FirstSeen updateColumns updateColumns.eraseDups ∧
      query.CaseLayout rows types identifierColumn identifierType
        updateColumns.eraseDups ∧
      ∃ plan, UpdatePlan.gather rows identifierColumn updateColumns = .ok plan ∧
        query = (Collected.update statement.quoter
          (Collected.addCases statement.quoter identifierColumn
            identifierType types)
          statement.table plan.columns
          ⟨identifierColumn, plan.identifiers, identifierType⟩).toQuery
              statement.reuseHint := by
  refine ⟨firstSeen_eraseDups updateColumns,
    caseLayout_of_build operation built, ?_⟩
  rw [statement.build_bulkUpdate operation] at built
  rw [UpdatePlan.gather_eq]
  cases planned : UpdatePlan.ofRows rows identifierColumn updateColumns with
  | error error =>
      rw [planned] at built
      cases built
  | ok plan =>
      rw [planned] at built
      exact ⟨plan, rfl, (Except.ok.inj built).symm⟩

/-- The identifier column is updated too, a column is named twice, and an
identifier repeats. Only the identifiers and the column `score` have a type. -/
theorem bulkUpdate_positions_moved_identifier :
    let rows : Batch := [Row.ofList [("id", .int 7), ("score", .int 10)],
      Row.ofList [("score", .null), ("id", .int 7)]]
    let statement : TableStatement :=
      { table := "t"
        operation := .bulkUpdate rows ⟨[("score", .decimal)]⟩ "id"
          (some .integer)
          ["score", "id", "score"] }
    ∃ query, statement.build = .ok query ∧ query.params.length = 10 ∧
      query.BoundAt 3 .null (some .decimal) ∧ query.BoundAt 5 (.int 7) none ∧
        query.BoundAt 9 (.int 7) (some .integer) := by
  intro rows statement
  have operation : statement.operation =
    .bulkUpdate rows ⟨[("score", .decimal)]⟩ "id"
    (some .integer) ["score", "id", "score"] := rfl
  obtain ⟨-, layout, -⟩ := bulkUpdate_positions operation rfl
  refine ⟨_, rfl, layout.length_params, ?_, ?_, ?_⟩
  · obtain ⟨value, held, bound⟩ := layout.result 0 1 "score" _ rfl rfl
    cases held
    exact bound
  · obtain ⟨value, held, bound⟩ := layout.result 1 0 "id" _ rfl rfl
    cases held
    exact bound
  · obtain ⟨value, held, bound⟩ := layout.selected 1 _ rfl
    cases held
    exact bound

end TableStatement

end BulkWrite
