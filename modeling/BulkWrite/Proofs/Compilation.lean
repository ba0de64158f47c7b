import BulkWrite.Statement

/-!
What success and failure tell. Every check succeeds under exactly one condition;
an operation compiles if it is valid, and then to the template that it has
whether it is valid or not. A failure is that of the first check that fails,
whatever would be made of the rest.
-/

namespace BulkWrite

private theorem bind_eq_ok {ε α β : Type} {first : Except ε α}
    {next : α → Except ε β} {result : β} :
    (first >>= next) = .ok result ↔
      ∃ value, first = .ok value ∧ next value = .ok result := by
  cases first <;> simp [bind, Except.bind]

private theorem check_bind_eq_ok {ε β : Type} {check : Except ε Unit}
    {next : Unit → Except ε β} {result : β} :
    (check >>= next) = .ok result ↔ check = .ok () ∧ next () = .ok result := by
  cases check <;> simp [bind, Except.bind]

theorem bind_eq_error {ε α β : Type} {first : Except ε α}
    {next : α → Except ε β} {error : ε} :
    (first >>= next) = .error error ↔
      first = .error error ∨ ∃ value, first = .ok value ∧
        next value = .error error := by
  cases first <;> simp [bind, Except.bind]

private theorem bind_pure_eq_error {ε α β : Type} {first : Except ε α}
    {result : α → β} {error : ε} :
    (first >>= fun value => pure (result value)) = .error error ↔
      first = .error error := by
  cases first <;> simp [bind, Except.bind, pure, Except.pure]

private theorem pure_eq_ok {ε α : Type} {value result : α} :
    (pure value : Except ε α) = .ok result ↔ value = result := by
  simp [pure, Except.pure]

private theorem pure_ne_error {ε α : Type} {value : α} {error : ε} :
    (pure value : Except ε α) = .error error ↔ False := by
  simp [pure, Except.pure]

private theorem guard_eq_ok {ε α β : Type} {condition : Prop}
    [Decidable condition] {error : ε} {next : α → Except ε β}
    {rest : Except ε β} {result : β} :
    (if condition then throw error >>= next else rest) = .ok result ↔
      ¬ condition ∧ rest = .ok result := by
  by_cases holds : condition <;>
    simp [holds, bind, Except.bind, throw, throwThe, MonadExceptOf.throw]

private theorem guard_eq_error {ε α β : Type} {condition : Prop}
    [Decidable condition] {problem error : ε} {next : α → Except ε β}
    {rest : Except ε β} :
    (if condition then throw problem >>= next else rest) = .error error ↔
      condition ∧ problem = error ∨ ¬ condition ∧ rest = .error error := by
  by_cases holds : condition <;>
    simp [holds, bind, Except.bind, throw, throwThe, MonadExceptOf.throw]

theorem toList_toString_of_nonneg {n : Int} (nonneg : 0 ≤ n) :
    (toString n).toList = Nat.toDigits 10 n.toNat := by
  obtain ⟨value, rfl⟩ := Int.eq_ofNat_of_zero_le nonneg
  exact Nat.toList_repr

theorem length_flatten_of_width {α : Type} {width : Nat} {lists : List (List α)}
    (wide : ∀ list ∈ lists, list.length = width) :
    lists.flatten.length = lists.length * width := by
  rw [List.length_flatten, List.map_congr_left wide, List.map_const',
    List.sum_replicate_nat]

namespace Row

theorem get?_of_contains {row : Row} {column : String}
    (present : row.contains column = true) :
    row.get? column = some (row.valueOf column) := by
  rw [← isSome_get?, Option.isSome_iff_exists] at present
  obtain ⟨value, found⟩ := present
  rw [valueOf_of_get? found, found]

/-- The row has all of the columns and perhaps others. -/
def Has (row : Row) (columns : List String) : Prop :=
  ∀ column ∈ columns, row.contains column = true

theorem missing?_eq_none {row : Row} {columns : List String} :
    row.missing? columns = none ↔ row.Has columns := by
  simp [missing?, Has]

theorem stray?_eq_none {row : Row} {columns : List String} :
    row.stray? columns = none ↔ ∀ column ∈ row.columns, column ∈ columns := by
  simp [stray?]

theorem requireAll_eq_ok {row : Row} {index : Nat} {columns : List String} :
    row.requireAll index columns = .ok () ↔ row.Has columns := by
  rw [← missing?_eq_none, requireAll]
  cases row.missing? columns with
  | some column => simp
  | none => simp

theorem requireExactly_eq_ok {row : Row} {index : Nat} {columns : List String} :
    row.requireExactly index columns = .ok () ↔
      row.Has columns ∧ ∀ column ∈ row.columns, column ∈ columns := by
  rw [← stray?_eq_none, requireExactly, check_bind_eq_ok, requireAll_eq_ok]
  refine and_congr_right fun _ => ?_
  cases row.stray? columns with
  | some column => simp
  | none => simp

end Row

namespace Batch

def headColumns : Batch → List String
  | [] => []
  | first :: _ => first.columns

/-- The rows have one set of columns, and it is not empty. -/
structure Uniform (rows : Batch) : Prop where
  nonempty : rows.headColumns ≠ []
  has : ∀ row ∈ rows, row.Has rows.headColumns
  only : ∀ row ∈ rows, ∀ column ∈ row.columns, column ∈ rows.headColumns

theorem Uniform.rows_ne_nil {rows : Batch} (uniform : rows.Uniform) :
    rows ≠ [] := by
  intro empty
  exact uniform.nonempty (by simp [empty, headColumns])

theorem columns_eq_ok {rows : Batch} {columns : List String} :
    rows.columns = .ok columns ↔ rows.headColumns ≠ [] ∧
      columns = rows.headColumns := by
  cases rows with
  | nil => simp [Batch.columns, headColumns]
  | cons first rest =>
      unfold Batch.columns
      by_cases empty : first.entries = []
      · simp [headColumns, Row.isEmpty, Row.columns, empty]
      · simp only [headColumns, Row.isEmpty, Row.columns, List.isEmpty_iff,
          empty, if_false, Except.ok.injEq, ne_eq, List.map_eq_nil_iff,
          not_false_iff, true_and]
        exact eq_comm

theorem columns_eq_error {rows : Batch} {error : ValidationError} :
    rows.columns = .error error ↔
      rows = [] ∧ .emptyRows = error ∨
        rows ≠ [] ∧ rows.headColumns = [] ∧ .invalidFirstRow = error := by
  cases rows with
  | nil => simp [Batch.columns]
  | cons first rest =>
      unfold Batch.columns
      by_cases empty : first.entries = []
      · simp [headColumns, Row.isEmpty, Row.columns, empty]
      · simp [headColumns, Row.isEmpty, Row.columns, empty]

theorem checkRows_eq_ok {rows : Batch}
    {check : Row → Nat → Except ValidationError Unit} {Passes : Row → Prop}
    (passes : ∀ row index, check row index = .ok () ↔ Passes row) :
    rows.checkRows check = .ok () ↔ ∀ row ∈ rows, Passes row := by
  suffices ∀ start,
    (rows.zipIdx start).forM (fun pair => check pair.1 pair.2) = .ok () ↔
      ∀ row ∈ rows, Passes row from this 0
  induction rows with
  | nil => simp [pure, Except.pure]
  | cons row rest ih =>
      intro start
      simp only [List.forM_eq_forM] at ih
      simp only [List.zipIdx_cons, List.forM_eq_forM, List.forM_cons,
        check_bind_eq_ok, passes, ih, List.mem_cons, forall_eq_or_imp]

/-- The values of a batch in the order of its first row, uniform or not. -/
def rowValues (rows : Batch) (types : ColumnTypes) : RowValues :=
  ⟨rows.headColumns, rows.map fun row => row.bindings types rows.headColumns⟩

theorem length_of_mem_rowValues {rows : Batch} {types : ColumnTypes}
    {row : List Binding} (member : row ∈ (rows.rowValues types).rows) :
    row.length = rows.headColumns.length := by
  obtain ⟨source, -, rfl⟩ := List.mem_map.mp member
  rw [Row.bindings, List.length_map]

theorem length_flatten_rowValues (rows : Batch) (types : ColumnTypes) :
    (rows.rowValues types).rows.flatten.length =
      rows.length * rows.headColumns.length := by
  rw [length_flatten_of_width fun row member => length_of_mem_rowValues member,
    rowValues, List.length_map]

theorem values_eq_ok {rows : Batch} {types : ColumnTypes} {values : RowValues} :
    rows.values types = .ok values ↔
      rows.Uniform ∧ values = rows.rowValues types := by
  unfold Batch.values
  have checked (columns : List String) :
      rows.checkRows (fun row index => row.requireExactly index columns) =
        .ok () ↔
        ∀ row ∈ rows, row.Has columns ∧
            ∀ column ∈ row.columns, column ∈ columns :=
    checkRows_eq_ok fun _ _ => Row.requireExactly_eq_ok
  rw [bind_eq_ok]
  simp only [check_bind_eq_ok, pure_eq_ok, columns_eq_ok, checked]
  constructor
  · rintro ⟨columns, ⟨nonempty, rfl⟩, passed, rfl⟩
    exact ⟨⟨nonempty, fun row member => (passed row member).1,
      fun row member => (passed row member).2⟩, rfl⟩
  · rintro ⟨⟨nonempty, has, only⟩, rfl⟩
    exact ⟨_, ⟨nonempty, rfl⟩, fun row member =>
      ⟨has row member, only row member⟩, rfl⟩

/-- The columns are checked and not the values. -/
theorem values_eq_error {rows : Batch} {types : ColumnTypes}
    {error : ValidationError} :
    rows.values types = .error error ↔
      rows.columns = .error error ∨
        ∃ columns, rows.columns = .ok columns ∧
          rows.checkRows (fun row index => row.requireExactly index columns) =
            .error error := by
  unfold Batch.values
  rw [bind_eq_error]
  simp only [bind_pure_eq_error]

theorem split_eq_ok {rows : Batch} {max : Nat} {chunks : List Batch} :
    rows.split max = .ok chunks ↔
      rows.headColumns ≠ [] ∧ rows.headColumns.length ≤ max ∧
        chunks = rows.chunks (max / rows.headColumns.length) := by
  unfold Batch.split
  simp only [bind_eq_ok, columns_eq_ok, and_assoc, exists_and_left,
    exists_eq_left]
  refine and_congr_right fun _ => ?_
  by_cases wide : max < rows.headColumns.length
  · simp [wide, Nat.not_le.mpr wide]
  · simp only [if_neg wide, pure_eq_ok, Nat.le_of_not_lt wide, true_and]
    exact eq_comm

theorem split_eq_error {rows : Batch} {max : Nat} {error : ValidationError} :
    rows.split max = .error error ↔
      rows.columns = .error error ∨
        rows.headColumns ≠ [] ∧ max < rows.headColumns.length ∧
          .tooManyColumns rows.headColumns.length max = error := by
  unfold Batch.split
  simp only [bind_eq_error, columns_eq_ok, and_assoc, exists_and_left,
    exists_eq_left]
  refine or_congr_right (and_congr_right fun _ => ?_)
  by_cases wide : max < rows.headColumns.length
  · simp [wide]
  · simp [wide, pure_ne_error]

end Batch

namespace UpdatePlan

/-- Every row has an identifier and a value for each updated column. -/
structure Complete (rows : Batch) (identifierColumn : String)
    (updateColumns : List String) : Prop where
  rows_ne_nil : rows ≠ []
  columns_ne_nil : updateColumns ≠ []
  has : ∀ row ∈ rows, row.Has (required identifierColumn updateColumns)

/-- The plan of a batch, complete or not. -/
def plan (rows : Batch) (identifierColumn : String)
    (updateColumns : List String) : UpdatePlan where
  identifiers := rows.map (·.valueOf identifierColumn)
  columns := updateColumns.eraseDups.map fun column =>
    ⟨column, cases rows identifierColumn column⟩

theorem ofRows_eq_ok {rows : Batch} {identifierColumn : String}
    {updateColumns : List String} {result : UpdatePlan} :
    ofRows rows identifierColumn updateColumns = .ok result ↔
      Complete rows identifierColumn updateColumns ∧
        result = plan rows identifierColumn updateColumns := by
  unfold ofRows
  have checked (columns : List String) :
      rows.checkRows (fun row index => row.requireAll index columns) = .ok () ↔
        ∀ row ∈ rows, row.Has columns :=
    Batch.checkRows_eq_ok fun _ _ => Row.requireAll_eq_ok
  simp only [guard_eq_ok, check_bind_eq_ok, pure_eq_ok, List.isEmpty_iff,
    checked]
  constructor
  · rintro ⟨rowsLeft, columnsLeft, passed, rfl⟩
    exact ⟨⟨rowsLeft, columnsLeft, passed⟩, rfl⟩
  · rintro ⟨⟨rowsLeft, columnsLeft, has⟩, rfl⟩
    exact ⟨rowsLeft, columnsLeft, has, rfl⟩

theorem ofRows_eq_error {rows : Batch} {identifierColumn : String}
    {updateColumns : List String} {error : ValidationError} :
    ofRows rows identifierColumn updateColumns = .error error ↔
      rows = [] ∧ .emptyRows = error ∨
        rows ≠ [] ∧ (updateColumns = [] ∧ .emptyUpdateColumns = error ∨
          updateColumns ≠ [] ∧
            rows.checkRows (fun row index =>
              row.requireAll index (required identifierColumn updateColumns)) =
                .error error) := by
  unfold ofRows
  simp only [guard_eq_error, bind_pure_eq_error, List.isEmpty_iff, ne_eq]

end UpdatePlan

namespace Operation

open Template

/-- What is checked of an operation before it is compiled. -/
def Valid : Operation → Prop
  | .insert rows _ => rows.Uniform
  | .insertIgnore rows _ => rows.Uniform
  | .upsert rows _ updateColumns =>
      updateColumns ≠ [] ∧ rows.Uniform ∧
        ∀ column ∈ updateColumns, column ∈ rows.headColumns
  | .deleteByIds selection => selection.identifiers ≠ []
  | .deleteByIdsWithLimit selection limit =>
      selection.identifiers ≠ [] ∧ 0 < limit.toInt
  | .updateByIds selection values _ =>
      selection.identifiers ≠ [] ∧ values.entries ≠ []
  | .bulkUpdate rows _ identifierColumn _ updateColumns =>
      UpdatePlan.Complete rows identifierColumn updateColumns

/-- The template of an operation, valid or not. -/
def template (table : String) : Operation → Template
  | .insert rows types =>
      insertTemplate "INSERT INTO " table (rows.rowValues types)
  | .insertIgnore rows types =>
      insertTemplate "INSERT IGNORE INTO " table (rows.rowValues types)
  | .upsert rows types updateColumns =>
      insertTemplate "INSERT INTO " table (rows.rowValues types) ++
        conflictTemplate updateColumns
  | .deleteByIds selection => deleteTemplate table selection
  | .deleteByIdsWithLimit selection limit =>
      deleteTemplate table selection ++ limitTemplate limit
  | .updateByIds selection values types =>
      updateTemplate table (values.entries.map (assignment types)) selection
  | .bulkUpdate rows types identifierColumn identifierType updateColumns =>
      let plan := UpdatePlan.plan rows identifierColumn updateColumns
      updateTemplate table
        (plan.columns.map (casesTemplate identifierColumn identifierType types))
        ⟨identifierColumn, plan.identifiers, identifierType⟩

theorem compileDelete_eq_ok {table : String} {selection : Selection}
    {result : Template} :
    compileDelete table selection = .ok result ↔
      selection.identifiers ≠ [] ∧ result = deleteTemplate table selection := by
  unfold compileDelete
  cases selection.identifiers with
  | nil => simp
  | cons identifier identifiers => simp [eq_comm]

/-- An operation compiles if it is valid, and compiles to its template. -/
theorem compile_eq_ok {table : String} {operation : Operation}
    {result : Template} :
    operation.compile table = .ok result ↔
      operation.Valid ∧ result = operation.template table := by
  cases operation with
  | insert rows types =>
      simp only [compile, bind_eq_ok, pure_eq_ok, Batch.values_eq_ok, and_assoc,
        exists_and_left, exists_eq_left]
      exact and_congr_right fun _ => eq_comm
  | insertIgnore rows types =>
      simp only [compile, bind_eq_ok, pure_eq_ok, Batch.values_eq_ok, and_assoc,
        exists_and_left, exists_eq_left]
      exact and_congr_right fun _ => eq_comm
  | upsert rows types updateColumns =>
      simp only [compile, guard_eq_ok, bind_eq_ok, pure_eq_ok,
        Batch.values_eq_ok, and_assoc, exists_and_left, exists_eq_left, Valid,
        List.isEmpty_iff]
      simp only [Bool.not_eq_true', List.isEmpty_eq_false_iff, ne_eq,
        Decidable.not_not, List.filter_eq_nil_iff, Bool.not_eq_false,
        List.contains_iff_mem]
      exact and_congr_right fun _ => and_congr_right fun _ =>
        and_congr_right fun _ => eq_comm
  | deleteByIds selection => exact compileDelete_eq_ok
  | deleteByIdsWithLimit selection limit =>
      simp only [compile, guard_eq_ok, bind_eq_ok, pure_eq_ok,
        compileDelete_eq_ok, and_assoc, exists_and_left, exists_eq_left, Valid,
        Int64.le_iff_toInt_le, Int.not_le]
      exact and_congr_right fun _ => and_congr_right fun _ => eq_comm
  | updateByIds selection values types =>
      simp only [compile, guard_eq_ok, pure_eq_ok, Row.isEmpty,
        List.isEmpty_iff, Valid, and_assoc]
      exact and_congr_right fun _ => and_congr_right fun _ => eq_comm
  | bulkUpdate rows types identifierColumn identifierType updateColumns =>
      simp only [compile, bind_eq_ok, pure_eq_ok, UpdatePlan.ofRows_eq_ok,
        and_assoc, exists_and_left, exists_eq_left]
      exact and_congr_right fun _ => eq_comm

theorem compileDelete_eq_error {table : String} {selection : Selection}
    {error : ValidationError} :
    compileDelete table selection = .error error ↔
      selection.identifiers = [] ∧ .emptyIdentifiers = error := by
  unfold compileDelete
  cases selection.identifiers <;> simp

/-- What an operation is rejected with. Neither the table nor any value comes
into it. -/
def Rejected : Operation → ValidationError → Prop
  | .insert rows types, error => rows.values types = .error error
  | .insertIgnore rows types, error => rows.values types = .error error
  | .upsert rows types updateColumns, error =>
      updateColumns = [] ∧ .emptyUpdateColumns = error ∨
        updateColumns ≠ [] ∧ (rows.values types = .error error ∨
          rows.Uniform ∧ (∃ column ∈ updateColumns, column ∉ rows.headColumns) ∧
            .unknownUpdateColumns
              (updateColumns.filter fun column =>
                !rows.headColumns.contains column) = error)
  | .deleteByIds selection, error =>
      selection.identifiers = [] ∧ .emptyIdentifiers = error
  | .deleteByIdsWithLimit selection limit, error =>
      selection.identifiers = [] ∧ .emptyIdentifiers = error ∨
        selection.identifiers ≠ [] ∧ limit.toInt ≤ 0 ∧
          .invalidLimit limit = error
  | .updateByIds selection values _, error =>
      selection.identifiers = [] ∧ .emptyIdentifiers = error ∨
        selection.identifiers ≠ [] ∧ values.entries = [] ∧
          .emptyColumnValues = error
  | .bulkUpdate rows _ identifierColumn _ updateColumns, error =>
      UpdatePlan.ofRows rows identifierColumn updateColumns = .error error

theorem compile_eq_error {table : String} {operation : Operation}
    {error : ValidationError} :
    operation.compile table = .error error ↔ operation.Rejected error := by
  cases operation with
  | insert rows types => exact bind_pure_eq_error
  | insertIgnore rows types => exact bind_pure_eq_error
  | upsert rows types updateColumns =>
      simp only [compile, guard_eq_error, bind_eq_error, pure_ne_error,
        Batch.values_eq_ok, Rejected, List.isEmpty_iff, and_false, or_false,
        and_assoc, exists_and_left, exists_eq_left, Batch.rowValues]
      simp
  | deleteByIds selection => exact compileDelete_eq_error
  | deleteByIdsWithLimit selection limit =>
      simp only [compile, guard_eq_error, bind_eq_error, pure_ne_error,
        compileDelete_eq_error, compileDelete_eq_ok, Rejected,
        Int64.le_iff_toInt_le, and_false, or_false, and_assoc, exists_and_left,
        exists_eq_left]
      rfl
  | updateByIds selection values types =>
      simp only [compile, guard_eq_error, pure_ne_error, Rejected, Row.isEmpty,
        List.isEmpty_iff, and_false, or_false, ne_eq]
  | bulkUpdate rows types identifierColumn identifierType updateColumns =>
      exact bind_pure_eq_error

end Operation

theorem TableStatement.build_eq_ok {statement : TableStatement}
    {query : Query} :
    statement.build = .ok query ↔
      statement.operation.Valid ∧
        query = (statement.operation.template statement.table).toQuery
          statement.quoter
          statement.reuseHint := by
  unfold TableStatement.build
  simp only [bind_eq_ok, pure_eq_ok, Operation.compile_eq_ok, and_assoc,
    exists_and_left, exists_eq_left]
  exact and_congr_right fun _ => eq_comm

theorem TableStatement.build_eq_error {statement : TableStatement}
    {error : ValidationError} :
    statement.build = .error error ↔ statement.operation.Rejected error := by
  unfold TableStatement.build
  rw [bind_pure_eq_error, Operation.compile_eq_error]

end BulkWrite
