import BulkWrite.Proofs.Compilation

/-!
Independence of values. Replacing every value of a statement by its image under
a function replaces the parameters by their images and changes nothing else:
neither the SQL text nor the types, neither the error of a statement that is
rejected nor what is logged.
-/

namespace BulkWrite

variable (f : Value → Value)

namespace Row

def mapValues (row : Row) : Row where
  entries := row.entries.map fun entry => (entry.1, f entry.2)
  nodup := by
    rw [List.map_map]
    exact row.nodup

@[simp] theorem columns_mapValues (row : Row) :
    (row.mapValues f).columns = row.columns := by
  simp [columns, mapValues]

@[simp] theorem isEmpty_mapValues (row : Row) :
    (row.mapValues f).isEmpty = row.isEmpty := by
  simp [isEmpty, mapValues]

@[simp] theorem get?_mapValues (row : Row) (column : String) :
    (row.mapValues f).get? column = (row.get? column).map f := by
  obtain ⟨entries, nodup⟩ := row
  change (entries.map fun entry => (entry.1, f entry.2)).lookup column =
    (entries.lookup column).map f
  clear nodup
  induction entries with
  | nil => rfl
  | cons entry entries ih =>
      obtain ⟨name, value⟩ := entry
      cases same : column == name with
      | true => simp [List.lookup_cons, same]
      | false => simpa [List.lookup_cons, same] using ih

@[simp] theorem contains_mapValues (row : Row) (column : String) :
    (row.mapValues f).contains column = row.contains column := by
  rw [← isSome_get?, get?_mapValues, Option.isSome_map, isSome_get?]

/-- A missing column has null for its value, which the function need not
keep. -/
theorem valueOf_mapValues {row : Row} {column : String}
    (present : row.contains column = true) :
    (row.mapValues f).valueOf column = f (row.valueOf column) := by
  have found := get?_of_contains present
  rw [valueOf, get?_mapValues, found]
  rfl

@[simp] theorem requireAll_mapValues (row : Row) :
    (row.mapValues f).requireAll = row.requireAll := by
  funext index columns
  simp [requireAll, missing?]

@[simp] theorem requireExactly_mapValues (row : Row) :
    (row.mapValues f).requireExactly = row.requireExactly := by
  funext index columns
  simp [requireExactly, stray?]

end Row

namespace Batch

def mapValues (rows : Batch) : Batch := rows.map (Row.mapValues f)

@[simp] theorem columns_mapValues (rows : Batch) :
    (rows.mapValues f).columns = rows.columns := by
  cases rows with
  | nil => rfl
  | cons first rest => simp [mapValues, Batch.columns]

theorem checkRows_mapValues (rows : Batch)
    (check : Row → Nat → Except ValidationError Unit) :
    (rows.mapValues f).checkRows check =
      rows.checkRows fun row index => check (row.mapValues f) index := by
  unfold checkRows mapValues
  rw [List.zipIdx_map, List.forM_eq_forM, List.forM_map]
  rfl

end Batch

def Binding.mapValue (binding : Binding) : Binding :=
  ⟨f binding.value, binding.type⟩

theorem Row.bindings_mapValues {row : Row} {columns : List String}
    (types : ColumnTypes) (has : row.Has columns) :
    (row.mapValues f).bindings types columns =
      (row.bindings types columns).map (Binding.mapValue f) := by
  unfold Row.bindings
  rw [List.map_map]
  apply List.map_congr_left
  intro column member
  simp [Binding.mapValue, Row.valueOf_mapValues f (has column member)]

namespace RowValues

def mapValues (values : RowValues) : RowValues :=
  ⟨values.columns, values.rows.map (List.map (Binding.mapValue f))⟩

end RowValues

namespace Batch

@[simp] theorem headColumns_mapValues (rows : Batch) :
    (rows.mapValues f).headColumns = rows.headColumns := by
  cases rows with
  | nil => rfl
  | cons first rest => simp [mapValues, headColumns]

theorem Uniform.mapValues {rows : Batch} (uniform : rows.Uniform) :
    (rows.mapValues f).Uniform := by
  constructor
  · rw [headColumns_mapValues]
    exact uniform.nonempty
  · intro row member column present
    obtain ⟨original, originalMember, rfl⟩ := List.mem_map.mp member
    rw [headColumns_mapValues] at present
    rw [Row.contains_mapValues]
    exact uniform.has original originalMember column present
  · intro row member column present
    obtain ⟨original, originalMember, rfl⟩ := List.mem_map.mp member
    rw [Row.columns_mapValues] at present
    rw [headColumns_mapValues]
    exact uniform.only original originalMember column present

theorem rowValues_mapValues {rows : Batch} (types : ColumnTypes)
    (uniform : rows.Uniform) :
    (rows.mapValues f).rowValues types =
      (rows.rowValues types).mapValues f := by
  rw [rowValues, headColumns_mapValues, rowValues, RowValues.mapValues,
    mapValues, List.map_map, List.map_map]
  congr 1
  apply List.map_congr_left
  intro row member
  exact Row.bindings_mapValues f types (uniform.has row member)

theorem values_mapValues_eq_error {rows : Batch} {types : ColumnTypes}
    {error : ValidationError} :
    (rows.mapValues f).values types = .error error ↔
      rows.values types = .error error := by
  simp only [values_eq_error, columns_mapValues, checkRows_mapValues,
    Row.requireExactly_mapValues]

end Batch

namespace UpdatePlan

def mapValues (plan : UpdatePlan) : UpdatePlan where
  identifiers := plan.identifiers.map f
  columns := plan.columns.map fun column =>
    ⟨column.column, column.cases.map fun pair => (f pair.1, f pair.2)⟩

section

variable {rows : Batch} {identifierColumn : String}
    {updateColumns : List String}

theorem Complete.mapValues
    (complete : Complete rows identifierColumn updateColumns) :
    Complete (rows.mapValues f) identifierColumn updateColumns := by
  constructor
  · intro empty
    exact complete.rows_ne_nil (List.map_eq_nil_iff.mp empty)
  · exact complete.columns_ne_nil
  · intro row member column present
    obtain ⟨original, originalMember, rfl⟩ := List.mem_map.mp member
    rw [Row.contains_mapValues]
    exact complete.has original originalMember column present

theorem plan_mapValues
    (complete : Complete rows identifierColumn updateColumns) :
    plan (rows.mapValues f) identifierColumn updateColumns =
      (plan rows identifierColumn updateColumns).mapValues f := by
  have identifier : ∀ row ∈ rows, row.contains identifierColumn = true :=
    fun row member => complete.has row member identifierColumn
      List.mem_cons_self
  have updated : ∀ column ∈ updateColumns.eraseDups, ∀ row ∈ rows,
      row.contains column = true :=
    fun column present row member =>
      complete.has row member column
        (List.mem_cons_of_mem identifierColumn present)
  simp only [plan, mapValues, UpdatePlan.mk.injEq, Batch.mapValues,
    List.map_map]
  constructor
  · apply List.map_congr_left
    intro row member
    exact Row.valueOf_mapValues f (identifier row member)
  · apply List.map_congr_left
    intro column present
    simp only [Function.comp_apply, cases, List.map_map, ColumnCases.mk.injEq,
      true_and]
    apply List.map_congr_left
    intro row member
    simp only [Function.comp_apply,
      Row.valueOf_mapValues f (identifier row member),
      Row.valueOf_mapValues f (updated column present row member)]

theorem ofRows_mapValues_eq_error {error : ValidationError} :
    ofRows (rows.mapValues f) identifierColumn updateColumns = .error error ↔
      ofRows rows identifierColumn updateColumns = .error error := by
  have empty : rows.mapValues f = [] ↔ rows = [] := List.map_eq_nil_iff
  simp only [ofRows_eq_error, empty, ne_eq, Batch.checkRows_mapValues,
    Row.requireAll_mapValues]

end

end UpdatePlan

/-! Templates keep their text and their names. -/

def Piece.mapValue : Piece → Piece
  | .text s => .text s
  | .name column => .name column
  | .bind binding => .bind (binding.mapValue f)

namespace Template

def mapValues (template : Template) : Template :=
  template.map (Piece.mapValue f)

@[simp] theorem mapValues_nil : mapValues f [] = [] := rfl

@[simp] theorem mapValues_text_cons (s : String) (rest : Template) :
    mapValues f (.text s :: rest) = .text s :: mapValues f rest := rfl

@[simp] theorem mapValues_name_cons (column : String) (rest : Template) :
    mapValues f (.name column :: rest) = .name column :: mapValues f rest := rfl

@[simp] theorem mapValues_bind_cons (binding : Binding) (rest : Template) :
    mapValues f (.bind binding :: rest) =
      .bind (binding.mapValue f) :: mapValues f rest := rfl

@[simp] theorem mapValues_append (first second : Template) :
    mapValues f (first ++ second) =
      mapValues f first ++ mapValues f second := by
  simp [mapValues]

@[simp] theorem mapValues_flatMap {α : Type} (items : List α)
    (each : α → Template) :
    mapValues f (items.flatMap each) = items.flatMap fun item =>
      mapValues f (each item) := by
  simp [mapValues, List.map_flatMap]

@[simp] theorem mapValues_parenthesised (template : Template) :
    mapValues f (parenthesised template) =
      parenthesised (mapValues f template) := by
  simp [parenthesised]

@[simp] theorem mapValues_commaSeparated (templates : List Template) :
    mapValues f (commaSeparated templates) =
      commaSeparated (templates.map (mapValues f)) := by
  cases templates with
  | nil => rfl
  | cons first rest =>
      rw [List.map_cons, commaSeparated_cons, commaSeparated_cons,
        mapValues_append, mapValues_flatMap, List.flatMap_map]
      rfl

@[simp] theorem mapValues_names (columns : List String) :
    mapValues f (names columns) = names columns := by
  rw [names, mapValues_commaSeparated, List.map_map]
  rfl

@[simp] theorem mapValues_binds (bindings : List Binding) :
    mapValues f (binds bindings) =
      binds (bindings.map (Binding.mapValue f)) := by
  rw [binds, mapValues_commaSeparated, List.map_map, binds, List.map_map]
  rfl

theorem chars_mapValues (quoter : Quoter) (template : Template) :
    chars quoter (mapValues f template) = chars quoter template := by
  induction template with
  | nil => rfl
  | cons piece template ih =>
      cases piece with
      | text s => exact congrArg (s.toList ++ ·) ih
      | name column => exact congrArg (quoter.chars column ++ ·) ih
      | bind binding => exact congrArg (['?'] ++ ·) ih

theorem bindings_mapValues (template : Template) :
    bindings (mapValues f template) =
      (bindings template).map (Binding.mapValue f) := by
  induction template with
  | nil => rfl
  | cons piece template ih =>
      cases piece with
      | text s => exact ih
      | name column => exact ih
      | bind binding => exact congrArg (binding.mapValue f :: ·) ih

end Template

namespace Query

def mapParams (query : Query) : Query :=
  { query with params := query.params.map f }

end Query

theorem Template.toQuery_mapValues (template : Template) (quoter : Quoter)
    (hint : ReuseHint) :
    (template.mapValues f).toQuery quoter hint =
      (template.toQuery quoter hint).mapParams f := by
  simp only [Template.toQuery, Query.mapParams, Template.sql, Template.params,
    Template.types, Template.chars_mapValues, Template.bindings_mapValues,
    List.map_map]
  rfl

namespace RowValues

theorem template_mapValues (values : RowValues) :
    (values.mapValues f).template = values.template.mapValues f := by
  simp only [template, mapValues, Template.mapValues_commaSeparated,
    List.map_map]
  congr 1
  apply List.map_congr_left
  intro row _
  exact (congrArg Template.parenthesised
    (Template.mapValues_binds f row)).symm.trans
    (Template.mapValues_parenthesised f (Template.binds row)).symm

end RowValues

namespace Selection

def mapValues (selection : Selection) : Selection :=
  { selection with identifiers := selection.identifiers.map f }

theorem template_mapValues (selection : Selection) :
    (selection.mapValues f).template = selection.template.mapValues f := by
  simp only [template, mapValues, bindings, Template.mapValues_name_cons,
    Template.mapValues_text_cons, Template.mapValues_parenthesised,
    Template.mapValues_binds, List.map_map]
  rfl

end Selection

namespace Operation

open Template

def mapValues : Operation → Operation
  | .insert rows types => .insert (rows.mapValues f) types
  | .insertIgnore rows types => .insertIgnore (rows.mapValues f) types
  | .upsert rows types updateColumns =>
      .upsert (rows.mapValues f) types updateColumns
  | .deleteByIds selection => .deleteByIds (selection.mapValues f)
  | .deleteByIdsWithLimit selection limit =>
      .deleteByIdsWithLimit (selection.mapValues f) limit
  | .updateByIds selection values types =>
      .updateByIds (selection.mapValues f) (values.mapValues f) types
  | .bulkUpdate rows types identifierColumn identifierType updateColumns =>
      .bulkUpdate (rows.mapValues f) types identifierColumn identifierType
        updateColumns

@[simp] theorem name_mapValues (operation : Operation) :
    (operation.mapValues f).name = operation.name := by
  cases operation <;> rfl

theorem Valid.mapValues {operation : Operation} (valid : operation.Valid) :
    (operation.mapValues f).Valid := by
  cases operation with
  | insert rows types => exact Batch.Uniform.mapValues f valid
  | insertIgnore rows types => exact Batch.Uniform.mapValues f valid
  | upsert rows types updateColumns =>
      obtain ⟨nonempty, uniform, known⟩ := valid
      refine ⟨nonempty, uniform.mapValues f, ?_⟩
      rwa [Batch.headColumns_mapValues]
  | deleteByIds selection =>
      exact fun empty => valid (List.map_eq_nil_iff.mp empty)
  | deleteByIdsWithLimit selection limit =>
      exact ⟨fun empty => valid.1 (List.map_eq_nil_iff.mp empty), valid.2⟩
  | updateByIds selection values types =>
      exact ⟨fun empty => valid.1 (List.map_eq_nil_iff.mp empty),
        fun empty => valid.2 (List.map_eq_nil_iff.mp empty)⟩
  | bulkUpdate rows types identifierColumn identifierType updateColumns =>
      exact UpdatePlan.Complete.mapValues f valid

theorem insertTemplate_mapValues (keywords table : String)
    (values : RowValues) :
    insertTemplate keywords table (values.mapValues f) =
      (insertTemplate keywords table values).mapValues f := by
  simp only [insertTemplate, RowValues.template_mapValues, List.cons_append,
    mapValues_text_cons, mapValues_name_cons, mapValues_append,
    mapValues_parenthesised, mapValues_names]
  rfl

theorem conflictTemplate_mapValues (updateColumns : List String) :
    (conflictTemplate updateColumns).mapValues f =
      conflictTemplate updateColumns := by
  rw [conflictTemplate, mapValues_text_cons, mapValues_commaSeparated,
    List.map_map]
  rfl

theorem deleteTemplate_mapValues (table : String) (selection : Selection) :
    deleteTemplate table (selection.mapValues f) =
      (deleteTemplate table selection).mapValues f := by
  simp [deleteTemplate, Selection.template_mapValues]

theorem updateTemplate_mapValues (table : String) (assignments : List Template)
    (selection : Selection) :
    updateTemplate table (assignments.map (Template.mapValues f))
      (selection.mapValues f) =
      (updateTemplate table assignments selection).mapValues f := by
  simp [updateTemplate, Selection.template_mapValues]

theorem casesTemplate_mapValues (identifierColumn : String)
    (identifierType : Option ParamType) (types : ColumnTypes)
    (column : ColumnCases) :
    casesTemplate identifierColumn identifierType types
        ⟨column.column, column.cases.map fun pair => (f pair.1, f pair.2)⟩ =
      (casesTemplate identifierColumn identifierType types column).mapValues
        f := by
  simp [casesTemplate, caseTemplate, List.flatMap_map, Binding.mapValue]

theorem template_mapValues {operation : Operation} (table : String)
    (valid : operation.Valid) :
    (operation.mapValues f).template table =
      (operation.template table).mapValues f := by
  cases operation with
  | insert rows types =>
      rw [mapValues, template, Batch.rowValues_mapValues f types valid,
        insertTemplate_mapValues]
      rfl
  | insertIgnore rows types =>
      rw [mapValues, template, Batch.rowValues_mapValues f types valid,
        insertTemplate_mapValues]
      rfl
  | upsert rows types updateColumns =>
      rw [mapValues, template, Batch.rowValues_mapValues f types valid.2.1,
        insertTemplate_mapValues, template, mapValues_append,
        conflictTemplate_mapValues]
  | deleteByIds selection => exact deleteTemplate_mapValues f table selection
  | deleteByIdsWithLimit selection limit =>
      rw [mapValues, template, deleteTemplate_mapValues, template,
        mapValues_append]
      rfl
  | updateByIds selection values types =>
      rw [mapValues, template, template, ← updateTemplate_mapValues,
        List.map_map]
      congr 1
      exact List.map_map
  | bulkUpdate rows types identifierColumn identifierType updateColumns =>
      simp only [mapValues, template, UpdatePlan.plan_mapValues f valid,
        UpdatePlan.mapValues, ← updateTemplate_mapValues, List.map_map]
      congr 1
      apply List.map_congr_left
      intro column _
      exact casesTemplate_mapValues f identifierColumn identifierType
        types column

theorem Rejected.mapValues {operation : Operation} {error : ValidationError}
    (rejected : operation.Rejected error) :
    (operation.mapValues f).Rejected error := by
  cases operation with
  | insert rows types => exact (Batch.values_mapValues_eq_error f).mpr rejected
  | insertIgnore rows types =>
      exact (Batch.values_mapValues_eq_error f).mpr rejected
  | upsert rows types updateColumns =>
      rcases rejected with empty | ⟨nonempty, failed | ⟨uniform, unknown⟩⟩
      · exact Or.inl empty
      · exact Or.inr ⟨nonempty,
          Or.inl ((Batch.values_mapValues_eq_error f).mpr failed)⟩
      · refine Or.inr ⟨nonempty, Or.inr ⟨uniform.mapValues f, ?_⟩⟩
        rwa [Batch.headColumns_mapValues]
  | deleteByIds selection => exact rejected.imp_left List.map_eq_nil_iff.mpr
  | deleteByIdsWithLimit selection limit =>
      exact rejected.imp (And.imp_left List.map_eq_nil_iff.mpr)
        (And.imp_left fun nonempty empty =>
          nonempty (List.map_eq_nil_iff.mp empty))
  | updateByIds selection values types =>
      refine rejected.imp (And.imp_left List.map_eq_nil_iff.mpr) ?_
      rintro ⟨nonempty, empty, reason⟩
      exact ⟨fun mapped => nonempty (List.map_eq_nil_iff.mp mapped),
        List.map_eq_nil_iff.mpr empty, reason⟩
  | bulkUpdate rows types identifierColumn identifierType updateColumns =>
      exact (UpdatePlan.ofRows_mapValues_eq_error f).mpr rejected

end Operation

namespace TableStatement

def mapValues (statement : TableStatement) : TableStatement :=
  { statement with operation := statement.operation.mapValues f }

theorem build_mapValues (statement : TableStatement) :
    (statement.mapValues f).build =
      statement.build.map (Query.mapParams f) := by
  cases built : statement.build with
  | ok query =>
      obtain ⟨valid, rfl⟩ := build_eq_ok.mp built
      refine build_eq_ok.mpr ⟨valid.mapValues f, ?_⟩
      rw [← Template.toQuery_mapValues,
        ← Operation.template_mapValues f statement.table valid]
      rfl
  | error error =>
      have rejected := build_eq_error.mp built
      exact build_eq_error.mpr (rejected.mapValues f)

end TableStatement

def RawStatement.mapValues (statement : RawStatement) : RawStatement :=
  { statement with params := statement.params.map f }

namespace Statement

def mapValues : Statement → Statement
  | .table statement => .table (statement.mapValues f)
  | .raw statement => .raw (statement.mapValues f)

theorem build_mapValues (statement : Statement) :
    (statement.mapValues f).build =
      statement.build.map (Query.mapParams f) := by
  cases statement with
  | table statement => exact statement.build_mapValues f
  | raw statement => rfl

/-- An outcome tells how many parameters there are and not what they are. -/
theorem outcome_mapValues (statement : Statement)
    (result : Except ValidationError Query) :
    (statement.mapValues f).outcome (result.map (Query.mapParams f)) =
      statement.outcome result := by
  have name : (statement.mapValues f).name = statement.name := by
    cases statement with
    | table statement => exact statement.operation.name_mapValues f
    | raw statement => rfl
  have table : (statement.mapValues f).table? = statement.table? := by
    cases statement <;> rfl
  cases result with
  | ok query => simp [outcome, Except.map, Query.mapParams, name, table]
  | error error => simp [outcome, Except.map, name, table]

theorem events_mapValues (statement : Statement) :
    (statement.mapValues f).buildLogged.events =
      statement.buildLogged.events := by
  simp only [buildLogged, build_mapValues, outcome_mapValues]

def blank (statement : Statement) : Statement :=
  statement.mapValues fun _ => .null

theorem sql_blank (statement : Statement) :
    statement.blank.build.map Query.sql = statement.build.map Query.sql := by
  rw [blank, build_mapValues]
  cases statement.build <;> rfl

theorem events_blank (statement : Statement) :
    statement.blank.buildLogged.events = statement.buildLogged.events :=
  events_mapValues _ statement

/-- Values reach the parameters and nothing else. Statements that differ in
their values only have the same SQL text and leave the same log. -/
theorem build_depends_on_values_in_params_only :
    (∀ (f : Value → Value) (statement : Statement),
      (statement.mapValues f).build = statement.build.map (Query.mapParams f) ∧
        (statement.mapValues f).buildLogged.events =
          statement.buildLogged.events) ∧
      ∀ first second : Statement, first.blank = second.blank →
        first.build.map Query.sql = second.build.map Query.sql ∧
          first.buildLogged.events = second.buildLogged.events := by
  constructor
  · intro f statement
    exact ⟨statement.build_mapValues f, statement.events_mapValues f⟩
  · intro first second same
    constructor
    · calc
        first.build.map Query.sql = first.blank.build.map Query.sql :=
          first.sql_blank.symm
        _ = second.blank.build.map Query.sql := by rw [same]
        _ = second.build.map Query.sql := second.sql_blank
    · calc
        first.buildLogged.events = first.blank.buildLogged.events :=
          first.events_blank.symm
        _ = second.blank.buildLogged.events := by rw [same]
        _ = second.buildLogged.events := second.events_blank

/-- Two batches with one ragged row each, told apart by their values only. -/
theorem build_depends_on_values_in_params_only_ragged :
    let insert (name other : Value) : Statement :=
      .table {
        table := "users"
        operation := .insert [Row.ofList [("name", name), ("id", .null)],
          Row.ofList [("name", other)]] {} }
    (insert .null (.text "name")).blank = (insert (.text "?") .null).blank ∧
      (insert .null (.text "name")).buildLogged.events =
        (insert (.text "?") .null).buildLogged.events := by
  intro insert
  exact ⟨rfl, (build_depends_on_values_in_params_only.2 _ _ rfl).2⟩

end Statement

end BulkWrite
