import BulkWrite.Proofs.Command
import BulkWrite.Proofs.Compilation

/-!
Operations as commands. Every valid operation has a command with the text of its
template, and the bindings of the template are the contents of the command. A
query that is built says the command and nothing else: it can be read back.
-/

namespace BulkWrite

namespace Template

variable (quoter : Quoter)

theorem chars_text_cons (s : String) (rest : Template) :
    chars quoter (Piece.text s :: rest) = s.toList ++ chars quoter rest := rfl

theorem chars_name_cons (column : String) (rest : Template) :
    chars quoter (Piece.name column :: rest) =
      quoter.chars column ++ chars quoter rest := rfl

theorem chars_flatMap {β : Type} (items : List β) (each : β → Template) :
    chars quoter (items.flatMap each) = items.flatMap fun item =>
      chars quoter (each item) := by
  rw [chars, List.flatMap_assoc]
  rfl

theorem chars_commaSeparated (templates : List Template) :
    chars quoter (commaSeparated templates) =
      [',', ' '].intercalate (templates.map (chars quoter)) := by
  cases templates with
  | nil => rfl
  | cons first rest =>
      rw [commaSeparated_cons, chars_append, chars_flatMap, List.map_cons,
        intercalate_cons, List.flatMap_map]
      rfl

theorem chars_columns (columns : List String) :
    chars quoter (parenthesised (names columns)) =
      Command.columnsChars quoter columns := by
  have each : (columns.map fun column => [Piece.name column]).map
      (chars quoter) =
      columns.map quoter.chars := by
    rw [List.map_map]
    exact List.map_congr_left fun column _ => List.append_nil _
  rw [parenthesised, chars_append, chars_text_cons, names, chars_commaSeparated,
    each, List.append_assoc]
  rfl

theorem chars_group (bindings : List Binding) :
    chars quoter (parenthesised (binds bindings)) =
      Command.groupChars bindings := by
  rw [parenthesised, chars_append, chars_text_cons, binds, chars_commaSeparated,
    List.map_map, List.append_assoc]
  rfl

theorem bindings_flatMap {β : Type} (items : List β) (each : β → Template) :
    bindings (items.flatMap each) = items.flatMap fun item =>
      bindings (each item) := by
  rw [bindings, List.filterMap_flatMap]
  rfl

theorem bindings_commaSeparated (templates : List Template) :
    bindings (commaSeparated templates) = templates.flatMap bindings := by
  cases templates with
  | nil => rfl
  | cons first rest =>
      rw [commaSeparated_cons, bindings_append, bindings_flatMap]
      rfl

theorem bindings_parenthesised (template : Template) :
    bindings (parenthesised template) = bindings template := by
  rw [parenthesised, bindings_append]
  exact List.append_nil _

theorem bindings_names (columns : List String) :
    bindings (names columns) = [] := by
  rw [names, bindings_commaSeparated, List.flatMap_map]
  exact List.flatMap_eq_nil_iff.mpr fun _ _ => rfl

theorem bindings_binds (bound : List Binding) :
    bindings (binds bound) = bound := by
  rw [binds, bindings_commaSeparated, List.flatMap_map]
  exact List.flatMap_singleton' bound

end Template

namespace RowValues

theorem chars_template (quoter : Quoter) (values : RowValues) :
    values.template.chars quoter =
      [',', ' '].intercalate (values.rows.map Command.groupChars) := by
  rw [template, Template.chars_commaSeparated, List.map_map]
  congr 1
  exact List.map_congr_left fun row _ => Template.chars_group quoter row

theorem bindings_template (values : RowValues) :
    values.template.bindings = values.rows.flatten := by
  rw [template, Template.bindings_commaSeparated, List.flatMap_map,
    ← List.flatMap_id]
  apply List.flatMap_congr
  intro row _
  exact (Template.bindings_parenthesised _).trans (Template.bindings_binds row)

end RowValues

namespace Selection

def condition (selection : Selection) : Condition Binding :=
  ⟨selection.column, selection.bindings⟩

theorem chars_template (quoter : Quoter) (selection : Selection) :
    selection.template.chars quoter = selection.condition.chars quoter := by
  rw [template, Template.chars_name_cons, Template.chars_text_cons,
    Template.chars_group]
  rfl

theorem bindings_template (selection : Selection) :
    selection.template.bindings = selection.condition.operands := by
  have operands := Template.bindings_parenthesised
    (Template.binds selection.bindings)
  rw [Template.bindings_binds] at operands
  exact operands

end Selection

namespace Operation

open Template

def plainAssignment (types : ColumnTypes) (entry : Entry) :
    Assignment Binding :=
  ⟨entry.1, .plain ⟨entry.2, types.get? entry.1⟩⟩

def branch (identifierColumn : String)
    (identifierType valueType : Option ParamType) (pair : Value × Value) :
    Branch Binding :=
  ⟨identifierColumn, ⟨pair.1, identifierType⟩, ⟨pair.2, valueType⟩⟩

def casesAssignment (identifierColumn : String)
    (identifierType : Option ParamType) (types : ColumnTypes)
    (column : ColumnCases) : Assignment Binding :=
  ⟨column.column,
    .cases (column.cases.map
      (branch identifierColumn identifierType (types.get? column.column)))
      column.column⟩

def command (table : String) : Operation → Command Binding
  | .insert rows types =>
      .insert false table rows.headColumns (rows.rowValues types).rows []
  | .insertIgnore rows types =>
      .insert true table rows.headColumns (rows.rowValues types).rows []
  | .upsert rows types updateColumns =>
      .insert false table rows.headColumns (rows.rowValues types).rows
        (updateColumns.map fun column => ⟨column, column⟩)
  | .deleteByIds selection => .delete table selection.condition none
  | .deleteByIdsWithLimit selection limit =>
      .delete table selection.condition (some limit.toInt.toNat)
  | .updateByIds selection values types =>
      .update table (values.entries.map (plainAssignment types))
        selection.condition
  | .bulkUpdate rows types identifierColumn identifierType updateColumns =>
      let plan := UpdatePlan.plan rows identifierColumn updateColumns
      .update table (plan.columns.map
        (casesAssignment identifierColumn identifierType types))
        (Selection.condition ⟨identifierColumn, plan.identifiers,
          identifierType⟩)

/-! The text of a template is that of its command, part by part. -/

section

variable (quoter : Quoter) (table : String)

theorem chars_insertTemplate (ignore : Bool) (values : RowValues)
    (overwrites : List Overwrite) :
    chars quoter (insertTemplate (Command.insertKeywords ignore)
        table values) ++
        Command.overwritesChars quoter overwrites =
      (Command.insert ignore table values.columns values.rows overwrites).chars
        quoter := by
  rw [insertTemplate, chars_append, chars_text_cons, chars_name_cons,
    chars_text_cons, chars_columns, chars_text_cons, RowValues.chars_template,
    Command.chars_insert]
  simp only [List.append_assoc]

theorem chars_conflictTemplate {updateColumns : List String}
    (nonempty : updateColumns ≠ []) :
    chars quoter (conflictTemplate updateColumns) =
      Command.overwritesChars quoter
        (updateColumns.map fun column => ⟨column, column⟩) := by
  cases updateColumns with
  | nil => exact absurd rfl nonempty
  | cons column rest =>
      let overwrites : List Overwrite :=
        (column :: rest).map fun column => ⟨column, column⟩
      change _ = " ON DUPLICATE KEY UPDATE ".toList ++
        [',', ' '].intercalate (overwrites.map (Overwrite.chars quoter))
      rw [conflictTemplate, chars_text_cons, chars_commaSeparated, List.map_map,
        List.map_map]
      rfl

theorem chars_deleteTemplate (selection : Selection) (limit : Option Nat) :
    chars quoter (deleteTemplate table selection) ++ Command.limitChars limit =
      (Command.delete table selection.condition limit).chars quoter := by
  rw [deleteTemplate, chars_text_cons, chars_name_cons, chars_text_cons,
    Selection.chars_template, Command.chars_delete]
  simp only [List.append_assoc]

theorem chars_limitTemplate {limit : Int64} (positive : 0 < limit.toInt) :
    chars quoter (limitTemplate limit) =
      Command.limitChars (some limit.toInt.toNat) := by
  rw [limitTemplate, chars_text_cons, String.toList_append,
    toList_toString_of_nonneg (Int.le_of_lt positive)]
  exact List.append_nil _

theorem chars_updateTemplate {assignments : List Template}
    {trees : List (Assignment Binding)}
    (same : assignments.map (chars quoter) =
      trees.map (Assignment.chars quoter)) (selection : Selection) :
    chars quoter (updateTemplate table assignments selection) =
      (Command.update table trees selection.condition).chars quoter := by
  rw [updateTemplate, chars_append, chars_text_cons, chars_name_cons,
    chars_text_cons, chars_commaSeparated, same, chars_text_cons,
    Selection.chars_template, Command.chars_update]
  simp only [List.append_assoc]

theorem chars_casesTemplate (identifierColumn : String)
    (identifierType : Option ParamType) (types : ColumnTypes)
    (column : ColumnCases) :
    chars quoter (casesTemplate identifierColumn identifierType types column) =
      (casesAssignment identifierColumn identifierType types column).chars
        quoter := by
  rw [casesTemplate, chars_append, chars_name_cons, chars_text_cons,
    chars_flatMap, casesAssignment, Assignment.chars, Assigned.chars_cases,
    List.flatMap_map]
  simp only [List.append_assoc]
  rfl

theorem chars_template {operation : Operation} (valid : operation.Valid) :
    (operation.template table).chars quoter =
      (operation.command table).chars quoter := by
  cases operation with
  | insert rows types =>
      rw [template, ← List.append_nil (chars _ _)]
      exact chars_insertTemplate quoter table false (rows.rowValues types) []
  | insertIgnore rows types =>
      rw [template, ← List.append_nil (chars _ _)]
      exact chars_insertTemplate quoter table true (rows.rowValues types) []
  | upsert rows types updateColumns =>
      rw [template, chars_append, chars_conflictTemplate quoter valid.1]
      exact chars_insertTemplate quoter table false (rows.rowValues types) _
  | deleteByIds selection =>
      rw [template, ← List.append_nil (chars _ _)]
      exact chars_deleteTemplate quoter table selection none
  | deleteByIdsWithLimit selection limit =>
      rw [template, chars_append, chars_limitTemplate quoter valid.2]
      exact chars_deleteTemplate quoter table selection (some limit.toInt.toNat)
  | updateByIds selection values types =>
      apply chars_updateTemplate
      rw [List.map_map, List.map_map]
      rfl
  | bulkUpdate rows types identifierColumn identifierType updateColumns =>
      apply chars_updateTemplate
      rw [List.map_map, List.map_map]
      apply List.map_congr_left
      intro column _
      exact chars_casesTemplate quoter identifierColumn identifierType
        types column

end

/-! The bindings of a template are the contents of its command. -/

section

variable (table : String)

theorem bindings_insertTemplate (keywords : String) (values : RowValues) :
    bindings (insertTemplate keywords table values) = values.rows.flatten := by
  have columns := bindings_parenthesised (Template.names values.columns)
  rw [bindings_names] at columns
  rw [insertTemplate, bindings_append]
  exact (congrArg (· ++ values.template.bindings) columns).trans
    values.bindings_template

theorem bindings_conflictTemplate (updateColumns : List String) :
    bindings (conflictTemplate updateColumns) = [] := by
  refine (bindings_commaSeparated (updateColumns.map conflictAssignment)).trans
    ?_
  rw [List.flatMap_map]
  exact List.flatMap_eq_nil_iff.mpr fun _ _ => rfl

theorem bindings_deleteTemplate (selection : Selection) :
    bindings (deleteTemplate table selection) = selection.condition.operands :=
  selection.bindings_template

theorem bindings_updateTemplate {assignments : List Template}
    {trees : List (Assignment Binding)}
    (same : assignments.map bindings = trees.map Assignment.contents)
    (selection : Selection) :
    bindings (updateTemplate table assignments selection) =
      (Command.update table trees selection.condition).contents := by
  have here := bindings_commaSeparated assignments
  rw [List.flatMap_def, same, ← List.flatMap_def] at here
  rw [updateTemplate, bindings_append]
  exact congrArg₂ (· ++ ·) here selection.bindings_template

theorem bindings_casesTemplate (identifierColumn : String)
    (identifierType : Option ParamType) (types : ColumnTypes)
    (column : ColumnCases) :
    bindings (casesTemplate identifierColumn identifierType types column) =
      (casesAssignment identifierColumn identifierType types
          column).contents := by
  rw [casesTemplate, bindings_append]
  refine (List.append_nil _).trans ?_
  refine (bindings_flatMap column.cases _).trans ?_
  rw [casesAssignment, Assignment.contents, Assigned.contents, List.flatMap_map]
  rfl

theorem bindings_template (operation : Operation) :
    (operation.template table).bindings =
      (operation.command table).contents := by
  cases operation with
  | insert rows types => exact bindings_insertTemplate table _ _
  | insertIgnore rows types => exact bindings_insertTemplate table _ _
  | upsert rows types updateColumns =>
      rw [template, bindings_append, bindings_conflictTemplate, List.append_nil]
      exact bindings_insertTemplate table _ _
  | deleteByIds selection => exact bindings_deleteTemplate table selection
  | deleteByIdsWithLimit selection limit =>
      rw [template, bindings_append]
      exact (List.append_nil _).trans (bindings_deleteTemplate table selection)
  | updateByIds selection values types =>
      apply bindings_updateTemplate
      rw [List.map_map, List.map_map]
      rfl
  | bulkUpdate rows types identifierColumn identifierType updateColumns =>
      apply bindings_updateTemplate
      rw [List.map_map, List.map_map]
      apply List.map_congr_left
      intro column _
      exact bindings_casesTemplate identifierColumn identifierType types column

end

theorem filled_rowValues {rows : Batch} (types : ColumnTypes)
    (uniform : rows.Uniform) (ignore : Bool) (table : String)
    (overwrites : List Overwrite) :
    (Command.insert ignore table rows.headColumns (rows.rowValues types).rows
      overwrites).Filled := by
  refine ⟨uniform.nonempty, ?_, ?_⟩
  · intro empty
    exact uniform.rows_ne_nil (List.map_eq_nil_iff.mp empty)
  · intro bindings member
    obtain ⟨row, _, rfl⟩ := List.mem_map.mp member
    intro empty
    exact uniform.nonempty (List.map_eq_nil_iff.mp empty)

theorem Valid.filled_command {operation : Operation} (valid : operation.Valid)
    (table : String) :
    (operation.command table).Filled := by
  cases operation with
  | insert rows types => exact filled_rowValues types valid false table []
  | insertIgnore rows types => exact filled_rowValues types valid true table []
  | upsert rows types updateColumns =>
      exact filled_rowValues types valid.2.1 false table _
  | deleteByIds selection =>
      exact fun empty => valid (List.map_eq_nil_iff.mp empty)
  | deleteByIdsWithLimit selection limit =>
      exact fun empty => valid.1 (List.map_eq_nil_iff.mp empty)
  | updateByIds selection values types =>
      refine ⟨?_, ?_⟩
      · exact fun empty => valid.2 (List.map_eq_nil_iff.mp empty)
      · exact fun empty => valid.1 (List.map_eq_nil_iff.mp empty)
  | bulkUpdate rows types identifierColumn identifierType updateColumns =>
      have distinct : updateColumns.eraseDups ≠ [] := by
        obtain ⟨column, member⟩ :=
          List.exists_mem_of_ne_nil _ valid.columns_ne_nil
        exact List.ne_nil_of_mem (List.mem_eraseDups.mpr member)
      refine ⟨?_, ?_⟩
      · intro empty
        exact distinct (List.map_eq_nil_iff.mp (List.map_eq_nil_iff.mp empty))
      · intro empty
        exact valid.rows_ne_nil
          (List.map_eq_nil_iff.mp (List.map_eq_nil_iff.mp empty))

theorem separated_command {quoter : Quoter} (separates : quoter.Separates)
    (table : String) (operation : Operation) :
    (operation.command table).Separated quoter := by
  cases operation with
  | insert => exact separates
  | insertIgnore => exact separates
  | upsert => exact separates
  | deleteByIds => exact separates.space
  | deleteByIdsWithLimit => exact separates.space
  | updateByIds => exact separates.space
  | bulkUpdate => exact separates.space

/-- The cases of a column: where the identifier is that of a row, the value of
the row. -/
def keyedCases (rows : Batch) (identifierColumn column : String) :
    Assigned Value :=
  .cases
    (rows.map fun row =>
      ⟨identifierColumn, row.valueOf identifierColumn, row.valueOf column⟩)
    column

theorem command_bulkUpdate (table : String) (rows : Batch) (types : ColumnTypes)
    (identifierColumn : String) (identifierType : Option ParamType)
    (updateColumns : List String) :
    ((bulkUpdate rows types identifierColumn identifierType
        updateColumns).command table).map Binding.value =
      .update table
        (updateColumns.eraseDups.map fun column =>
          ⟨column, keyedCases rows identifierColumn column⟩)
        ⟨identifierColumn, rows.map (·.valueOf identifierColumn)⟩ := by
  simp [command, Command.map, UpdatePlan.plan, UpdatePlan.cases,
    casesAssignment, branch, Assignment.map, Assigned.map, Branch.map,
    keyedCases, Selection.condition, Selection.bindings, Condition.map,
    Function.comp_def]

end Operation

namespace TableStatement

def command (statement : TableStatement) : Command Value :=
  (statement.operation.command statement.table).map Binding.value

theorem separated_command {quoter : Quoter} (separates : quoter.Separates)
    (statement : TableStatement) : statement.command.Separated quoter :=
  (Operation.separated_command separates statement.table
    statement.operation).map _

theorem build_command {statement : TableStatement} {query : Query}
    (built : statement.build = .ok query) :
    query.sql.toList = statement.command.chars statement.quoter ∧
      query.params = statement.command.contents ∧ statement.command.Filled := by
  obtain ⟨valid, rfl⟩ := build_eq_ok.mp built
  refine ⟨?_, ?_, ?_⟩
  · rw [Template.toQuery, Template.toList_sql, command, Command.chars_map,
      Operation.chars_template statement.quoter statement.table valid]
  · rw [Template.toQuery, Template.params, command, Command.contents_map,
      Operation.bindings_template]
  · exact (valid.filled_command statement.table).map _

end TableStatement

namespace Query

/-- The parameters in their order, with their declared types. -/
def bindings (query : Query) : List Binding :=
  query.params.zipIdx.map fun bound => ⟨bound.1, query.typeAt? bound.2⟩

/-- The text and the bindings of the query are those of the command, which is
also what reading them gives, if the quoter keeps names apart from the text. -/
structure Spells (query : Query) (quoter : Quoter) (command : Command Binding) :
    Prop where
  text : query.sql.toList = command.chars quoter
  bound : query.bindings = command.contents
  read : quoter.Separates →
    Command.read? quoter query.sql.toList query.bindings = some command

end Query

theorem Template.bindings_toQuery (template : Template) (quoter : Quoter)
    (hint : ReuseHint) :
    (template.toQuery quoter hint).bindings = template.bindings := by
  apply List.ext_getElem?
  intro position
  have type : (template.toQuery quoter hint).typeAt? position =
      (template.bindings.map (·.type))[position]?.join := by
    have declared :=
      TypeMap.get?_ofSlots (template.bindings.map (·.type)) 0 position
    rwa [Nat.zero_add] at declared
  have value : (template.toQuery quoter hint).params[position]? =
      template.bindings[position]?.map (·.value) := List.getElem?_map
  rw [Query.bindings, List.getElem?_map, List.getElem?_zipIdx, value]
  cases bound : template.bindings[position]? with
  | none => rfl
  | some binding =>
      rw [List.getElem?_map, bound] at type
      simp [type]

namespace TableStatement

theorem build_spells {statement : TableStatement} {query : Query}
    (built : statement.build = .ok query) :
    query.Spells statement.quoter
      (statement.operation.command statement.table) := by
  obtain ⟨valid, isQuery⟩ := build_eq_ok.mp built
  have text : query.sql.toList =
      (statement.operation.command statement.table).chars statement.quoter := by
    rw [isQuery, Template.toQuery, Template.toList_sql,
      Operation.chars_template statement.quoter statement.table valid]
  have bound : query.bindings =
      (statement.operation.command statement.table).contents := by
    rw [isQuery, Template.bindings_toQuery, Operation.bindings_template]
  refine ⟨text, bound, fun separates => ?_⟩
  rw [text, bound]
  exact Command.read?_chars (valid.filled_command statement.table)
    (Operation.separated_command separates statement.table statement.operation)

end TableStatement

end BulkWrite
