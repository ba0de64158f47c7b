import BulkWrite.Proofs.Correspondence

/-!
Reading statements back. Whatever tells the command of a statement tells the
statement: the text alone tells its outline, and the text with the parameters
tells its content. No name, then, can pass for a part of the statement around
it.
-/

namespace BulkWrite

/-- What the text of a statement says of its operation. -/
inductive Outline where
  | insert (columns : List String) (rowCount : Nat)
  | insertIgnore (columns : List String) (rowCount : Nat)
  | upsert (columns : List String) (rowCount : Nat)
      (updateColumns : List String)
  | deleteByIds (identifierColumn : String) (identifierCount : Nat)
  | deleteByIdsWithLimit (identifierColumn : String) (identifierCount : Nat)
      (limit : Int64)
  | updateByIds (columns : List String) (identifierColumn : String)
      (identifierCount : Nat)
  | bulkUpdate (updateColumns : List String) (identifierColumn : String)
      (rowCount : Nat)

/-- The data of an operation. A record gives the value of each emitted
column. -/
structure Content where
  records : List (String → Option Value) := []
  assigned : List Entry := []
  identifiers : List Value := []

namespace Row

def within (row : Row) (columns : List String) : String → Option Value :=
  fun column => if column ∈ columns then row.get? column else none

theorem within_of_has {row : Row} {columns : List String}
    (has : row.Has columns) :
    row.within columns =
      fun column =>
        if column ∈ columns then some (row.valueOf column) else none := by
  funext column
  unfold within
  by_cases member : column ∈ columns
  · rw [if_pos member, if_pos member, get?_of_contains (has column member)]
  · rw [if_neg member, if_neg member]

end Row

namespace Operation

def outline : Operation → Outline
  | .insert rows _ => .insert rows.headColumns rows.length
  | .insertIgnore rows _ => .insertIgnore rows.headColumns rows.length
  | .upsert rows _ updateColumns =>
      .upsert rows.headColumns rows.length updateColumns
  | .deleteByIds selection =>
      .deleteByIds selection.column selection.identifiers.length
  | .deleteByIdsWithLimit selection limit =>
      .deleteByIdsWithLimit selection.column selection.identifiers.length limit
  | .updateByIds selection values _ =>
      .updateByIds values.columns selection.column selection.identifiers.length
  | .bulkUpdate rows _ identifierColumn _ updateColumns =>
      .bulkUpdate updateColumns.eraseDups identifierColumn rows.length

def content : Operation → Content
  | .insert rows _ => { records := rows.map (·.within rows.headColumns) }
  | .insertIgnore rows _ => { records := rows.map (·.within rows.headColumns) }
  | .upsert rows _ _ => { records := rows.map (·.within rows.headColumns) }
  | .deleteByIds selection => { identifiers := selection.identifiers }
  | .deleteByIdsWithLimit selection _ =>
      { identifiers := selection.identifiers }
  | .updateByIds selection values _ =>
      { assigned := values.entries, identifiers := selection.identifiers }
  | .bulkUpdate rows _ identifierColumn _ updateColumns =>
      { records := rows.map
          (·.within (UpdatePlan.required identifierColumn updateColumns))
        identifiers := rows.map (·.valueOf identifierColumn) }

end Operation

variable {α β : Type}

namespace Assigned

def isCases : Assigned α → Bool
  | .plain _ => false
  | .cases _ _ => true

theorem isCases_map (f : α → β) (assigned : Assigned α) :
    (assigned.map f).isCases = assigned.isCases := by
  cases assigned <;> rfl

def plain? : Assigned α → Option α
  | .plain content => some content
  | .cases _ _ => none

/-- The result of the branch at the index. -/
def result? (index : Nat) : Assigned α → Option α
  | .plain _ => none
  | .cases branches _ => branches[index]?.map fun branch => branch.result

end Assigned

namespace Command

def table : Command α → String
  | .insert _ table _ _ _ => table
  | .delete table _ _ => table
  | .update table _ _ => table

def outline : Command α → Outline
  | .insert true _ columns rows _ => .insertIgnore columns rows.length
  | .insert false _ columns rows [] => .insert columns rows.length
  | .insert false _ columns rows overwrites =>
      .upsert columns rows.length
        (overwrites.map fun overwrite => overwrite.column)
  | .delete _ condition none =>
      .deleteByIds condition.column condition.operands.length
  | .delete _ condition (some limit) =>
      .deleteByIdsWithLimit condition.column condition.operands.length
        (Int64.ofNat limit)
  | .update _ assignments condition =>
      let columns := assignments.map fun assignment => assignment.column
      if assignments.all fun assignment => assignment.assigned.isCases then
        .bulkUpdate columns condition.column condition.operands.length
      else .updateByIds columns condition.column condition.operands.length

/-- The record at the index: its identifier, and the result at the index in the
other columns. -/
def record (assignments : List (Assignment Value)) (identifierColumn : String)
    (identified : Value × Nat) : String → Option Value := fun column =>
  if column = identifierColumn then some identified.1
  else
    (assignments.find? fun assignment => assignment.column = column).bind
      fun assignment => assignment.assigned.result? identified.2

def content : Command Value → Content
  | .insert _ _ columns rows _ =>
      { records := rows.map fun values column =>
          (columns.zip values).lookup column }
  | .delete _ condition _ => { identifiers := condition.operands }
  | .update _ assignments condition =>
      if assignments.all fun assignment => assignment.assigned.isCases then
        { records := condition.operands.zipIdx.map
            (record assignments condition.column)
          identifiers := condition.operands }
      else
        { assigned := assignments.filterMap fun assignment =>
            assignment.assigned.plain?.map fun value =>
              (assignment.column, value)
          identifiers := condition.operands }

theorem table_map (f : α → β) (command : Command α) :
    (command.map f).table = command.table := by
  cases command <;> rfl

theorem outline_map (f : α → β) (command : Command α) :
    (command.map f).outline = command.outline := by
  cases command with
  | insert ignore table columns rows overwrites =>
      cases ignore <;> cases overwrites <;> simp [map, outline]
  | delete table condition limit =>
      cases limit <;> simp [map, outline, Condition.map]
  | update table assignments condition =>
      have columns : (assignments.map (Assignment.map f)).map
          (fun assignment => assignment.column) =
            assignments.map fun assignment => assignment.column := by
        rw [List.map_map]
        rfl
      have cases : (assignments.map (Assignment.map f)).all (fun assignment =>
          assignment.assigned.isCases) = assignments.all fun assignment =>
            assignment.assigned.isCases := by
        rw [List.all_map]
        congr 1
        funext assignment
        exact assignment.assigned.isCases_map f
      simp only [map, outline, columns, cases, Condition.map, List.length_map]

end Command

namespace Operation

theorem table_command (table : String) (operation : Operation) :
    (operation.command table).table = table := by
  cases operation <;> rfl

theorem all_isCases_casesAssignment (identifierColumn : String)
    (identifierType : Option ParamType) (types : ColumnTypes)
    (columns : List ColumnCases) :
    ((columns.map (casesAssignment identifierColumn identifierType types)).all
        fun assignment => assignment.assigned.isCases) = true := by
  rw [List.all_map]
  exact List.all_eq_true.mpr fun column _ => rfl

theorem all_isCases_plainAssignment (types : ColumnTypes) {entries : List Entry}
    (nonempty : entries ≠ []) :
    ((entries.map (plainAssignment types)).all fun assignment =>
      assignment.assigned.isCases) = false := by
  cases entries with
  | nil => exact absurd rfl nonempty
  | cons entry rest => rfl

theorem outline_command {operation : Operation} (valid : operation.Valid)
    (table : String) :
    (operation.command table).outline = operation.outline := by
  cases operation with
  | insert rows types =>
      simp [command, Command.outline, Batch.rowValues, outline]
  | insertIgnore rows types =>
      simp [command, Command.outline, Batch.rowValues, outline]
  | upsert rows types updateColumns =>
      obtain ⟨nonempty, _⟩ := valid
      cases updateColumns with
      | nil => exact absurd rfl nonempty
      | cons column rest =>
          simp [command, Command.outline, Batch.rowValues, outline,
            Function.comp_def]
  | deleteByIds selection =>
      simp [command, Command.outline, Selection.condition, Selection.bindings,
        outline]
  | deleteByIdsWithLimit selection limit =>
      have same : Int64.ofNat limit.toInt.toNat = limit := by
        rw [← Int64.ofInt_eq_ofNat, Int.toNat_of_nonneg (Int.le_of_lt valid.2),
          Int64.ofInt_toInt]
      simp only [command, Command.outline, Selection.condition,
        Selection.bindings, List.length_map, outline, same]
  | updateByIds selection values types =>
      rw [command, Command.outline, all_isCases_plainAssignment types valid.2]
      simp [plainAssignment, Selection.condition, Selection.bindings, outline,
        Row.columns, Function.comp_def]
  | bulkUpdate rows types identifierColumn identifierType updateColumns =>
      rw [command, Command.outline, all_isCases_casesAssignment]
      simp [casesAssignment, Selection.condition, Selection.bindings, outline,
        UpdatePlan.plan, Function.comp_def]

theorem lookup_zip_map {γ : Type} (columns : List String) (value : String → γ)
    (column : String) :
    (columns.zip (columns.map value)).lookup column =
      if column ∈ columns then some (value column) else none := by
  induction columns with
  | nil => rfl
  | cons first rest ih =>
      rw [List.map_cons, List.zip_cons_cons, List.lookup_cons, ih]
      by_cases same : column = first
      · simp [same]
      · have different : (column == first) = false :=
          beq_eq_false_iff_ne.mpr same
        simp [different, same]

theorem find?_column {γ : Type} (columns : List String)
    (assigned : String → Assigned γ) (column : String) :
    (columns.map fun column => (⟨column, assigned column⟩ : Assignment γ)).find?
        (fun assignment => assignment.column = column) =
      if column ∈ columns then some ⟨column, assigned column⟩ else none := by
  induction columns with
  | nil => rfl
  | cons first rest ih =>
      rw [List.map_cons, List.find?_cons, ih]
      by_cases same : column = first
      · simp [same]
      · have different : first ≠ column := Ne.symm same
        simp [different, same]

/-- A uniform batch is told by its columns and its values in their order. -/
theorem content_insert {rows : Batch} (types : ColumnTypes)
    (uniform : rows.Uniform) (ignore : Bool) (table : String)
    (overwrites : List Overwrite) :
    ((Command.insert ignore table rows.headColumns (rows.rowValues types).rows
        overwrites).map Binding.value).content =
      { records := rows.map (·.within rows.headColumns) } := by
  rw [Command.map, Command.content, Batch.rowValues, List.map_map, List.map_map]
  congr 1
  apply List.map_congr_left
  intro row member
  rw [Row.within_of_has (uniform.has row member)]
  funext column
  have values : (row.bindings types rows.headColumns).map Binding.value =
      rows.headColumns.map row.valueOf := by
    rw [Row.bindings, List.map_map]
    rfl
  exact (congrArg (fun values => (rows.headColumns.zip values).lookup column)
    values).trans
    (lookup_zip_map rows.headColumns row.valueOf column)

theorem operands_condition (selection : Selection) :
    (selection.condition.map Binding.value).operands =
      selection.identifiers := by
  rw [Selection.condition, Condition.map, Selection.bindings, List.map_map]
  exact List.map_id _

theorem content_delete (table : String) (selection : Selection)
    (limit : Option Nat) :
    ((Command.delete table selection.condition limit).map
      Binding.value).content =
      { identifiers := selection.identifiers } := by
  rw [Command.map, Command.content, operands_condition]

theorem content_updateByIds (table : String) (selection : Selection)
    {values : Row} (types : ColumnTypes) (nonempty : values.entries ≠ []) :
    (((updateByIds selection values types).command table).map
      Binding.value).content =
      { assigned := values.entries, identifiers := selection.identifiers } := by
  have plain : (values.entries.map (plainAssignment types)).map
      (Assignment.map Binding.value) =
      values.entries.map fun entry => ⟨entry.1, .plain entry.2⟩ := by
    rw [List.map_map]
    rfl
  have notCases : ((values.entries.map fun entry =>
      (⟨entry.1, .plain entry.2⟩ : Assignment Value)).all fun assignment =>
        assignment.assigned.isCases) = false := by
    cases entries : values.entries with
    | nil => exact absurd entries nonempty
    | cons entry rest => rfl
  have assigned : (values.entries.map fun entry =>
      (⟨entry.1, .plain entry.2⟩ : Assignment Value)).filterMap
          (fun assignment =>
        assignment.assigned.plain?.map fun value =>
          (assignment.column, value)) =
      values.entries := by
    rw [List.filterMap_map]
    exact List.filterMap_some
  rw [command, Command.map, plain, Command.content, notCases, assigned,
    operands_condition]
  rfl

/-- The branches of a complete batch at one index tell the row at the index. -/
theorem records_keyedCases {rows : Batch} {identifierColumn : String}
    {updateColumns : List String}
    (complete : UpdatePlan.Complete rows identifierColumn updateColumns) :
    (rows.map (·.valueOf identifierColumn)).zipIdx.map (Command.record
        (updateColumns.eraseDups.map fun column =>
          ⟨column, keyedCases rows identifierColumn column⟩) identifierColumn) =
      rows.map (·.within
          (UpdatePlan.required identifierColumn updateColumns)) := by
  apply List.ext_getElem
  · simp
  · intro index _ inside
    have bound : index < rows.length := by simpa using inside
    simp only [List.getElem_map, List.getElem_zipIdx, Nat.zero_add]
    rw [Row.within_of_has (complete.has rows[index] (List.getElem_mem bound))]
    funext column
    unfold Command.record
    by_cases isIdentifier : column = identifierColumn
    · simp [isIdentifier, UpdatePlan.required]
    · rw [if_neg isIdentifier, find?_column]
      by_cases member : column ∈ updateColumns
      · simp [isIdentifier, member, UpdatePlan.required, keyedCases,
          Assigned.result?, bound]
      · simp [isIdentifier, member, UpdatePlan.required]

theorem content_bulkUpdate (table : String) {rows : Batch} (types : ColumnTypes)
    {identifierColumn : String} (identifierType : Option ParamType)
    {updateColumns : List String}
    (complete : UpdatePlan.Complete rows identifierColumn updateColumns) :
    (((bulkUpdate rows types identifierColumn identifierType
        updateColumns).command table).map Binding.value).content =
      { records := rows.map
          (·.within (UpdatePlan.required identifierColumn updateColumns))
        identifiers := rows.map (·.valueOf identifierColumn) } := by
  have cases : ((updateColumns.eraseDups.map fun column =>
      (⟨column, keyedCases rows identifierColumn column⟩ :
        Assignment Value)).all
        fun assignment => assignment.assigned.isCases) = true := by
    rw [List.all_map]
    exact List.all_eq_true.mpr fun column _ => rfl
  rw [command_bulkUpdate, Command.content, cases, records_keyedCases complete]
  rfl

theorem content_command {operation : Operation} (valid : operation.Valid)
    (table : String) :
    ((operation.command table).map Binding.value).content =
      operation.content := by
  cases operation with
  | insert rows types => exact content_insert types valid false table []
  | insertIgnore rows types => exact content_insert types valid true table []
  | upsert rows types updateColumns =>
      exact content_insert types valid.2.1 false table _
  | deleteByIds selection => exact content_delete table selection none
  | deleteByIdsWithLimit selection limit =>
      exact content_delete table selection _
  | updateByIds selection values types =>
      exact content_updateByIds table selection types valid.2
  | bulkUpdate rows types identifierColumn identifierType updateColumns =>
      exact content_bulkUpdate table types identifierType valid

end Operation

namespace TableStatement

theorem table_command (statement : TableStatement) :
    statement.command.table = statement.table := by
  rw [command, Command.table_map, Operation.table_command]

theorem outline_command {statement : TableStatement}
    (valid : statement.operation.Valid) :
    statement.command.outline = statement.operation.outline := by
  rw [command, Command.outline_map, Operation.outline_command valid]

theorem content_command {statement : TableStatement}
    (valid : statement.operation.Valid) :
    statement.command.content = statement.operation.content :=
  Operation.content_command valid statement.table

/-- Statements with one text have one table and one outline, and one content if
they have the same parameters. -/
theorem sql_determines_statement {first second : TableStatement}
    {firstQuery secondQuery : Query} (sameQuoter : first.quoter = second.quoter)
    (separates : first.quoter.Separates)
    (firstBuilt : first.build = .ok firstQuery)
    (secondBuilt : second.build = .ok secondQuery)
    (sameSql : firstQuery.sql = secondQuery.sql) :
    first.table = second.table ∧
      first.operation.outline = second.operation.outline ∧
      (firstQuery.params = secondQuery.params →
        first.operation.content = second.operation.content) := by
  obtain ⟨firstValid, -⟩ := build_eq_ok.mp firstBuilt
  obtain ⟨secondValid, -⟩ := build_eq_ok.mp secondBuilt
  obtain ⟨firstChars, firstParams, firstFilled⟩ := build_command firstBuilt
  obtain ⟨secondChars, secondParams, secondFilled⟩ := build_command secondBuilt
  have firstSeparated := first.separated_command separates
  have secondSeparated := second.separated_command separates
  have sameChars : first.command.chars first.quoter =
      second.command.chars first.quoter := by
    rw [← firstChars, sameSql, secondChars, sameQuoter]
  have erased := Command.map_eq_of_chars firstFilled firstSeparated secondFilled
    secondSeparated sameChars
  refine ⟨?_, ?_, ?_⟩
  · have tables := congrArg Command.table erased
    rwa [Command.table_map, Command.table_map, table_command,
      table_command] at tables
  · have outlines := congrArg Command.outline erased
    rwa [Command.outline_map, Command.outline_map, outline_command firstValid,
      outline_command secondValid] at outlines
  · intro sameParams
    rw [firstParams, secondParams] at sameParams
    have commands := Command.eq_of_chars_of_contents firstFilled firstSeparated
      secondFilled
      secondSeparated sameChars sameParams
    have contents := congrArg Command.content commands
    rwa [content_command firstValid, content_command secondValid] at contents

/-- Names with delimiters and keywords in them, and a column listed once or
twice. -/
theorem sql_determines_statement_repeated_column :
    let update (row : Row) (types : ColumnTypes) (updateColumns : List String) :
      TableStatement :=
      { table := "t\x60 SET \x60"
        operation := .bulkUpdate [row] types ", (id) WHERE" none updateColumns }
    let first :=
      update (Row.ofList [(", (id) WHERE", .int 1),
        ("\x60\x60 = ? END", .null)])
      ⟨[("\x60\x60 = ? END", .integer)]⟩ ["\x60\x60 = ? END",
        "\x60\x60 = ? END"]
    let second :=
      update (Row.ofList [("other", .bool true), ("\x60\x60 = ? END", .null),
      (", (id) WHERE", .int 1)]) {} ["\x60\x60 = ? END"]
    first.quoter.Separates ∧
      ∃ firstQuery secondQuery, first.build = .ok firstQuery ∧
        second.build = .ok secondQuery ∧
        firstQuery.sql = secondQuery.sql ∧
          firstQuery.params = secondQuery.params ∧
          first.operation.outline = second.operation.outline ∧
            first.operation.content = second.operation.content := by
  intro update first second
  have separates : first.quoter.Separates := ⟨by decide, by decide, by decide⟩
  have sameQuoter : first.quoter = second.quoter := rfl
  have determined := sql_determines_statement sameQuoter separates rfl rfl rfl
  exact ⟨separates, _, _, rfl, rfl, rfl, rfl, determined.2.1,
    determined.2.2 rfl⟩

end TableStatement

end BulkWrite
