import BulkWrite.Proofs.Cells
import BulkWrite.Proofs.RowHistory
import BulkWrite.Proofs.Writing

/-!
Plans for the update of a batch. A plan tabulates its rows; where a batch has no
plan, the gap that is named is the first one, by rows and within a row by
columns. The rows are gathered one after another, and what else they hold makes
no difference.
-/

namespace BulkWrite

theorem FirstOutside.iff_getElem? {items others : List String} {item : String} :
    FirstOutside items others item ↔
      ∃ position, items[position]? = some item ∧ item ∉ others ∧
        ∀ (earlier : Nat) (other : String), earlier < position →
          items[earlier]? = some other →
          other ∈ others := by
  constructor
  · intro first
    obtain ⟨before, after, rfl, present, absent⟩ := first
    refine ⟨before.length, by simp, absent, ?_⟩
    intro earlier other below found
    rw [List.getElem?_append_left below] at found
    exact present other (List.mem_of_getElem? found)
  · intro first
    obtain ⟨position, found, absent, earlier⟩ := first
    obtain ⟨below, rfl⟩ := List.getElem?_eq_some_iff.mp found
    refine ⟨items.take position, items.drop (position + 1), ?_, ?_, absent⟩
    · rw [← List.drop_eq_getElem_cons below, List.take_append_drop]
    · intro other member
      obtain ⟨index, inside, rfl⟩ := List.mem_take_iff_getElem.mp member
      exact earlier index _ (Nat.lt_of_lt_of_le inside (Nat.min_le_left _ _))
        (List.getElem?_eq_getElem _)

namespace Row

variable {row : Row} {index : Nat} {columns : List String}

theorem requireAll_cons (column : String) :
    row.requireAll index (column :: columns) =
      match row.get? column with
      | some _ => row.requireAll index columns
      | none => .error (.missingColumn index column) := by
  unfold requireAll missing?
  cases found : row.get? column with
  | some value => rw [List.find?_cons_of_neg (by simp [← isSome_get?, found])]
  | none => rw [List.find?_cons_of_pos (by simp [← isSome_get?, found])]

def AgreesOn (columns : List String) (row other : Row) : Prop :=
  ∀ column ∈ columns, row.get? column = other.get? column

end Row

namespace UpdatePlan

variable {rows : Batch} {identifierColumn : String}
    {updateColumns : List String}

/-- A column that is there is not added again. -/
def addColumn (columns : List ColumnCases) (column : String) :
    List ColumnCases :=
  if columns.any (·.column == column) then columns
  else columns ++ [⟨column, []⟩]

def gatherCase (row : Row) (index : Nat) (identifier : Value)
    (column : ColumnCases) :
    Except ValidationError ColumnCases :=
  match row.get? column.column with
  | some value =>
      .ok { column with cases := column.cases ++ [(identifier, value)] }
  | none => .error (.missingColumn index column.column)

def gatherRow (identifierColumn : String) (plan : UpdatePlan)
    (row : Row × Nat) :
    Except ValidationError UpdatePlan :=
  match row.1.get? identifierColumn with
  | some identifier => do
      let columns ← plan.columns.mapM (gatherCase row.1 row.2 identifier)
      return ⟨plan.identifiers ++ [identifier], columns⟩
  | none => .error (.missingColumn row.2 identifierColumn)

def gather (rows : Batch) (identifierColumn : String)
    (updateColumns : List String) :
    Except ValidationError UpdatePlan := do
  if rows.isEmpty then throw .emptyRows
  if updateColumns.isEmpty then throw .emptyUpdateColumns
  rows.zipIdx.foldlM (gatherRow identifierColumn)
    ⟨[], updateColumns.foldl addColumn []⟩

theorem foldl_addColumn (updateColumns : List String) :
    updateColumns.foldl addColumn
      [] = updateColumns.eraseDups.map (⟨·, []⟩) := by
  induction updateColumns using List.reverseRecOn with
  | nil => rfl
  | append_singleton columns column ih =>
      have present :
          ((columns.eraseDups.map fun column =>
            (⟨column, []⟩ : ColumnCases)).any
          (·.column == column)) = true ↔ column ∈ columns := by
        simp
      rw [List.foldl_append, ih, List.foldl_cons, List.foldl_nil, addColumn,
        eraseDups_append_singleton]
      by_cases member : column ∈ columns
      · rw [if_pos (present.mpr member), if_pos member]
      · rw [if_neg (mt present.mp member), if_neg member, List.map_append]
        rfl

theorem mapM_gatherCase (row : Row) (index : Nat) (identifier : Value)
    (columns : List ColumnCases) :
    columns.mapM (gatherCase row index identifier) = (do
      row.requireAll index (columns.map (·.column))
      return columns.map fun column =>
        { column with cases := column.cases ++
            [(identifier, row.valueOf column.column)] }) := by
  induction columns with
  | nil => rfl
  | cons column columns ih =>
      rw [List.mapM_cons, List.map_cons, Row.requireAll_cons, gatherCase, ih]
      cases found : row.get? column.column with
      | none => rfl
      | some value =>
          rw [List.map_cons, Row.valueOf_of_get? found]
          cases row.requireAll index (columns.map (·.column)) with
          | error error => rfl
          | ok _ => rfl

/-- The plan of the rows for columns that are distinct already. -/
def tabulate (rows : Batch) (identifierColumn : String)
    (columns : List String) : UpdatePlan where
  identifiers := rows.map (·.valueOf identifierColumn)
  columns := columns.map fun column =>
    ⟨column, cases rows identifierColumn column⟩

/-- What has been gathered is the plan of the rows so far. -/
theorem gatherRow_tabulate (done : Batch) (identifierColumn : String)
    (columns : List String) (row : Row) (index : Nat) :
    gatherRow identifierColumn (tabulate done identifierColumn columns)
      (row, index) = (do
      row.requireAll index (identifierColumn :: columns)
      return tabulate (done ++ [row]) identifierColumn columns) := by
  have names : (tabulate done identifierColumn columns).columns.map (·.column) =
      columns := by
    rw [tabulate, List.map_map]
    exact List.map_id columns
  rw [Row.requireAll_cons]
  unfold gatherRow
  cases found : row.get? identifierColumn with
  | none => rfl
  | some identifier =>
      simp only [mapM_gatherCase, names]
      cases row.requireAll index columns with
      | error error => rfl
      | ok _ =>
          have grown : tabulate (done ++ [row]) identifierColumn columns =
              ⟨(tabulate done identifierColumn columns).identifiers ++
                [identifier],
                (tabulate done identifierColumn columns).columns.map
                    fun column =>
                  { column with
                    cases := column.cases ++
                        [(identifier, row.valueOf column.column)] }⟩ := by
            simp [tabulate, cases, Row.valueOf_of_get? found]
          exact congrArg Except.ok grown.symm

theorem foldlM_gatherRow (rows done : Batch) (identifierColumn : String)
    (columns : List String) (index : Nat) :
    (rows.zipIdx index).foldlM (gatherRow identifierColumn)
        (tabulate done identifierColumn columns) = (do
      (rows.zipIdx index).forM fun row =>
        row.1.requireAll row.2 (identifierColumn :: columns)
      return tabulate (done ++ rows) identifierColumn columns) := by
  -- The plan of the rows done is the invariant; a row passes from the rows to
  -- come to those done.
  induction rows generalizing done index with
  | nil =>
      rw [List.append_nil]
      rfl
  | cons row rows ih =>
      rw [List.zipIdx_cons, List.foldlM_cons, gatherRow_tabulate,
        List.forM_eq_forM, List.forM_cons]
      cases row.requireAll index (identifierColumn :: columns) with
      | error error => rfl
      | ok _ =>
          have rest := ih (done ++ [row]) (index + 1)
          rw [List.append_assoc] at rest
          exact rest

theorem gather_eq (rows : Batch) (identifierColumn : String)
    (updateColumns : List String) :
    gather rows identifierColumn updateColumns =
      ofRows rows identifierColumn updateColumns := by
  have start : (⟨[], updateColumns.eraseDups.map (⟨·, []⟩)⟩ : UpdatePlan) =
      tabulate [] identifierColumn updateColumns.eraseDups := rfl
  have gathered :=
    foldlM_gatherRow rows [] identifierColumn updateColumns.eraseDups 0
  unfold gather ofRows
  rw [foldl_addColumn, start, gathered]
  rfl

/-- The row at the index lacks the column at the position. -/
def Gap (rows : Batch) (columns : List String) (index position : Nat)
    (column : String) : Prop :=
  ∃ row, rows[index]? = some row ∧ columns[position]? = some column ∧
    column ∉ row.columns

/-- No gap is in an earlier row, and none in the same row at an earlier
position. -/
structure FirstGap (rows : Batch) (columns : List String) (index position : Nat)
    (column : String) : Prop where
  gap : Gap rows columns index position column
  first : ∀ otherIndex otherPosition other,
    Gap rows columns otherIndex otherPosition other →
    index < otherIndex ∨ index = otherIndex ∧ position ≤ otherPosition

inductive Fault (rows : Batch) (identifierColumn : String)
    (updateColumns : List String) :
    ValidationError → Prop
  | emptyRows (empty : rows = []) :
      Fault rows identifierColumn updateColumns .emptyRows
  | emptyUpdateColumns (rowsLeft : rows ≠ []) (empty : updateColumns = []) :
      Fault rows identifierColumn updateColumns .emptyUpdateColumns
  | missingColumn {index position : Nat} {column : String}
      (rowsLeft : rows ≠ [])
      (columnsLeft : updateColumns ≠ [])
      (first : FirstGap rows (required identifierColumn updateColumns) index
        position column) :
      Fault rows identifierColumn updateColumns (.missingColumn index column)

/-- The plan has the identifiers of the rows, and for each column in order a
case for each row. -/
structure Tabulates (plan : UpdatePlan) (rows : Batch)
    (identifierColumn : String) (columns : List String) : Prop where
  columns : plan.columns.map (·.column) = columns
  length_identifiers : plan.identifiers.length = rows.length
  length_cases : ∀ column ∈ plan.columns, column.cases.length = rows.length
  identifier : ∀ (index : Nat) (row : Row), rows[index]? = some row →
    ∃ identifier, row.get? identifierColumn = some identifier ∧
      plan.identifiers[index]? = some identifier
  case : ∀ column ∈ plan.columns, ∀ (index : Nat) (row : Row),
    rows[index]? = some row →
    ∃ identifier value, row.get? identifierColumn = some identifier ∧
      row.get? column.column = some value ∧
        column.cases[index]? = some (identifier, value)

theorem has_iff_no_gap {columns : List String} :
    (∀ row ∈ rows, row.Has columns) ↔
      ∀ index position column, ¬ Gap rows columns index position column := by
  constructor
  · intro has index position column gap
    obtain ⟨row, atRow, atColumn, absent⟩ := gap
    exact absent (Row.has_iff.mp (has row (List.mem_of_getElem? atRow)) column
      (List.mem_of_getElem? atColumn))
  · intro noGap row rowMember
    refine Row.has_iff.mpr fun column columnMember => ?_
    obtain ⟨index, atRow⟩ := List.getElem?_of_mem rowMember
    obtain ⟨position, atColumn⟩ := List.getElem?_of_mem columnMember
    by_contra absent
    exact noGap index position column ⟨row, atRow, atColumn, absent⟩

theorem checkRows_eq_error_iff_firstGap {columns : List String}
    {error : ValidationError} :
    rows.checkRows (fun row index => row.requireAll index columns) =
      .error error ↔
      ∃ index position column, FirstGap rows columns index position column ∧
        .missingColumn index column = error := by
  rw [Batch.checkRows_eq_error]
  simp only [Row.requireAll_eq_error, Row.requireAll_eq_ok,
    FirstOutside.iff_getElem?]
  constructor
  · intro failed
    obtain ⟨index, row, atRow, ⟨column, ⟨position, atColumn, absent, before⟩,
        same⟩, passed⟩ :=
      failed
    refine ⟨index, position, column, ⟨⟨row, atRow, atColumn, absent⟩, ?_⟩, same⟩
    intro otherIndex otherPosition other gap
    obtain ⟨otherRow, atOtherRow, atOther, otherAbsent⟩ := gap
    -- A later row comes behind, this row has its first gap here, an earlier one
    -- has none.
    rcases Nat.lt_trichotomy index otherIndex with less | equal | greater
    · exact Or.inl less
    · subst equal
      refine Or.inr ⟨rfl, Nat.le_of_not_lt fun less => otherAbsent ?_⟩
      rw [atRow, Option.some_inj] at atOtherRow
      exact atOtherRow ▸ before otherPosition other less atOther
    · have has := Row.has_iff.mp (passed otherIndex otherRow greater atOtherRow)
      exact absurd (has other (List.mem_of_getElem? atOther)) otherAbsent
  · intro failed
    obtain ⟨index, position, column, ⟨⟨row, atRow, atColumn, absent⟩, first⟩,
      same⟩ := failed
    refine ⟨index, row, atRow, ⟨column, ⟨position, atColumn, absent, ?_⟩, same⟩,
      ?_⟩
    · intro earlier other below atEarlier
      by_contra otherAbsent
      have later :=
        first index earlier other ⟨row, atRow, atEarlier, otherAbsent⟩
      omega
    · intro earlier other below atEarlier
      refine Row.has_iff.mpr fun otherColumn member => ?_
      obtain ⟨otherPosition, atOther⟩ := List.getElem?_of_mem member
      by_contra otherAbsent
      have later := first earlier otherPosition otherColumn
        ⟨other, atEarlier, atOther, otherAbsent⟩
      omega

theorem ofRows_eq_error_iff_fault {error : ValidationError} :
    ofRows rows identifierColumn updateColumns = .error error ↔
      Fault rows identifierColumn updateColumns error := by
  rw [ofRows_eq_error, checkRows_eq_error_iff_firstGap]
  constructor
  · intro failed
    obtain ⟨empty, rfl⟩ | ⟨rowsLeft, ⟨empty, rfl⟩ |
      ⟨columnsLeft, index, position, column, first, rfl⟩⟩ := failed
    · exact Fault.emptyRows empty
    · exact Fault.emptyUpdateColumns rowsLeft empty
    · exact Fault.missingColumn rowsLeft columnsLeft first
  · intro fault
    cases fault with
    | emptyRows empty => exact Or.inl ⟨empty, rfl⟩
    | emptyUpdateColumns rowsLeft empty =>
        exact Or.inr ⟨rowsLeft, Or.inl ⟨empty, rfl⟩⟩
    | missingColumn rowsLeft columnsLeft first =>
        exact Or.inr ⟨rowsLeft, Or.inr ⟨columnsLeft, _, _, _, first, rfl⟩⟩

theorem tabulates_plan
    (complete : Complete rows identifierColumn updateColumns) :
    (plan rows identifierColumn updateColumns).Tabulates rows identifierColumn
      updateColumns.eraseDups := by
  have held (row : Row) (member : row ∈ rows) (column : String)
      (asked : column ∈ required identifierColumn updateColumns) :
      row.get? column = some (row.valueOf column) :=
    Row.get?_of_contains (complete.has row member column asked)
  refine ⟨?_, List.length_map _, ?_, ?_, ?_⟩
  · rw [plan, List.map_map]
    exact List.map_id _
  · intro column member
    obtain ⟨name, -, rfl⟩ := List.mem_map.mp member
    exact List.length_map _
  · intro index row atRow
    refine ⟨_, held row (List.mem_of_getElem? atRow) _ List.mem_cons_self, ?_⟩
    rw [plan, List.getElem?_map, atRow]
    rfl
  · intro column member index row atRow
    obtain ⟨name, asked, rfl⟩ := List.mem_map.mp member
    have rowMember := List.mem_of_getElem? atRow
    refine ⟨_, _, held row rowMember _ List.mem_cons_self,
      held row rowMember name (List.mem_cons_of_mem _ asked), ?_⟩
    rw [cases, List.getElem?_map, atRow]
    rfl

/-! Rows that agree on the columns that are asked for. -/

section

variable {columns : List String} {others : Batch}

theorem requireAll_congr {row other : Row} (agrees : row.AgreesOn columns other)
    (index : Nat) :
    row.requireAll index columns = other.requireAll index columns := by
  induction columns with
  | nil => rfl
  | cons column columns ih =>
      rw [Row.requireAll_cons, Row.requireAll_cons,
        agrees column List.mem_cons_self,
        ih fun later member =>
          agrees later (List.mem_cons_of_mem column member)]

theorem checkRows_requireAll_congr
    (agree : List.Forall₂ (Row.AgreesOn columns) rows others) :
    rows.checkRows (fun row index => row.requireAll index columns) =
      others.checkRows (fun row index => row.requireAll index columns) := by
  suffices ∀ start,
      ((rows.zipIdx start).forM fun row => row.1.requireAll row.2 columns) =
      (others.zipIdx start).forM fun row =>
        row.1.requireAll row.2 columns from this 0
  induction agree with
  | nil => exact fun _ => rfl
  | cons first _ ih =>
      intro start
      simp only [List.forM_eq_forM] at ih
      simp only [List.zipIdx_cons, List.forM_eq_forM, List.forM_cons,
        requireAll_congr first, ih (start + 1)]

theorem map_congr_of_agree {α : Type} {read : Row → α}
    (agree : List.Forall₂ (Row.AgreesOn columns) rows others)
    (reads : ∀ row other, Row.AgreesOn columns row other →
      read row = read other) :
    rows.map read = others.map read := by
  rw [← List.forall₂_eq_eq_eq, List.forall₂_map_left_iff,
    List.forall₂_map_right_iff]
  exact agree.imp reads

theorem ofRows_congr (agree : List.Forall₂
    (Row.AgreesOn (required identifierColumn updateColumns)) rows others) :
    ofRows rows identifierColumn updateColumns =
      ofRows others identifierColumn updateColumns := by
  have value (column : String)
      (asked : column ∈ required identifierColumn updateColumns)
      (row other : Row)
      (agrees : row.AgreesOn (required identifierColumn updateColumns) other) :
      row.valueOf column = other.valueOf column := by
    rw [Row.valueOf, agrees column asked, Row.valueOf]
  have identifier := value identifierColumn List.mem_cons_self
  have empty : rows.isEmpty = others.isEmpty := by
    cases agree with
    | nil => rfl
    | cons _ _ => rfl
  have identifiers := map_congr_of_agree agree identifier
  have columns : updateColumns.eraseDups.map
        (fun column =>
          (⟨column, cases rows identifierColumn column⟩ : ColumnCases)) =
      updateColumns.eraseDups.map fun column =>
        ⟨column, cases others identifierColumn column⟩ := by
    refine List.map_congr_left fun column member => ?_
    have pairs : cases rows identifierColumn column =
        cases others identifierColumn column :=
      map_congr_of_agree agree fun row other agrees => congrArg₂ Prod.mk
        (identifier row other agrees)
        (value column (List.mem_cons_of_mem _ member) row other agrees)
    exact congrArg (ColumnCases.mk column) pairs
  unfold ofRows
  rw [empty, checkRows_requireAll_congr agree, identifiers, columns]

end

/-- The plan of a batch, the fault of one that has none, and the pass that finds
either. All else that the update of a batch is written from is fixed before its
rows are looked at. -/
theorem ofRows_names_first_gap (rows : Batch) (identifierColumn : String)
    (updateColumns : List String) :
    FirstSeen updateColumns updateColumns.eraseDups ∧
      (∀ error, ofRows rows identifierColumn updateColumns = .error error ↔
        Fault rows identifierColumn updateColumns error) ∧
      ((∃ plan, ofRows rows identifierColumn updateColumns = .ok plan) ↔
        rows ≠ [] ∧ updateColumns ≠ [] ∧ ∀ index position column,
          ¬ Gap rows (identifierColumn :: updateColumns.eraseDups) index
            position column) ∧
      (∀ plan, ofRows rows identifierColumn updateColumns = .ok plan →
        plan.Tabulates rows identifierColumn updateColumns.eraseDups) ∧
      (∀ others, List.Forall₂ (Row.AgreesOn (identifierColumn :: updateColumns))
        rows others →
        ofRows others identifierColumn updateColumns =
          ofRows rows identifierColumn updateColumns) ∧
      gather rows identifierColumn updateColumns =
        ofRows rows identifierColumn updateColumns ∧
      ∀ (statement : TableStatement) (types : ColumnTypes)
          (identifierType : Option ParamType),
        statement.operation =
            .bulkUpdate rows types identifierColumn identifierType
              updateColumns →
          statement.build =
            (ofRows rows identifierColumn updateColumns).map fun plan =>
              (Collected.update statement.quoter
                (Collected.addCases statement.quoter identifierColumn
                  identifierType types)
                statement.table plan.columns
                ⟨identifierColumn, plan.identifiers, identifierType⟩).toQuery
                  statement.reuseHint := by
  refine ⟨firstSeen_eraseDups updateColumns, fun _ => ofRows_eq_error_iff_fault,
    ?_, ?_, ?_, gather_eq rows identifierColumn updateColumns, ?_⟩
  · simp only [ofRows_eq_ok, exists_and_left, exists_eq, and_true]
    constructor
    · intro complete
      exact ⟨complete.rows_ne_nil, complete.columns_ne_nil,
        has_iff_no_gap.mp complete.has⟩
    · intro whole
      exact ⟨whole.1, whole.2.1, has_iff_no_gap.mpr whole.2.2⟩
  · intro plan compiled
    obtain ⟨complete, rfl⟩ := ofRows_eq_ok.mp compiled
    exact tabulates_plan complete
  · intro others agree
    refine (ofRows_congr (agree.imp ?_)).symm
    intro row other agrees column asked
    refine agrees column ?_
    simpa [required] using asked
  · exact fun statement _ _ operation => statement.build_bulkUpdate operation

end UpdatePlan

end BulkWrite
