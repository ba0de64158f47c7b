import BulkWrite.Proofs.Correspondence

/-!
Inserts of one batch. Ignoring conflicts changes the keywords and nothing else;
overwriting adds a clause behind the text, checks its columns in front of the
rows and against them after, and has the last word only where the plain insert
has nothing to say.
-/

namespace BulkWrite

namespace Query

def extend (query : Query) (text : String) : Query :=
  { query with sql := query.sql ++ text }

end Query

namespace Template

/-- A template that binds nothing only adds to the text. -/
theorem toQuery_append (first : Template) {second : Template}
    (unbound : second.bindings = []) (quoter : Quoter) (hint : ReuseHint) :
    (first ++ second).toQuery quoter hint =
      (first.toQuery quoter hint).extend (second.sql quoter) := by
  have bindings : (first ++ second).bindings = first.bindings := by
    rw [bindings_append, unbound, List.append_nil]
  have text : (first ++ second).sql quoter =
      first.sql quoter ++ second.sql quoter := by
    rw [← String.toList_inj, String.toList_append, toList_sql, toList_sql,
      toList_sql, chars_append]
  rw [toQuery, text, params, types, bindings]
  rfl

theorem toQuery_text_cons (s : String) (rest : Template) (quoter : Quoter)
    (hint : ReuseHint) :
    toQuery (.text s :: rest) quoter hint =
      { rest.toQuery quoter hint with sql := s ++ rest.sql quoter } := by
  have text : sql quoter (.text s :: rest) = s ++ rest.sql quoter := by
    rw [← String.toList_inj, toList_sql, chars_text_cons, String.toList_append,
      toList_sql]
  rw [toQuery, text]
  rfl

end Template

def overwriteText (quoter : Quoter) (column : String) : String :=
  quoter.quote column ++ " = VALUES(" ++ quoter.quote column ++ ")"

/-- An assignment for each of the columns, in order and with repetitions. -/
def conflictClause (quoter : Quoter) (columns : List String) : String :=
  " ON DUPLICATE KEY UPDATE " ++ ", ".intercalate
    (columns.map (overwriteText quoter))

theorem chars_conflictAssignment (quoter : Quoter) (column : String) :
    (Operation.conflictAssignment column).chars quoter =
      (overwriteText quoter column).toList := by
  have nothing : Template.chars quoter [] = [] := rfl
  simp only [Operation.conflictAssignment, overwriteText,
    Template.chars_name_cons, Template.chars_text_cons, String.toList_append,
    Quoter.toList_quote, List.append_assoc, nothing, List.append_nil]

theorem sql_conflictTemplate (quoter : Quoter) (columns : List String) :
    (Operation.conflictTemplate columns).sql quoter =
      conflictClause quoter columns := by
  have each : (columns.map Operation.conflictAssignment).map
      (Template.chars quoter) =
      (columns.map (overwriteText quoter)).map String.toList := by
    rw [List.map_map, List.map_map]
    exact List.map_congr_left fun column _ =>
      chars_conflictAssignment quoter column
  have listed : (", ".intercalate (columns.map (overwriteText quoter))).toList =
      [',', ' '].intercalate
          ((columns.map (overwriteText quoter)).map String.toList) :=
    String.toList_intercalate
  -- A rewrite would try the keywords, which are text too, against the list.
  have clause : (conflictClause quoter columns).toList =
      " ON DUPLICATE KEY UPDATE ".toList ++
      [',', ' '].intercalate
          ((columns.map (overwriteText quoter)).map String.toList) :=
    String.toList_append.trans
      (congrArg (" ON DUPLICATE KEY UPDATE ".toList ++ ·) listed)
  rw [← String.toList_inj, Template.toList_sql, Operation.conflictTemplate,
    Template.chars_text_cons, Template.chars_commaSeparated, each, clause]

/-- What overwriting comes to, by what the plain insert of the rows comes to. -/
inductive Overwritten (quoter : Quoter) (columns updateColumns : List String)
    (inserted : Except ValidationError Query) :
    Except ValidationError Query → Prop
  | nothing (empty : updateColumns = []) :
      Overwritten quoter columns updateColumns inserted
        (.error .emptyUpdateColumns)
  | rejected {error : ValidationError} (nonempty : updateColumns ≠ [])
      (failed : inserted = .error error) :
      Overwritten quoter columns updateColumns inserted (.error error)
  | unknown {query : Query} (nonempty : updateColumns ≠ [])
      (built : inserted = .ok query)
      (outside : ∃ column ∈ updateColumns, column ∉ columns) :
      Overwritten quoter columns updateColumns inserted
        (.error (.unknownUpdateColumns (updateColumns.filter (· ∉ columns))))
  | built {query : Query} (nonempty : updateColumns ≠ [])
      (built : inserted = .ok query)
      (known : ∀ column ∈ updateColumns, column ∈ columns) :
      Overwritten quoter columns updateColumns inserted
        (.ok (query.extend (conflictClause quoter updateColumns)))

namespace TableStatement

open Operation

variable {table : String} {rows : Batch} {types : ColumnTypes}
    {updateColumns : List String}
  {quoter : Quoter} {hint : ReuseHint} {idempotent : Bool}

theorem build_insert_eq_ok {query : Query} :
    build ⟨table, .insert rows types, quoter, hint, idempotent⟩ = .ok query ↔
      rows.Uniform ∧
        query =
          (insertTemplate "INSERT INTO " table (rows.rowValues types)).toQuery
            quoter hint :=
  build_eq_ok

theorem build_insert_eq_error {error : ValidationError} :
    build ⟨table, .insert rows types, quoter, hint, idempotent⟩ = .error error ↔
      rows.values types = .error error :=
  build_eq_error

theorem build_upsert_eq_error {error : ValidationError} :
    build ⟨table, .upsert rows types updateColumns, quoter, hint, idempotent⟩ =
      .error error ↔
      updateColumns = [] ∧ .emptyUpdateColumns = error ∨
        updateColumns ≠ [] ∧ (rows.values types = .error error ∨
          rows.Uniform ∧ (∃ column ∈ updateColumns, column ∉ rows.headColumns) ∧
            .unknownUpdateColumns
                (updateColumns.filter (· ∉ rows.headColumns)) = error) := by
  have unknown : updateColumns.filter
      (fun column => !rows.headColumns.contains column) =
      updateColumns.filter (· ∉ rows.headColumns) :=
    List.filter_congr fun column _ => by simp
  rw [build_eq_error, Rejected, unknown]

theorem build_upsert_eq_ok {query : Query} :
    build ⟨table, .upsert rows types updateColumns, quoter, hint, idempotent⟩ =
      .ok query ↔
      (updateColumns ≠ [] ∧ rows.Uniform ∧
        ∀ column ∈ updateColumns, column ∈ rows.headColumns) ∧
        query =
          ((insertTemplate "INSERT INTO " table (rows.rowValues types)).toQuery
            quoter hint).extend (conflictClause quoter updateColumns) := by
  have whole := Template.toQuery_append
    (insertTemplate "INSERT INTO " table (rows.rowValues types))
    (bindings_conflictTemplate updateColumns) quoter hint
  rw [sql_conflictTemplate] at whole
  rw [build_eq_ok, ← whole]
  rfl

theorem build_upsert_eq_iff (insertFlag : Bool)
    (result : Except ValidationError Query) :
    build ⟨table, .upsert rows types updateColumns, quoter, hint, idempotent⟩ =
      result ↔
      Overwritten quoter rows.headColumns updateColumns
        (build ⟨table, .insert rows types, quoter, hint, insertFlag⟩)
          result := by
  cases result with
  | error error =>
      rw [build_upsert_eq_error]
      constructor
      · intro rejected
        obtain ⟨empty, rfl⟩ | ⟨nonempty, failed | ⟨uniform, outside, rfl⟩⟩ :=
          rejected
        · exact Overwritten.nothing empty
        · exact Overwritten.rejected nonempty (build_insert_eq_error.mpr failed)
        · exact Overwritten.unknown nonempty
            (build_insert_eq_ok.mpr ⟨uniform, rfl⟩) outside
      · intro overwritten
        cases overwritten with
        | nothing empty => exact Or.inl ⟨empty, rfl⟩
        | rejected nonempty failed =>
            exact Or.inr ⟨nonempty, Or.inl (build_insert_eq_error.mp failed)⟩
        | unknown nonempty built outside =>
            obtain ⟨uniform, -⟩ := build_insert_eq_ok.mp built
            exact Or.inr ⟨nonempty, Or.inr ⟨uniform, outside, rfl⟩⟩
  | ok query =>
      rw [build_upsert_eq_ok]
      constructor
      · intro overwritten
        obtain ⟨⟨nonempty, uniform, known⟩, rfl⟩ := overwritten
        exact Overwritten.built nonempty
          (build_insert_eq_ok.mpr ⟨uniform, rfl⟩) known
      · intro overwritten
        cases overwritten with
        | built nonempty built known =>
            obtain ⟨uniform, rfl⟩ := build_insert_eq_ok.mp built
            exact ⟨⟨nonempty, uniform, known⟩, rfl⟩

theorem build_insertIgnore_eq_error {error : ValidationError} :
    build ⟨table, .insertIgnore rows types, quoter, hint, idempotent⟩ =
      .error error ↔
      rows.values types = .error error :=
  build_eq_error

theorem build_insertIgnore_of_insert {query : Query} (insertFlag : Bool)
    (built : build ⟨table, .insert rows types, quoter, hint, insertFlag⟩ =
      .ok query) :
    ∃ rest, query.sql = "INSERT INTO " ++ rest ∧
      build ⟨table, .insertIgnore rows types, quoter, hint, idempotent⟩ =
        .ok { query with sql := "INSERT IGNORE INTO " ++ rest } := by
  obtain ⟨uniform, rfl⟩ := build_insert_eq_ok.mp built
  obtain ⟨rest, behind⟩ : ∃ rest : Template, ∀ keywords,
      insertTemplate keywords table (rows.rowValues types) =
          .text keywords :: rest :=
    ⟨_, fun _ => rfl⟩
  refine ⟨rest.sql quoter, ?_, build_eq_ok.mpr ⟨uniform, ?_⟩⟩
  · rw [behind, Template.toQuery_text_cons]
  · rw [Operation.template, behind, behind, Template.toQuery_text_cons,
      Template.toQuery_text_cons]

/-- Three inserts of the same rows. The plain one decides for all, except that
overwriting wants columns to overwrite. -/
theorem inserts_agree (table : String) (rows : Batch) (types : ColumnTypes)
    (updateColumns : List String) (quoter : Quoter) (hint : ReuseHint)
    (idempotent : Operation → Bool) :
    let build (operation : Operation) : Except ValidationError Query :=
      TableStatement.build ⟨table, operation, quoter, hint,
        idempotent operation⟩
    (∀ error, build (.insert rows types) = .error error ↔
        build (.insertIgnore rows types) = .error error) ∧
      (∀ query, build (.insert rows types) = .ok query →
        ∃ rest, query.sql = "INSERT INTO " ++ rest ∧
          build (.insertIgnore rows types) =
            .ok { query with sql := "INSERT IGNORE INTO " ++ rest }) ∧
        ∀ result, build (.upsert rows types updateColumns) = result ↔
          Overwritten quoter rows.headColumns updateColumns
              (build (.insert rows types)) result := by
  intro build
  refine ⟨?_, ?_, ?_⟩
  · intro error
    exact build_insert_eq_error.trans build_insertIgnore_eq_error.symm
  · intro query built
    exact build_insertIgnore_of_insert _ built
  · exact build_upsert_eq_iff _

/-- A row that lacks a column comes before a column that no row has. -/
example :
    build ⟨"t", .upsert [Row.ofList [("id", .int 1)], Row.empty] {} ["other"],
        default, .none, false⟩ =
      .error (.missingColumn 1 "id") := rfl

end TableStatement

end BulkWrite
