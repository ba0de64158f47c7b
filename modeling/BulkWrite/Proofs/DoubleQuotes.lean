import BulkWrite.Proofs.Backslashes

/-!
Statements in double quotes. The fixed text of a statement leads no scan astray,
and none back: whether the scan of a whole statement ends in code depends on the
names in it and on nothing else.
-/

namespace BulkWrite

open Query

namespace Template

open Quoter

/-- A scan that is lost stays so in every text of the template. -/
def Inert (template : Template) : Prop :=
  ∀ s, Piece.text s ∈ template → s.toList.all Mode.isInert = true

variable {template : Template} {quoter : Quoter} {mode : Mode}

theorem Inert.tail {piece : Piece} (inert : Inert (piece :: template)) :
    template.Inert :=
  fun s member => inert s (List.mem_cons_of_mem piece member)

theorem lost_text {text : List Char} (inert : text.all Mode.isInert = true)
    (lost : mode.Lost) :
    (text.foldl Mode.next mode).Lost := by
  induction text generalizing mode with
  | nil => exact lost
  | cons c text ih =>
      rw [List.all_cons, Bool.and_eq_true] at inert
      exact ih inert.2 (lost.next_inert inert.1)

theorem lost_chars (opens : Mode.opensQuote quoter.delimiter = true)
    (inert : template.Inert) (lost : mode.Lost) :
    ((template.chars quoter).foldl Mode.next mode).Lost := by
  induction template generalizing mode with
  | nil => exact lost
  | cons piece template ih =>
      rw [chars_cons, List.foldl_append]
      apply ih inert.tail
      cases piece with
      | text s => exact lost_text (inert s List.mem_cons_self) lost
      | name column => exact Quoter.lost_chars opens lost column
      | bind binding => exact lost.next_inert (by decide)

section

variable {names : List String} (opens : Mode.opensQuote quoter.delimiter = true)
  (escapes : quoter.delimiter ≠ '\x60')

include opens escapes

theorem run_name_of_paired {column : String}
    (paired : Paired quoter.delimiter column.toList) (found : Nat) :
    Scan.run ⟨.code, found⟩ (quoter.chars column) = ⟨.code, found⟩ := by
  rw [Quoter.chars, Scan.run_cons, Scan.step_opening opens]
  exact run_rest_of_paired opens escapes paired found

theorem lost_of_unpaired_name (within : Within names template)
    (inert : template.Inert) {column : String}
    (member : Piece.name column ∈ template)
    (unpaired : ¬ Paired quoter.delimiter column.toList) (found : Nat) :
    (Scan.run ⟨.code, found⟩ (template.chars quoter)).mode.Lost := by
  induction template generalizing found with
  | nil => exact absurd member List.not_mem_nil
  | cons piece template ih =>
      rw [chars_cons, Scan.run_append]
      cases piece with
      | text s =>
          rw [within_text_cons] at within
          rw [Piece.chars, Scan.run_plain within.1]
          exact ih within.2 inert.tail
            ((List.mem_cons.mp member).resolve_left (by simp)) found
      | bind binding =>
          rw [within_bind_cons] at within
          rw [Piece.chars, Scan.run_placeholder]
          exact ih within inert.tail
            ((List.mem_cons.mp member).resolve_left (by simp)) (found + 1)
      | name first =>
          rw [within_name_cons] at within
          by_cases paired : Paired quoter.delimiter first.toList
          · have other : Piece.name column ≠ Piece.name first := by
              rintro same
              rw [Piece.name.inj same] at unpaired
              exact unpaired paired
            rw [Piece.chars, run_name_of_paired opens escapes paired]
            exact ih within.2 inert.tail
              (List.mem_of_ne_of_mem other member) found
          · rw [Scan.mode_run]
            apply lost_chars opens inert.tail
            rw [Piece.chars, Quoter.chars, Scan.run_cons,
              Scan.step_opening opens]
            exact lost_of_not_paired opens escapes paired found

end

@[simp] theorem inert_nil : Inert [] :=
  fun _ member => absurd member List.not_mem_nil

@[simp] theorem inert_text_cons {s : String} {rest : Template} :
    Inert (.text s :: rest) ↔ s.toList.all Mode.isInert = true ∧
      Inert rest := by
  simp only [Inert, List.mem_cons, Piece.text.injEq, or_imp, forall_and,
    forall_eq]

@[simp] theorem inert_name_cons {column : String} {rest : Template} :
    Inert (.name column :: rest) ↔ Inert rest := by
  simp only [Inert, List.mem_cons, reduceCtorEq, false_or]

@[simp] theorem inert_bind_cons {binding : Binding} {rest : Template} :
    Inert (.bind binding :: rest) ↔ Inert rest := by
  simp only [Inert, List.mem_cons, reduceCtorEq, false_or]

@[simp] theorem inert_append {first second : Template} :
    Inert (first ++ second) ↔ Inert first ∧ Inert second := by
  simp only [Inert, List.mem_append, or_imp, forall_and]

@[simp] theorem inert_parenthesised {template : Template} :
    Inert (parenthesised template) ↔ Inert template := by
  have opening : "(".toList.all Mode.isInert = true := by decide
  have closing : ")".toList.all Mode.isInert = true := by decide
  simp only [parenthesised, List.cons_append, inert_text_cons, inert_append,
    inert_nil, opening, closing, true_and, and_true]

theorem inert_flatMap {α : Type} {items : List α} {each : α → Template}
    (inert : ∀ item ∈ items, (each item).Inert) :
    Inert (items.flatMap each) := by
  intro s member
  obtain ⟨item, present, inside⟩ := List.mem_flatMap.mp member
  exact inert item present s inside

theorem inert_commaSeparated {α : Type} {items : List α} {each : α → Template}
    (inert : ∀ item ∈ items, (each item).Inert) :
    Inert (commaSeparated (items.map each)) := by
  have comma : ", ".toList.all Mode.isInert = true := by decide
  cases items with
  | nil => exact inert_nil
  | cons first rest =>
      rw [List.map_cons, commaSeparated_cons, inert_append, List.flatMap_map]
      refine ⟨inert first List.mem_cons_self,
        inert_flatMap fun item present => ?_⟩
      rw [List.singleton_append, inert_text_cons]
      exact ⟨comma, inert item (List.mem_cons_of_mem first present)⟩

theorem inert_names (columns : List String) : Inert (names columns) :=
  inert_commaSeparated fun _ _ => inert_name_cons.mpr inert_nil

theorem inert_binds (bindings : List Binding) : Inert (binds bindings) :=
  inert_commaSeparated fun _ _ => inert_bind_cons.mpr inert_nil

end Template

theorem RowValues.inert_template (values : RowValues) :
    values.template.Inert := by
  apply Template.inert_commaSeparated
  intro row _
  rw [rowTemplate, Template.inert_parenthesised]
  exact Template.inert_binds row

theorem Selection.inert_template (selection : Selection) :
    selection.template.Inert := by
  simp only [template, Template.inert_name_cons, Template.inert_text_cons,
    Template.inert_parenthesised]
  exact ⟨by decide, Template.inert_binds selection.bindings⟩

namespace Operation

open Template

theorem inert_insertTemplate {keywords : String}
    (inert : keywords.toList.all Mode.isInert = true) (table : String)
    (values : RowValues) :
    Inert (insertTemplate keywords table values) := by
  simp only [insertTemplate, List.cons_append, inert_text_cons, inert_name_cons,
    inert_append, inert_parenthesised]
  exact ⟨inert, by decide, inert_names values.columns, by decide,
    values.inert_template⟩

theorem inert_updateTemplate {α : Type} {items : List α} {each : α → Template}
    (table : String) (selection : Selection)
    (inert : ∀ item ∈ items, (each item).Inert) :
    Inert (updateTemplate table (items.map each) selection) := by
  simp only [updateTemplate, List.cons_append, inert_text_cons, inert_name_cons,
    inert_append]
  exact ⟨by decide, by decide, inert_commaSeparated inert, by decide,
    selection.inert_template⟩

theorem inert_limitTemplate {limit : Int64} (positive : 0 < limit.toInt) :
    Inert (limitTemplate limit) := by
  have keyword : " LIMIT ".toList.all Mode.isInert = true := by decide
  have digits : (Nat.toDigits 10 limit.toInt.toNat).all Mode.isInert =
      true := by
    rw [List.all_eq_true]
    intro c member
    have digit : c.isDigit = true :=
      Nat.isDigit_of_mem_toDigits (by decide) (by decide) member
    have special (other : Char) (noDigit : other.isDigit = false) :
        c ≠ other := by
      rintro rfl
      simp [digit] at noDigit
    simp [Mode.isInert, Mode.opensQuote, special]
  rw [limitTemplate, inert_text_cons, String.toList_append, List.all_append,
    toList_toString_of_nonneg (Int.le_of_lt positive), keyword, digits]
  exact ⟨rfl, inert_nil⟩

theorem inert_conflictTemplate (updateColumns : List String) :
    Inert (conflictTemplate updateColumns) := by
  rw [conflictTemplate, inert_text_cons]
  refine ⟨by decide, inert_commaSeparated fun column _ => ?_⟩
  simp only [conflictAssignment, inert_name_cons, inert_text_cons]
  exact ⟨by decide, by decide, inert_nil⟩

theorem inert_deleteTemplate (table : String) (selection : Selection) :
    Inert (deleteTemplate table selection) := by
  simp only [deleteTemplate, inert_text_cons, inert_name_cons]
  exact ⟨by decide, by decide, selection.inert_template⟩

theorem inert_assignment (types : ColumnTypes) (entry : Entry) :
    Inert (assignment types entry) := by
  simp only [assignment, inert_name_cons, inert_text_cons, inert_bind_cons]
  exact ⟨by decide, inert_nil⟩

theorem inert_casesTemplate (identifierColumn : String)
    (identifierType : Option ParamType) (types : ColumnTypes)
    (column : ColumnCases) :
    Inert (casesTemplate identifierColumn identifierType types column) := by
  simp only [casesTemplate, List.cons_append, inert_name_cons, inert_text_cons,
    inert_append]
  refine ⟨by decide, inert_flatMap fun pair _ => ?_, by decide, by decide,
    inert_nil⟩
  simp only [caseTemplate, inert_name_cons, inert_text_cons, inert_bind_cons]
  exact ⟨by decide, by decide, by decide, inert_nil⟩

theorem inert_template {operation : Operation} (valid : operation.Valid)
    (table : String) :
    (operation.template table).Inert := by
  cases operation with
  | insert rows types => exact inert_insertTemplate (by decide) table _
  | insertIgnore rows types => exact inert_insertTemplate (by decide) table _
  | upsert rows types updateColumns =>
      rw [template, inert_append]
      exact ⟨inert_insertTemplate (by decide) table _,
        inert_conflictTemplate updateColumns⟩
  | deleteByIds selection => exact inert_deleteTemplate table selection
  | deleteByIdsWithLimit selection limit =>
      rw [template, inert_append]
      exact ⟨inert_deleteTemplate table selection, inert_limitTemplate valid.2⟩
  | updateByIds selection values types =>
      exact inert_updateTemplate table selection fun entry _ =>
        inert_assignment types entry
  | bulkUpdate rows types identifierColumn identifierType updateColumns =>
      exact inert_updateTemplate table _ fun column _ =>
        inert_casesTemplate identifierColumn identifierType types column

section

variable {table column : String}

theorem mem_commaSeparated {α : Type} {piece : Piece} {items : List α}
    {each : α → Template} {item : α} (present : item ∈ items)
    (member : piece ∈ each item) :
    piece ∈ commaSeparated (items.map each) := by
  cases items with
  | nil => exact absurd present List.not_mem_nil
  | cons first rest =>
      rw [List.map_cons, commaSeparated_cons, List.flatMap_map, List.mem_append]
      rcases List.mem_cons.mp present with rfl | later
      · exact Or.inl member
      · exact Or.inr (List.mem_flatMap_of_mem later
          (List.mem_cons_of_mem _ member))

theorem name_mem_insertTemplate {keywords : String} {values : RowValues}
    (member : column = table ∨ column ∈ values.columns) :
    Piece.name column ∈ insertTemplate keywords table values := by
  rcases member with rfl | member
  · simp [insertTemplate]
  · have inNames : Piece.name column ∈ Template.names values.columns :=
      mem_commaSeparated member List.mem_cons_self
    simp [insertTemplate, parenthesised, inNames]

theorem name_mem_deleteTemplate {selection : Selection}
    (member : column = table ∨ column = selection.column) :
    Piece.name column ∈ deleteTemplate table selection := by
  rcases member with rfl | rfl <;> simp [deleteTemplate, Selection.template]

theorem name_mem_updateTemplate {α : Type} {items : List α}
    {each : α → Template} {selection : Selection}
    (member : column = table ∨ column = selection.column ∨
      ∃ item ∈ items, Piece.name column ∈ each item) :
    Piece.name column ∈ updateTemplate table (items.map each) selection := by
  rcases member with rfl | rfl | ⟨item, present, inside⟩
  · simp [updateTemplate]
  · simp [updateTemplate, Selection.template]
  · simp [updateTemplate, mem_commaSeparated present inside]

/-- No name of an operation is left out of its template. -/
theorem name_mem_template {operation : Operation}
    (member : column ∈ table :: operation.names) :
    Piece.name column ∈ operation.template table := by
  rw [List.mem_cons] at member
  cases operation with
  | insert rows types => exact name_mem_insertTemplate member
  | insertIgnore rows types => exact name_mem_insertTemplate member
  | upsert rows types updateColumns =>
      rw [names, List.mem_append, ← or_assoc] at member
      rw [template, List.mem_append]
      refine member.imp name_mem_insertTemplate fun updated =>
        List.mem_cons_of_mem _ ?_
      exact mem_commaSeparated updated List.mem_cons_self
  | deleteByIds selection =>
      rw [names, List.mem_singleton] at member
      exact name_mem_deleteTemplate member
  | deleteByIdsWithLimit selection limit =>
      rw [names, List.mem_singleton] at member
      exact List.mem_append_left _ (name_mem_deleteTemplate member)
  | updateByIds selection values types =>
      rw [names, List.mem_cons, Row.columns, List.mem_map] at member
      apply name_mem_updateTemplate
      refine member.imp_right (Or.imp_right ?_)
      rintro ⟨entry, present, rfl⟩
      exact ⟨entry, present, List.mem_cons_self⟩
  | bulkUpdate rows types identifierColumn identifierType updateColumns =>
      rw [names, List.mem_cons] at member
      apply name_mem_updateTemplate
      refine member.imp_right (Or.imp_right fun updated => ?_)
      refine ⟨⟨column, _⟩, List.mem_map.mpr ⟨column, ?_, rfl⟩,
        List.mem_cons_self⟩
      exact List.mem_eraseDups.mpr updated

end

end Operation

/-- A scan that ends in code with the bindings counted finds the query
aligned. -/
theorem Template.aligned_toQuery {template : Template} {quoter : Quoter}
    (hint : ReuseHint)
    (scanned : Scan.run ⟨.code, 0⟩ (template.chars quoter) =
      ⟨.code, template.bindings.length⟩) :
    (template.toQuery quoter hint).placeholderCount =
        (template.toQuery quoter hint).params.length ∧
      (template.toQuery quoter hint).isAligned = true := by
  have counted : (template.toQuery quoter hint).placeholderCount =
      template.params.length := by
    rw [placeholderCount, countPlaceholders, toQuery, toList_sql, Scan.start,
      scanned, params, List.length_map]
  have below := TypeMap.allBelow_ofSlots (template.bindings.map (·.type))
  rw [List.length_map, ← List.length_map (·.value)] at below
  refine ⟨counted, ?_⟩
  rw [isAligned, counted]
  exact Bool.and_eq_true_iff.mpr ⟨beq_self_eq_true _, below⟩

namespace TableStatement

/-- With double quotes the scan of a built statement ends in code if and only if
every name has its backslashes paired, and then it finds one placeholder for
each parameter. -/
theorem doubleQuote_aligned_of_paired {statement : TableStatement}
    {query : Query} (double : statement.quoter = .doubleQuote)
    (built : statement.build = .ok query) :
    ((Scan.start.run query.sql.toList).mode = .code ↔
        ∀ name ∈ statement.names, Quoter.Paired '"' name.toList) ∧
      ((∀ name ∈ statement.names, Quoter.Paired '"' name.toList) →
        query.placeholderCount = query.params.length ∧
            query.isAligned = true) := by
  obtain ⟨valid, rfl⟩ := build_eq_ok.mp built
  rw [double]
  have opens : Mode.opensQuote Quoter.doubleQuote.delimiter = true := by decide
  have escapes : Quoter.doubleQuote.delimiter ≠ '\x60' := by decide
  have within : Template.Within statement.names
      (statement.operation.template statement.table) :=
    Operation.within_template valid
  have inert := Operation.inert_template valid statement.table
  have scanned (paired : ∀ name ∈ statement.names,
      Quoter.Paired '"' name.toList) :
      Scan.run ⟨.code, 0⟩
        ((statement.operation.template statement.table).chars .doubleQuote) =
        ⟨.code,
          (statement.operation.template statement.table).bindings.length⟩ := by
    have passed := Template.run_chars_of_passed within
      (fun name member => Template.run_name_of_paired opens escapes
        (paired name member)) 0
    rwa [Nat.zero_add] at passed
  refine ⟨⟨?_, fun paired => ?_⟩, fun paired => ?_⟩
  · intro ended name member
    by_contra unpaired
    have lost := Template.lost_of_unpaired_name opens escapes within inert
      (Operation.name_mem_template member) unpaired 0
    rw [Template.toQuery, Template.toList_sql] at ended
    exact lost.ne_code ended
  · rw [Template.toQuery, Template.toList_sql, Scan.start, scanned paired]
  · exact Template.aligned_toQuery statement.reuseHint (scanned paired)

/-- Backslashes in pairs, in front of a quotation mark and at the end of a
name. -/
theorem doubleQuote_aligned_of_paired_names :
    let statement : TableStatement :=
      { table := "C:\\\\\"t\\n\\\\"
        operation := .deleteByIds ⟨"id", [.int 1, .int 2], none⟩
        quoter := .doubleQuote }
    statement.quoter = .doubleQuote ∧
      (∀ name ∈ statement.names, Quoter.Paired '"' name.toList) ∧
        ∃ query, statement.build = .ok query ∧ query.params.length = 2 ∧
          (Scan.start.run query.sql.toList).mode = .code ∧
            query.placeholderCount = query.params.length ∧
                query.isAligned = true := by
  intro statement
  have paired : ∀ name ∈ statement.names, Quoter.Paired '"' name.toList := by
    decide
  have aligned {query : Query} (built : statement.build = .ok query) :=
    doubleQuote_aligned_of_paired rfl built
  exact ⟨rfl, paired, _, rfl, rfl, (aligned rfl).1.mpr paired,
    (aligned rfl).2 paired⟩

/-- A backslash at the end of a name escapes the delimiter behind it, and the
scan overlooks the placeholder. -/
theorem doubleQuote_overlooks_placeholder :
    let statement : TableStatement :=
      { table := "a\\"
        operation := .deleteByIds ⟨"id", [.int 1], none⟩
        quoter := .doubleQuote }
    ∃ query, statement.build = .ok query ∧ query.params.length = 1 ∧
      query.placeholderCount = 0 ∧ query.isAligned = false :=
  ⟨_, rfl, rfl, by decide, by decide⟩

end TableStatement

end BulkWrite
