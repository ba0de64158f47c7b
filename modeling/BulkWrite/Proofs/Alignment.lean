import BulkWrite.Proofs.Compilation

/-!
Alignment. A template consists of plain text, names and bindings. Scanning its
SQL text comes back to code after every piece and finds one placeholder for each
binding, provided that the scan agrees with the quoter on where a quoted name
ends.
-/

namespace BulkWrite

namespace Query

/-- A character of code that opens nothing and is no placeholder. -/
def isPlain (c : Char) : Bool := Mode.ofCode c == .code && c != '?'

def isPlainText (s : String) : Bool := s.toList.all isPlain

theorem isPlain_of_isDigit {c : Char} (digit : c.isDigit = true) :
    isPlain c = true := by
  have special : ∀ other : Char, other.isDigit = false → c ≠ other := by
    rintro other noDigit rfl
    simp [digit] at noDigit
  simp [isPlain, Mode.ofCode, Mode.opensQuote, special '\'' (by decide),
    special '"' (by decide), special '\x60' (by decide),
    special '-' (by decide), special '/' (by decide), special '#' (by decide),
    special '?' (by decide)]

namespace Scan

theorem run_plain {text : List Char} (plain : text.all isPlain = true)
    (found : Nat) :
    run ⟨.code, found⟩ text = ⟨.code, found⟩ := by
  induction text with
  | nil => rfl
  | cons c text ih =>
      simp only [List.all_cons, isPlain, Bool.and_eq_true, beq_iff_eq,
        bne_iff_ne] at plain
      have stays : step ⟨.code, found⟩ c = ⟨.code, found⟩ := by
        simp [step, Mode.next, plain.1.1, plain.1.2]
      rw [run_cons, stays]
      exact ih plain.2

theorem run_placeholder (found : Nat) :
    run ⟨.code, found⟩ ['?'] = ⟨.code, found + 1⟩ := rfl

theorem step_opening {delimiter : Char}
    (opens : Mode.opensQuote delimiter = true) (found : Nat) :
    step ⟨.code, found⟩ delimiter = ⟨.quoted delimiter, found⟩ := by
  have noPlaceholder : delimiter ≠ '?' := by
    rintro rfl
    exact absurd opens (by decide)
  simp [step, Mode.next, Mode.ofCode, opens, noPlaceholder]

theorem step_closing {delimiter : Char}
    (opens : Mode.opensQuote delimiter = true) (found : Nat) :
    step ⟨.quoted delimiter, found⟩ delimiter = ⟨.code, found⟩ := by
  have noEscape : delimiter ≠ '\\' := by
    rintro rfl
    exact absurd opens (by decide)
  simp [step, Mode.next, Mode.isCode, noEscape]

end Scan

end Query

namespace Quoter

open Query

/-- The scan takes the delimiter for a quote, and no backslash of the name for
an escape. -/
def Scannable (quoter : Quoter) (name : String) : Prop :=
  Mode.opensQuote quoter.delimiter = true ∧
    (quoter.delimiter = '\x60' ∨ '\\' ∉ name.toList)

theorem run_doubled {delimiter : Char}
    (opens : Mode.opensQuote delimiter = true) {name : List Char}
    (literal : delimiter = '\x60' ∨ '\\' ∉ name) (found : Nat) :
    Scan.run ⟨.quoted delimiter, found⟩ (doubled delimiter name) =
      ⟨.quoted delimiter, found⟩ := by
  induction name with
  | nil => rfl
  | cons c name ih =>
      have rest := ih (literal.imp_right fun absent member =>
        absent (List.mem_cons_of_mem c member))
      by_cases same : c = delimiter
      · -- a doubled delimiter leaves the quote and enters it again
        subst same
        rw [doubled_cons_self, Scan.run_cons, Scan.run_cons,
          Scan.step_closing opens, Scan.step_opening opens]
        exact rest
      · have inside : ¬ (c = '\\' ∧ delimiter ≠ '\x60') := by
          rintro ⟨rfl, notBacktick⟩
          exact (literal.resolve_left notBacktick) List.mem_cons_self
        have stays : Scan.step ⟨.quoted delimiter, found⟩ c =
            ⟨.quoted delimiter, found⟩ := by
          simp only [Scan.step, Mode.next, if_neg inside, if_neg same,
            Mode.isCode, Bool.false_and, Bool.false_eq_true, if_false]
        rw [doubled_cons_other name same, Scan.run_cons, stays]
        exact rest

/-- A quoted name is passed over, whatever stands in it. -/
theorem run_chars {quoter : Quoter} {name : String}
    (scannable : quoter.Scannable name) (found : Nat) :
    Scan.run ⟨.code, found⟩ (quoter.chars name) = ⟨.code, found⟩ := by
  rw [chars, Scan.run_cons, Scan.step_opening scannable.1, Scan.run_append,
    run_doubled scannable.1 scannable.2, Scan.run_cons,
    Scan.step_closing scannable.1, Scan.run_nil]

end Quoter

namespace Template

open Query

/-- Text is plain, and names are among the given ones. -/
def Within (names : List String) (template : Template) : Prop :=
  ∀ piece ∈ template, match piece with
    | .text s => isPlainText s = true
    | .name column => column ∈ names
    | .bind _ => True

section

variable {names : List String}

@[simp] theorem within_nil : Within names [] := by
  simp [Within]

@[simp] theorem within_text_cons {s : String} {rest : Template} :
    Within names (.text s :: rest) ↔ isPlainText s = true ∧
      Within names rest := by
  simp [Within]

@[simp] theorem within_name_cons {column : String} {rest : Template} :
    Within names (.name column :: rest) ↔
      column ∈ names ∧ Within names rest := by
  simp [Within]

@[simp] theorem within_bind_cons {binding : Binding} {rest : Template} :
    Within names (.bind binding :: rest) ↔ Within names rest := by
  simp [Within]

@[simp] theorem within_append {first second : Template} :
    Within names (first ++ second) ↔
      Within names first ∧ Within names second := by
  simp [Within, or_imp, forall_and]

@[simp] theorem within_flatMap {α : Type} {items : List α}
    {each : α → Template} :
    Within names (items.flatMap each) ↔
      ∀ item ∈ items, Within names (each item) := by
  simp only [Within, List.mem_flatMap]
  constructor
  · intro all item member piece inside
    exact all piece ⟨item, member, inside⟩
  · rintro all piece ⟨item, member, inside⟩
    exact all item member piece inside

@[simp] theorem within_parenthesised {template : Template} :
    Within names (parenthesised template) ↔ Within names template := by
  have opening : isPlainText "(" = true := by decide
  have closing : isPlainText ")" = true := by decide
  simp [parenthesised, opening, closing]

theorem within_commaSeparated {templates : List Template}
    (each : ∀ template ∈ templates, Within names template) :
    Within names (commaSeparated templates) := by
  have comma : isPlainText ", " = true := by decide
  cases templates with
  | nil => exact within_nil
  | cons first rest =>
      rw [commaSeparated_cons, within_append, within_flatMap]
      refine ⟨each first List.mem_cons_self, fun template member => ?_⟩
      simpa [comma] using each template (List.mem_cons_of_mem first member)

end

theorem chars_cons (quoter : Quoter) (piece : Piece) (template : Template) :
    chars quoter (piece :: template) =
      piece.chars quoter ++ chars quoter template :=
  List.flatMap_cons

theorem run_chars_of_passed {names : List String} {quoter : Quoter}
    {template : Template} (within : Within names template)
    (passed : ∀ name ∈ names, ∀ found,
      Scan.run ⟨.code, found⟩ (quoter.chars name) = ⟨.code, found⟩) (found :
        Nat) :
    Scan.run ⟨.code, found⟩ (template.chars quoter) =
      ⟨.code, found + template.bindings.length⟩ := by
  induction template generalizing found with
  | nil => rfl
  | cons piece template ih =>
      rw [chars_cons, Scan.run_append]
      cases piece with
      | text s =>
          rw [within_text_cons] at within
          rw [Piece.chars, Scan.run_plain within.1, ih within.2]
          rfl
      | name column =>
          rw [within_name_cons] at within
          rw [Piece.chars, passed column within.1, ih within.2]
          rfl
      | bind binding =>
          rw [within_bind_cons] at within
          rw [Piece.chars, Scan.run_placeholder, ih within]
          simp [bindings, Piece.binding?, Nat.add_comm, Nat.add_left_comm]

theorem run_chars {names : List String} {quoter : Quoter} {template : Template}
    (within : Within names template)
    (scannable : ∀ name ∈ names, quoter.Scannable name) (found : Nat) :
    Scan.run ⟨.code, found⟩ (template.chars quoter) =
      ⟨.code, found + template.bindings.length⟩ :=
  run_chars_of_passed within
    (fun name member => Quoter.run_chars (scannable name member)) found

theorem within_names {names columns : List String}
    (known : ∀ column ∈ columns, column ∈ names) :
    Within names (Template.names columns) := by
  apply within_commaSeparated
  intro template member
  obtain ⟨column, present, rfl⟩ := List.mem_map.mp member
  simpa using known column present

theorem within_binds {names : List String} (bindings : List Binding) :
    Within names (binds bindings) := by
  apply within_commaSeparated
  intro template member
  obtain ⟨binding, _, rfl⟩ := List.mem_map.mp member
  simp

end Template

namespace RowValues

theorem within_template {names : List String} (values : RowValues) :
    values.template.Within names := by
  apply Template.within_commaSeparated
  intro template member
  obtain ⟨row, _, rfl⟩ := List.mem_map.mp member
  rw [rowTemplate, Template.within_parenthesised]
  exact Template.within_binds row

end RowValues

namespace Selection

theorem within_template {names : List String} {selection : Selection}
    (known : selection.column ∈ names) : selection.template.Within names := by
  have keyword : Query.isPlainText " IN " = true := by decide
  simp only [template, Template.within_name_cons, Template.within_text_cons,
    Template.within_parenthesised]
  exact ⟨known, keyword, Template.within_binds selection.bindings⟩

end Selection

namespace Operation

open Template

def names : Operation → List String
  | .insert rows _ => rows.headColumns
  | .insertIgnore rows _ => rows.headColumns
  | .upsert rows _ updateColumns => rows.headColumns ++ updateColumns
  | .deleteByIds selection => [selection.column]
  | .deleteByIdsWithLimit selection _ => [selection.column]
  | .updateByIds selection values _ => selection.column :: values.columns
  | .bulkUpdate _ _ identifierColumn _ updateColumns =>
      identifierColumn :: updateColumns

section

variable {names : List String} {table : String} (tableKnown : table ∈ names)

include tableKnown

theorem within_insertTemplate {keywords : String} {values : RowValues}
    (plain : Query.isPlainText keywords = true)
    (known : ∀ column ∈ values.columns, column ∈ names) :
    Within names (insertTemplate keywords table values) := by
  have opening : Query.isPlainText " " = true := by decide
  have keyword : Query.isPlainText " VALUES " = true := by decide
  simp only [insertTemplate, within_text_cons, within_name_cons,
    List.cons_append, within_append, within_parenthesised]
  exact ⟨plain, tableKnown, opening, within_names known, keyword,
    values.within_template⟩

theorem within_deleteTemplate {selection : Selection}
    (known : selection.column ∈ names) :
    Within names (deleteTemplate table selection) := by
  have keywords : Query.isPlainText "DELETE FROM " = true := by decide
  have condition : Query.isPlainText " WHERE " = true := by decide
  simp only [deleteTemplate, within_text_cons, within_name_cons]
  exact ⟨keywords, tableKnown, condition, Selection.within_template known⟩

theorem within_updateTemplate {assignments : List Template}
    {selection : Selection}
    (each : ∀ assignment ∈ assignments, Within names assignment)
    (known : selection.column ∈ names) :
    Within names (updateTemplate table assignments selection) := by
  have keyword : Query.isPlainText "UPDATE " = true := by decide
  have set : Query.isPlainText " SET " = true := by decide
  have condition : Query.isPlainText " WHERE " = true := by decide
  simp only [updateTemplate, within_text_cons, within_name_cons,
    List.cons_append, within_append]
  exact ⟨keyword, tableKnown, set, within_commaSeparated each, condition,
    Selection.within_template known⟩

end

theorem within_conflictTemplate {names updateColumns : List String}
    (known : ∀ column ∈ updateColumns, column ∈ names) :
    Within names (conflictTemplate updateColumns) := by
  have keywords : Query.isPlainText " ON DUPLICATE KEY UPDATE " = true := by
    decide
  have assign : Query.isPlainText " = VALUES(" = true := by decide
  have close : Query.isPlainText ")" = true := by decide
  rw [conflictTemplate, within_text_cons]
  refine ⟨keywords, within_commaSeparated fun template member => ?_⟩
  obtain ⟨column, present, rfl⟩ := List.mem_map.mp member
  simp [conflictAssignment, known column present, assign, close]

theorem within_assignment {names : List String} {types : ColumnTypes}
    {entry : Entry} (known : entry.1 ∈ names) :
    Within names (assignment types entry) := by
  have assign : Query.isPlainText " = " = true := by decide
  simp [assignment, known, assign]

theorem within_casesTemplate {names : List String} {identifierColumn : String}
    {identifierType : Option ParamType} {types : ColumnTypes}
    {column : ColumnCases} (identifierKnown : identifierColumn ∈ names)
    (known : column.column ∈ names) :
    Within names (casesTemplate identifierColumn identifierType types
        column) := by
  have case : Query.isPlainText " = CASE" = true := by decide
  have condition : Query.isPlainText " WHEN " = true := by decide
  have compare : Query.isPlainText " = " = true := by decide
  have result : Query.isPlainText " THEN " = true := by decide
  have otherwise : Query.isPlainText " ELSE " = true := by decide
  have close : Query.isPlainText " END" = true := by decide
  simp [casesTemplate, caseTemplate, known, identifierKnown, case, condition,
    compare, result, otherwise, close]

theorem within_limitTemplate {names : List String} {limit : Int64}
    (positive : 0 < limit.toInt) :
    Within names (limitTemplate limit) := by
  have keyword : " LIMIT ".toList.all Query.isPlain = true := by decide
  have digits : (Nat.toDigits 10 limit.toInt.toNat).all Query.isPlain =
      true := by
    rw [List.all_eq_true]
    intro c member
    exact Query.isPlain_of_isDigit
      (Nat.isDigit_of_mem_toDigits (by decide) (by decide) member)
  rw [limitTemplate, within_text_cons, Query.isPlainText, String.toList_append,
    List.all_append, toList_toString_of_nonneg (Int.le_of_lt positive), keyword,
    digits]
  exact ⟨rfl, within_nil⟩

/-- The template of a valid operation names the table and the columns of the
operation only. -/
theorem within_template {table : String} {operation : Operation}
    (valid : operation.Valid) :
    Within (table :: operation.names) (operation.template table) := by
  have tableKnown : table ∈ table :: operation.names := List.mem_cons_self
  have insertKeywords : Query.isPlainText "INSERT INTO " = true := by decide
  have ignoreKeywords : Query.isPlainText "INSERT IGNORE INTO " = true := by
    decide
  cases operation with
  | insert rows types =>
      apply within_insertTemplate tableKnown insertKeywords
      intro column member
      exact List.mem_cons_of_mem table member
  | insertIgnore rows types =>
      apply within_insertTemplate tableKnown ignoreKeywords
      intro column member
      exact List.mem_cons_of_mem table member
  | upsert rows types updateColumns =>
      rw [template, within_append]
      constructor
      · apply within_insertTemplate tableKnown insertKeywords
        intro column member
        exact List.mem_cons_of_mem table
          (List.mem_append_left updateColumns member)
      · apply within_conflictTemplate
        intro column member
        exact List.mem_cons_of_mem table
          (List.mem_append_right rows.headColumns member)
  | deleteByIds selection =>
      exact within_deleteTemplate tableKnown (by simp [names])
  | deleteByIdsWithLimit selection limit =>
      rw [template, within_append]
      exact ⟨within_deleteTemplate tableKnown (by simp [names]),
        within_limitTemplate valid.2⟩
  | updateByIds selection values types =>
      apply within_updateTemplate tableKnown _ (by simp [names])
      intro assignment member
      obtain ⟨entry, present, rfl⟩ := List.mem_map.mp member
      have column : entry.1 ∈ values.columns := List.mem_map_of_mem present
      exact within_assignment (by simp [names, column])
  | bulkUpdate rows types identifierColumn identifierType updateColumns =>
      apply within_updateTemplate tableKnown _ (by simp [names])
      intro assignment member
      simp only [UpdatePlan.plan, List.map_map, List.mem_map,
        List.mem_eraseDups] at member
      obtain ⟨column, present, rfl⟩ := member
      exact within_casesTemplate (by simp [names]) (by simp [names, present])

end Operation

namespace TypeMap

theorem lt_of_mem_slotEntries {slots : List (Option ParamType)}
    {start key : Nat} (member : key ∈ (slotEntries slots start).map Prod.fst) :
    key < start + slots.length := by
  induction slots generalizing start with
  | nil => simp at member
  | cons slot slots ih =>
      cases slot with
      | none =>
          rw [slotEntries_none] at member
          have := ih member
          simp only [List.length_cons]
          omega
      | some type =>
          rw [slotEntries_some, List.map_cons, List.mem_cons] at member
          simp only [List.length_cons]
          rcases member with here | later
          · omega
          · have := ih later
            omega

theorem allBelow_ofSlots (slots : List (Option ParamType)) :
    (ofSlots slots 0).allBelow slots.length = true := by
  rw [allBelow, List.all_eq_true]
  intro entry member
  have below := lt_of_mem_slotEntries (List.mem_map_of_mem member)
  simpa using below

theorem lt_of_allBelow {types : TypeMap} {bound position : Nat}
    {type : ParamType} (below : types.allBelow bound = true)
    (found : types.get? position = some type) :
    position < bound := by
  obtain ⟨before, after, split, _⟩ := List.lookup_eq_some_iff.mp found
  have member : (position, type) ∈ types.entries := by
    rw [split]
    exact List.mem_append_right before List.mem_cons_self
  simpa using List.all_eq_true.mp below _ member

end TypeMap

namespace TableStatement

def names (statement : TableStatement) : List String :=
  statement.table :: statement.operation.names

/-- A built statement has one placeholder for each parameter and types only for
parameters that it has, if its quoter uses backticks, or another quote and no
name has a backslash in it. -/
theorem build_aligned {statement : TableStatement} {query : Query}
    (scannable : statement.quoter = .backtick ∨
      (statement.quoter.delimiter = '"' ∨ statement.quoter.delimiter = '\'') ∧
        ∀ name ∈ statement.names, '\\' ∉ name.toList)
    (built : statement.build = .ok query) :
    query.isAligned = true ∧
      query.placeholderCount = query.params.length ∧
        ∀ position type, query.typeAt? position = some type →
          position < query.params.length := by
  obtain ⟨valid, rfl⟩ := build_eq_ok.mp built
  have names : ∀ name ∈ statement.names, statement.quoter.Scannable name := by
    intro name member
    rcases scannable with backtick | ⟨quote, literal⟩
    · rw [backtick]
      exact ⟨by decide, Or.inl rfl⟩
    · refine ⟨?_, Or.inr (literal name member)⟩
      rcases quote with double | single
      · rw [double]
        decide
      · rw [single]
        decide
  have scanned := Template.run_chars (Operation.within_template valid) names 0
  have counted :
      ((statement.operation.template statement.table).toQuery statement.quoter
        statement.reuseHint).placeholderCount =
        (statement.operation.template statement.table).params.length := by
    simp [Query.placeholderCount, Query.countPlaceholders, Template.toQuery,
      Query.Scan.start, scanned, Template.params]
  have below : (statement.operation.template statement.table).types.allBelow
      (statement.operation.template statement.table).params.length = true := by
    have bounded := TypeMap.allBelow_ofSlots
      ((statement.operation.template statement.table).bindings.map (·.type))
    rw [List.length_map] at bounded
    rwa [Template.params, List.length_map]
  refine ⟨?_, counted, fun position type found =>
    TypeMap.lt_of_allBelow below found⟩
  rw [Query.isAligned, counted]
  simpa [Template.toQuery] using below

/-- Names that imitate quotes, placeholders and comments. -/
theorem build_aligned_hostile_names :
    let statement : TableStatement :=
      { table := "a\"? --"
        operation :=
          .bulkUpdate [Row.ofList [("/* id", .int 1), ("it's #", .null)]]
            {} "/* id"
          (some .integer) ["it's #"]
        quoter := .doubleQuote }
    (∀ name ∈ statement.names, '\\' ∉ name.toList) ∧
      ∃ query, statement.build = .ok query ∧ query.params.length = 3 ∧
        query.isAligned = true ∧
          query.placeholderCount = query.params.length ∧
            ∀ position type, query.typeAt? position = some type →
              position < query.params.length := by
  intro statement
  have literal : ∀ name ∈ statement.names, '\\' ∉ name.toList := by decide
  exact ⟨literal, _, rfl, rfl, build_aligned (Or.inr ⟨Or.inl rfl, literal⟩) rfl⟩

end TableStatement

end BulkWrite
