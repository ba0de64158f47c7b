import BulkWrite.Proofs.Inserting
import BulkWrite.Proofs.Positions

/-!
Changes of the rows that a list of identifiers selects. What a change sets is
bound first and the identifiers behind it; the list of identifiers is wanted
before anything else, and a limit is text.
-/

namespace BulkWrite

inductive Change where
  | delete
  | deleteWithLimit (limit : Int64)
  | update (values : Row) (types : ColumnTypes)

namespace Change

def operation (selection : Selection) : Change → Operation
  | .delete => .deleteByIds selection
  | .deleteWithLimit limit => .deleteByIdsWithLimit selection limit
  | .update values types => .updateByIds selection values types

def entries : Change → List Entry
  | .delete => []
  | .deleteWithLimit _ => []
  | .update values _ => values.entries

def types : Change → ColumnTypes
  | .delete => {}
  | .deleteWithLimit _ => {}
  | .update _ types => types

/-- What is wrong with a change, whatever rows are selected. -/
inductive Defect : Change → ValidationError → Prop
  | emptyColumnValues {values : Row} {types : ColumnTypes}
      (empty : values.entries = []) :
      Defect (.update values types) .emptyColumnValues
  | invalidLimit {limit : Int64} (low : limit.toInt ≤ 0) :
      Defect (.deleteWithLimit limit) (.invalidLimit limit)

def write (quoter : Quoter) (table : String) (selection : Selection) :
    Change → Collected
  | .delete => .delete quoter table selection
  | .deleteWithLimit limit => .deleteWithLimit quoter table selection limit
  | .update values types =>
      .update quoter (Collected.addEntry quoter types) table
        values.entries selection

variable (change : Change) (selection : Selection) (table : String)

theorem rejected_operation_iff {error : ValidationError} :
    (change.operation selection).Rejected error ↔
      selection.identifiers = [] ∧ .emptyIdentifiers = error ∨
        selection.identifiers ≠ [] ∧ change.Defect error := by
  cases change with
  | delete =>
      refine ⟨Or.inl, fun rejected => rejected.resolve_right fun defect => ?_⟩
      cases defect.2
  | deleteWithLimit limit =>
      refine or_congr_right
        (and_congr_right fun _ => ⟨fun rejected => ?_, fun defect => ?_⟩)
      · obtain ⟨low, rfl⟩ := rejected
        exact Defect.invalidLimit low
      · cases defect with
        | invalidLimit low => exact ⟨low, rfl⟩
  | update values types =>
      refine or_congr_right
        (and_congr_right fun _ => ⟨fun rejected => ?_, fun defect => ?_⟩)
      · obtain ⟨empty, rfl⟩ := rejected
        exact Defect.emptyColumnValues empty
      · cases defect with
        | emptyColumnValues empty => exact ⟨empty, rfl⟩

theorem bindings_template :
    ((change.operation selection).template table).bindings =
      change.entries.map (fun entry => ⟨entry.2, change.types.get? entry.1⟩) ++
        selection.bindings := by
  rw [Operation.bindings_template]
  cases change with
  | delete => rfl
  | deleteWithLimit limit => rfl
  | update values types =>
      refine congrArg (· ++ selection.bindings) ?_
      rw [List.flatMap_map]
      exact List.flatMap_pure_eq_map _ _

theorem write_eq_write_template (quoter : Quoter) :
    change.write quoter table selection =
      Collected.write quoter ((change.operation selection).template table)
        .empty := by
  cases change with
  | delete => exact Collected.delete_eq_write quoter table selection
  | deleteWithLimit limit =>
      rw [write, Collected.deleteWithLimit_eq_write, operation,
        Operation.template]
  | update values types =>
      exact Collected.update_eq_write quoter
        (Collected.addEntry_eq_write quoter types) table
        values.entries selection

end Change

namespace Query

/-- The parameters of a change and their types. -/
structure SelectionLayout (query : Query) (entries : List Entry)
    (types : ColumnTypes) (selection : Selection) : Prop where
  params : query.params = entries.map Prod.snd ++ selection.identifiers
  set : ∀ (position : Nat) (entry : Entry), entries[position]? = some entry →
    query.typeAt? position = types.get? entry.1
  selected : ∀ index < selection.identifiers.length,
    query.typeAt? (entries.length + index) = selection.type
  typed : ∀ position type, query.typeAt? position = some type →
    position < entries.length + selection.identifiers.length

theorem selectionLayout_toQuery {template : Template} {entries : List Entry}
    {types : ColumnTypes} {selection : Selection}
    (bindings : template.bindings =
      entries.map (fun entry => ⟨entry.2, types.get? entry.1⟩) ++
        selection.bindings)
    (quoter : Quoter) (hint : ReuseHint) :
    (template.toQuery quoter hint).SelectionLayout entries types selection := by
  refine ⟨?_, ?_, ?_, ?_⟩
  · change template.params = _
    rw [Template.params, bindings, List.map_append, List.map_map,
      Selection.bindings, List.map_map]
    exact congrArg (_ ++ ·) (List.map_id _)
  · intro position entry found
    have bound : template.bindings[position]? =
        some ⟨entry.2, types.get? entry.1⟩ := by
      rw [bindings, List.getElem?_append_left, List.getElem?_map, found]
      · rfl
      · rw [List.length_map]
        exact (List.getElem?_eq_some_iff.mp found).1
    exact (Template.boundAt_toQuery bound).2
  · intro index below
    have bound : template.bindings[entries.length + index]? =
        some ⟨selection.identifiers[index], selection.type⟩ := by
      rw [bindings, List.getElem?_append_right, List.length_map,
        Nat.add_sub_cancel_left, Selection.bindings, List.getElem?_map,
        List.getElem?_eq_getElem below]
      · rfl
      · rw [List.length_map]
        exact Nat.le_add_right _ _
    exact (Template.boundAt_toQuery bound).2
  · intro position type typed
    have below := Template.lt_of_typeAt?_toQuery typed
    rwa [bindings, List.length_append, List.length_map, Selection.bindings,
      List.length_map] at below

end Query

namespace TableStatement

theorem sql_limitTemplate (quoter : Quoter) {limit : Int64}
    (positive : 0 < limit.toInt) :
    (Operation.limitTemplate limit).sql quoter =
      " LIMIT " ++ String.ofList (Nat.toDigits 10 limit.toInt.toNat) := by
  have text :
      (" LIMIT " ++ String.ofList (Nat.toDigits 10 limit.toInt.toNat)).toList =
      Command.limitChars (some limit.toInt.toNat) :=
    String.toList_append.trans
      (congrArg (" LIMIT ".toList ++ ·) String.toList_ofList)
  rw [← String.toList_inj, Template.toList_sql,
    Operation.chars_limitTemplate quoter positive, text]

theorem build_deleteByIdsWithLimit {table : String} {selection : Selection}
    {limit : Int64} {quoter : Quoter} {hint : ReuseHint}
    {limitedFlag plainFlag : Bool} (positive : 0 < limit.toInt) :
    build ⟨table, .deleteByIdsWithLimit selection limit, quoter, hint,
      limitedFlag⟩ =
      (build ⟨table, .deleteByIds selection, quoter, hint, plainFlag⟩).map
        (·.extend (" LIMIT " ++
            String.ofList (Nat.toDigits 10 limit.toInt.toNat))) := by
  have unbound : (Operation.limitTemplate limit).bindings = [] := rfl
  have whole :=
    Template.toQuery_append (Operation.deleteTemplate table selection)
      unbound quoter hint
  rw [sql_limitTemplate quoter positive] at whole
  cases selected : build ⟨table, .deleteByIds selection, quoter, hint,
      plainFlag⟩ with
  | error error =>
      exact build_eq_error.mpr (Or.inl (build_eq_error.mp selected))
  | ok query =>
      obtain ⟨nonempty, rfl⟩ := build_eq_ok.mp selected
      exact build_eq_ok.mpr ⟨⟨nonempty, positive⟩, whole.symm⟩

/-- A change without identifiers fails for that, whatever else is wrong with it;
one with identifiers fails for its own defect, or else binds what it sets and
the identifiers behind it. A limit adds its digits to the text. -/
theorem changes_by_identifier (table : String) (quoter : Quoter)
    (hint : ReuseHint) (idempotent : Operation → Bool) (selection : Selection) :
    let build (change : Change) : Except ValidationError Query :=
      TableStatement.build ⟨table, change.operation selection, quoter, hint,
        idempotent (change.operation selection)⟩
    (∀ change, build change = .error .emptyIdentifiers ↔
      selection.identifiers = []) ∧
      (selection.identifiers ≠ [] → ∀ change : Change,
        (∀ error, build change = .error error ↔ change.Defect error) ∧
          ((∀ error, ¬ change.Defect error) →
            ∃ query, build change = .ok query ∧
              query.SelectionLayout change.entries change.types selection ∧
              query = (change.write quoter table selection).toQuery hint)) ∧
        ∀ limit : Int64, 0 < limit.toInt →
          build (.deleteWithLimit limit) = (build .delete).map
            (·.extend (" LIMIT " ++
                String.ofList (Nat.toDigits 10 limit.toInt.toNat))) := by
  intro build
  have rejected (change : Change) (error : ValidationError) :
      build change = .error error ↔ _ :=
    build_eq_error.trans (change.rejected_operation_iff selection)
  refine ⟨?_, ?_, ?_⟩
  · intro change
    rw [rejected]
    constructor
    · intro failed
      obtain ⟨empty, -⟩ | ⟨-, defect⟩ := failed
      · exact empty
      · cases defect
    · intro empty
      exact Or.inl ⟨empty, rfl⟩
  · intro nonempty change
    have defective (error : ValidationError) :
        build change = .error error ↔ change.Defect error := by
      rw [rejected]
      constructor
      · intro failed
        exact (failed.resolve_left fun none => nonempty none.1).2
      · intro defect
        exact Or.inr ⟨nonempty, defect⟩
    refine ⟨defective, ?_⟩
    intro sound
    cases built : build change with
    | error error => exact absurd ((defective error).mp built) (sound error)
    | ok query =>
        obtain ⟨-, rfl⟩ := build_eq_ok.mp built
        refine ⟨_, rfl, ?_, ?_⟩
        · exact Query.selectionLayout_toQuery
            (change.bindings_template selection table) quoter hint
        · rw [change.write_eq_write_template, Collected.toQuery_write]
  · intro limit positive
    exact build_deleteByIdsWithLimit positive

end TableStatement

end BulkWrite
