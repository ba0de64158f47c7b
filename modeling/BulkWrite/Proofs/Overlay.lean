import BulkWrite.Failure.RulesText
import BulkWrite.Proofs.Parsing
import BulkWrite.Proofs.Printing
import Mathlib.Data.List.Sort

/-!
Rules read from JSON. An object that gives some fields, in any order and among
members of other names, lays its lists over the default rules. A list may be
spelled in any way, and a set of codes listed in any order. The text that rules
are written as gives the rules back.
-/

namespace BulkWrite

namespace CodeSet

theorem eq_of_mem_iff {first second : CodeSet}
    (same : ∀ code, code ∈ first.codes ↔ code ∈ second.codes) :
    first = second := by
  obtain ⟨codes, ascending⟩ := first
  obtain ⟨others, othersAscending⟩ := second
  have numbers : codes.map Int64.toInt = others.map Int64.toInt := by
    refine ascending.eq_of_mem_iff othersAscending fun n => ?_
    simp only [List.mem_map, same]
  have injective : Function.Injective Int64.toInt :=
    fun _ _ => Int64.toInt_inj.mp
  obtain rfl := List.map_injective_iff.mpr injective numbers
  rfl

theorem ofList_eq {set : CodeSet} {codes : List Int64}
    (same : ∀ code, code ∈ codes ↔ code ∈ set.codes) : ofList codes = set := by
  refine eq_of_mem_iff fun code => ?_
  rw [mem_ofList, same]

end CodeSet

namespace Rules

open Json (Document StringText)

/-- The lists of the fields are those of the rules, all other lists those of the
start. -/
def overlay (start rules : Rules) (fields : List Field) : Rules where
  connectionStatePrefixes :=
    if .connectionStatePrefixes ∈ fields then rules.connectionStatePrefixes
    else start.connectionStatePrefixes
  connectionCodes :=
    if .connectionCodes ∈ fields then rules.connectionCodes
    else start.connectionCodes
  connectionMessages :=
    if .connectionMessages ∈ fields then rules.connectionMessages
    else start.connectionMessages
  transientStates :=
    if .transientStates ∈ fields then rules.transientStates
    else start.transientStates
  transientCodes :=
    if .transientCodes ∈ fields then rules.transientCodes
    else start.transientCodes
  transientMessages :=
    if .transientMessages ∈ fields then rules.transientMessages
    else start.transientMessages

variable {rules : Rules}

theorem overlay_nil (start rules : Rules) :
    overlay start rules [] = start := rfl

theorem overlay_all (start rules : Rules) :
    overlay start rules Field.all = rules := rfl

theorem overlay_cons (start rules : Rules) (field : Field)
    (fields : List Field) :
    overlay (overlay start rules [field]) rules fields =
      overlay start rules (field :: fields) := by
  have twice {α : Type} (given : Field) (new old : α) :
      (if given ∈ fields then new else if given ∈ [field] then new else old) =
        if given ∈ field :: fields then new else old := by
    by_cases later : given ∈ fields <;> by_cases now : given = field <;>
      simp [later, now]
  simp only [overlay, twice]

theorem listOf?_eq_some {α : Type} {item? : Document → Option α}
    {json : α → Json} (reads : ∀ {document x}, document.value? = some (json x) →
      item? document = some x)
    {document : Document} {all : List α}
    (value : document.value? = some (.array (all.map json))) :
    listOf? item? document = some all := by
  cases document with
  | array items =>
      rw [Document.value?, Option.map_eq_map, Option.map_eq_some_iff] at value
      obtain ⟨values, items_eq, same⟩ := value
      obtain rfl := Json.array.inj same
      rw [listOf?]
      induction items generalizing all with
      | nil =>
          rw [Json.itemValues?, Option.some.injEq, eq_comm,
            List.map_eq_nil_iff] at items_eq
          rw [items_eq]
          rfl
      | cons item items ih =>
          simp only [Json.itemValues?, Option.bind_eq_bind,
            Option.bind_eq_some_iff, Option.some.injEq] at items_eq
          obtain ⟨first, firstValue, others, otherValues, both⟩ := items_eq
          obtain ⟨x, more, rfl, rfl, rfl⟩ := List.map_eq_cons_iff.mp both.symm
          rw [List.mapM_cons, reads firstValue, ih otherValues rfl]
          rfl
  | _ => simp [Document.value?, Json.ofMembers] at value

theorem itemString?_eq_some {document : Document} {s : String}
    (value : document.value? = some (.string s)) :
    itemString? document = some s := by
  cases document with
  | string text => simpa [Document.value?, itemString?] using value
  | _ => simp [Document.value?, Json.ofMembers] at value

theorem itemCode?_eq_some {document : Document} {code : Int64}
    (value : document.value? = some (.number (.integer code.toInt))) :
    itemCode? document = some code := by
  cases document with
  | number text =>
      have integer : text.value? = some (.integer code.toInt) := by
        simpa [Document.value?] using value
      simp only [itemCode?, integer]
      rw [if_pos ⟨Int64.minValue_le_toInt code, Int64.toInt_le code⟩,
        Int64.ofInt_toInt]
  | _ => simp [Document.value?, Json.ofMembers] at value

/-- The document lists the codes of the set, in any order and with
repetitions. -/
def ListsCodes (set : CodeSet) (document : Document) : Prop :=
  ∃ codes : List Int64, document.value? =
    some (Json.integers (codes.map Int64.toInt)) ∧
    ∀ code, code ∈ codes ↔ code ∈ set.codes

/-- The document holds what the field has in the rules. -/
def Holds (rules : Rules) (document : Document) : Field → Prop
  | .connectionStatePrefixes =>
      document.value? = some (Json.strings rules.connectionStatePrefixes)
  | .connectionCodes => ListsCodes rules.connectionCodes document
  | .connectionMessages =>
      document.value? = some (Json.strings rules.connectionMessages)
  | .transientStates =>
      document.value? = some (Json.strings rules.transientStates)
  | .transientCodes => ListsCodes rules.transientCodes document
  | .transientMessages =>
      document.value? = some (Json.strings rules.transientMessages)

theorem change?_of_holds {document : Document} {field : Field}
    (holds : rules.Holds document field) :
    ∃ change, field.change? document = some change ∧
      ∀ start : Rules, start.apply change = overlay start rules [field] := by
  have strings {list : List String}
      (value : document.value? = some (Json.strings list)) :
      listOf? itemString? document = some list :=
    listOf?_eq_some itemString?_eq_some value
  have integers {set : CodeSet} (lists : ListsCodes set document) :
      ∃ codes, listOf? itemCode? document = some codes ∧
          CodeSet.ofList codes = set := by
    obtain ⟨codes, value, same⟩ := lists
    rw [Json.integers, List.map_map] at value
    exact ⟨codes, listOf?_eq_some itemCode?_eq_some value,
      CodeSet.ofList_eq same⟩
  cases field with
  | connectionStatePrefixes =>
      exact ⟨_, congrArg (Option.map _) (strings holds), fun _ => rfl⟩
  | connectionMessages =>
      exact ⟨_, congrArg (Option.map _) (strings holds), fun _ => rfl⟩
  | transientStates =>
      exact ⟨_, congrArg (Option.map _) (strings holds), fun _ => rfl⟩
  | transientMessages =>
      exact ⟨_, congrArg (Option.map _) (strings holds), fun _ => rfl⟩
  | connectionCodes =>
      obtain ⟨codes, read, gathered⟩ := integers holds
      refine ⟨_, congrArg (Option.map _) read, fun start => ?_⟩
      rw [apply, gathered]
      rfl
  | transientCodes =>
      obtain ⟨codes, read, gathered⟩ := integers holds
      refine ⟨_, congrArg (Option.map _) read, fun start => ?_⟩
      rw [apply, gathered]
      rfl

theorem ofFields?_of_holds {fields : List (Field × Document)}
    (hold : ∀ given ∈ fields, rules.Holds given.2 given.1) :
    ofFields? fields = some (overlay default rules (fields.map Prod.fst)) := by
  have changes : ∃ changes, (fields.mapM fun given => given.1.change? given.2) =
      some changes ∧
      ∀ start : Rules, start.applyAll changes =
          overlay start rules (fields.map Prod.fst) := by
    induction fields with
    | nil => exact ⟨[], rfl, fun start => (overlay_nil start rules).symm⟩
    | cons given fields ih =>
        obtain ⟨first, others⟩ := List.forall_mem_cons.mp hold
        obtain ⟨change, read, applied⟩ := change?_of_holds first
        obtain ⟨changes, reads, appliedAll⟩ := ih others
        refine ⟨change :: changes, ?_, fun start => ?_⟩
        · rw [List.mapM_cons, read, reads]
          rfl
        · rw [applyAll, List.foldl_cons, applied, ← applyAll, appliedAll,
            overlay_cons, List.map_cons]
  obtain ⟨changes, read, applied⟩ := changes
  calc
    ofFields? fields =
        (fields.mapM fun given : Field × Document =>
          given.1.change? given.2).map default.applyAll := by
      rw [ofFields?, Option.map_eq_bind]
      rfl
    _ = some (overlay default rules (fields.map Prod.fst)) := by
      rw [read, Option.map_some, applied]

/-- The members give the fields in this order, with members of other names among
them. -/
inductive GivenBy (rules : Rules) :
    List Field → List (StringText × Document) → Prop
  | nil : GivenBy rules [] []
  | field {field : Field} {name : StringText} {document : Document}
      {fields : List Field}
      {members : List (StringText × Document)} (absent : field ∉ fields)
      (named : name.string? = some field.name)
      (holds : rules.Holds document field)
      (rest : GivenBy rules fields members) :
      GivenBy rules (field :: fields) ((name, document) :: members)
  | other {key : String} {name : StringText} {document : Document}
      {fields : List Field}
      {members : List (StringText × Document)} (named : name.string? = some key)
      (unknown : ∀ field : Field, field.name ≠ key)
      (rest : GivenBy rules fields members) :
      GivenBy rules fields ((name, document) :: members)

theorem GivenBy.nodup {fields : List Field}
    {members : List (StringText × Document)}
    (given : rules.GivenBy fields members) : fields.Nodup := by
  induction given with
  | nil => exact List.nodup_nil
  | field absent _ _ _ ih => exact List.nodup_cons.mpr ⟨absent, ih⟩
  | other _ _ _ ih => exact ih

theorem knownFields?_eq (members : List (StringText × Document)) :
    knownFields? members =
      (members.mapM fun member : StringText × Document =>
        (·, member.2) <$> member.1.string?).map fun named =>
          named.filterMap fun member =>
            (Field.ofName? member.1).map (·, member.2) := by
  rw [knownFields?, Option.map_eq_bind]
  rfl

theorem knownFields?_cons {name : StringText} {key : String}
    (named : name.string? = some key) (document : Document)
    (members : List (StringText × Document)) :
    knownFields? ((name, document) :: members) =
      (knownFields? members).map fun known =>
        ((Field.ofName? key).map (·, document)).toList ++ known := by
  rw [knownFields?_eq, knownFields?_eq, List.mapM_cons, named]
  cases members.mapM fun member => (·, member.2) <$> member.1.string? with
  | none => rfl
  | some others => cases known : Field.ofName? key <;> simp [known]

theorem ofName?_eq_none {key : String}
    (unknown : ∀ field : Field, field.name ≠ key) :
    Field.ofName? key = none := by
  refine List.find?_eq_none.mpr fun field _ => ?_
  simpa using unknown field

theorem GivenBy.known {fields : List Field}
    {members : List (StringText × Document)}
    (given : rules.GivenBy fields members) :
    ∃ known, knownFields? members = some known ∧ known.map Prod.fst = fields ∧
      ∀ given ∈ known, rules.Holds given.2 given.1 := by
  induction given with
  | nil => exact ⟨[], rfl, rfl, List.forall_mem_nil _⟩
  | @field field name document fields members absent named holds rest ih =>
      obtain ⟨known, read, rfl, hold⟩ := ih
      refine ⟨(field, document) :: known, ?_, rfl,
        List.forall_mem_cons.mpr ⟨holds, hold⟩⟩
      rw [knownFields?_cons named, read, Field.ofName?_name]
      rfl
  | other named unknown rest ih =>
      obtain ⟨known, read, same, hold⟩ := ih
      refine ⟨known, ?_, same, hold⟩
      rw [knownFields?_cons named, read, ofName?_eq_none unknown]
      rfl

theorem GivenBy.ofDocument? {fields : List Field}
    {members : List (StringText × Document)}
    (given : rules.GivenBy fields members) :
    ofDocument? (.object members) = some (overlay default rules fields) := by
  obtain ⟨known, read, rfl, hold⟩ := given.known
  rw [Rules.ofDocument?, read, Option.bind_eq_bind, Option.bind_some,
    if_pos given.nodup, ofFields?_of_holds hold]

def printedField (rules : Rules) : Field → Document
  | .connectionStatePrefixes =>
      Json.printedStrings rules.connectionStatePrefixes
  | .connectionCodes =>
      Json.printedIntegers (rules.connectionCodes.codes.map Int64.toInt)
  | .connectionMessages => Json.printedStrings rules.connectionMessages
  | .transientStates => Json.printedStrings rules.transientStates
  | .transientCodes =>
      Json.printedIntegers (rules.transientCodes.codes.map Int64.toInt)
  | .transientMessages => Json.printedStrings rules.transientMessages

theorem spells_fieldJson (rules : Rules) (field : Field) :
    Json.Spells 2 (rules.printedField field) (rules.fieldJson field).chars := by
  cases field with
  | connectionCodes => exact Json.spells_integers 0 _
  | transientCodes => exact Json.spells_integers 0 _
  | _ => exact Json.spells_strings 0 _

theorem holds_printedField (rules : Rules) (field : Field) :
    rules.Holds (rules.printedField field) field := by
  have integers (set : CodeSet) :
      ListsCodes set (Json.printedIntegers (set.codes.map Int64.toInt)) := by
    refine ⟨set.codes, Json.value?_printedIntegers fun n member => ?_,
      fun _ => Iff.rfl⟩
    obtain ⟨code, -, rfl⟩ := List.mem_map.mp member
    have most := Int64.toInt_lt code
    exact ⟨Int64.minValue_le_toInt code, Int.lt_trans most (by decide)⟩
  cases field with
  | connectionCodes => exact integers _
  | transientCodes => exact integers _
  | _ => exact Json.value?_printedStrings _

/-- The members of the fields, as printing writes them. -/
def printedMembers (rules : Rules) (fields : List Field) :
    List (StringText × Document) :=
  fields.map fun field =>
    (Json.printedString field.name, rules.printedField field)

theorem givenBy_printedMembers (rules : Rules) {fields : List Field}
    (once : fields.Nodup) :
    rules.GivenBy fields (rules.printedMembers fields) := by
  induction fields with
  | nil => exact .nil
  | cons field fields ih =>
      obtain ⟨absent, once⟩ := List.nodup_cons.mp once
      exact .field absent (Json.string?_printedString field.name)
        (rules.holds_printedField field) (ih once)

theorem written_printedMembers (rules : Rules) (fields : List Field) :
    Document.Written (.object (rules.printedMembers fields))
      (Json.object (fields.map fun field =>
          (field.name, rules.fieldJson field))).text :=
  Document.written_text
    (Json.spells_object Field.name fun field _ => rules.spells_fieldJson field)

theorem ofText?_of_givenBy {fields : List Field}
    {members : List (StringText × Document)} {text : String}
    (given : rules.GivenBy fields members)
    (written : Document.Written (.object members) text) :
    ofText? text = some (overlay default rules fields) := by
  rw [ofText?, Document.ofText?_of_written written, Option.bind_eq_bind,
    Option.bind_some, given.ofDocument?]

/-- What is printed for a field holds it. An object that gives some fields,
printed or spelled in another way, lays them over the default rules, and so does
the object with just these fields as they are printed. Rules are read back from
their own text. -/
theorem ofText?_reads_fields (rules : Rules) :
    (∀ field : Field, ∃ levels document,
      rules.Holds document field ∧
        Json.Spells levels document (rules.fieldJson field).chars) ∧
    (∀ (fields : List Field) (members : List (StringText × Document))
      (text : String),
      rules.GivenBy fields members → Document.Written (.object members) text →
        ofText? text = some (overlay default rules fields)) ∧
    (∀ fields : List Field, fields.Nodup →
      ofText? (Json.object
        (fields.map fun field => (field.name, rules.fieldJson field))).text =
        some (overlay default rules fields)) ∧
    ofText? rules.text = some rules := by
  have printed (fields : List Field) (once : fields.Nodup) :
      ofText? (Json.object
        (fields.map fun field => (field.name, rules.fieldJson field))).text =
        some (overlay default rules fields) :=
    ofText?_of_givenBy (rules.givenBy_printedMembers once)
      (rules.written_printedMembers fields)
  refine ⟨fun field => ⟨2, _, rules.holds_printedField field,
    rules.spells_fieldJson field⟩,
    fun fields members text given written => ofText?_of_givenBy given written,
    printed, ?_⟩
  have all := printed Field.all (by decide)
  rwa [overlay_all] at all

/-- A list of codes with a repetition, behind a member of another name. -/
theorem ofText?_reads_fields_among_others :
    ofText? "\x7b\"x\":[null],\"transient_codes\":[1213,-7,1213]\x7d" =
      some { default with transientCodes := .ofList [-7, 1213] } := by
  let rules : Rules := { default with transientCodes := .ofList [-7, 1213] }
  let members : List (String × Document × Json) :=
    [("x", .array [.null], .array [.null]),
      ("transient_codes", Json.printedIntegers [1213, -7, 1213],
        Json.integers [1213, -7, 1213])]
  have given : rules.GivenBy [.transientCodes]
      (members.map fun member =>
          (Json.printedString member.1, member.2.1)) := by
    have unknown (field : Field) : field.name ≠ "x" := by cases field <;> decide
    refine .other (Json.string?_printedString "x") unknown ?_
    refine .field (by decide)
      (Json.string?_printedString "transient_codes") ?_ .nil
    refine ⟨[1213, -7, 1213], Json.value?_printedIntegers (by decide),
      fun code => ?_⟩
    have codes : rules.transientCodes.codes = [-7, 1213] := by decide
    simp only [codes, List.mem_cons, List.not_mem_nil]
    tauto
  have written : Document.Written
      (.object (members.map fun member =>
        (Json.printedString member.1, member.2.1)))
      (Json.object (members.map fun member =>
          (member.1, member.2.2))).text := by
    have nested : Json.Spells 2 (.array [.null]) (Json.array [.null]).chars :=
      .array (.filled (.last (Json.padded_of_spells .null)))
    have each : ∀ member ∈ members, Json.Spells 2 member.2.1 member.2.2.chars :=
      List.forall_mem_cons.mpr
        ⟨nested, List.forall_mem_singleton.mpr (Json.spells_integers 0 _)⟩
    exact Document.written_text (Json.spells_object Prod.fst each)
  have text :
      (Json.object (members.map fun member => (member.1, member.2.2))).text =
      "\x7b\"x\":[null],\"transient_codes\":[1213,-7,1213]\x7d" := by
    decide
  rw [text] at written
  exact (ofText?_reads_fields rules).2.1 _ _ _ given written

end Rules

end BulkWrite
