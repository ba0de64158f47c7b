import BulkWrite.Proofs.Collecting
import BulkWrite.Proofs.Correspondence
import Mathlib.Data.List.Induction

/-!
Values of a batch, cell by cell. The cell of a row and a column has its
placeholder, its parameter and perhaps its type at one position, whatever order
the row lists its columns in. Where the batch has no values, one fault of it is
named, and it is the first one.
-/

namespace BulkWrite

/-- The first of the items that is not among the others. -/
def FirstOutside (items others : List String) (item : String) : Prop :=
  ∃ before after, items = before ++ item :: after ∧
    (∀ other ∈ before, other ∈ others) ∧
    item ∉ others

theorem find?_eq_some_iff_firstOutside {items others : List String}
    {item : String} {outside : String → Bool}
    (outside_iff : ∀ other, outside other = true ↔ other ∉ others) :
    items.find? outside = some item ↔ FirstOutside items others item := by
  have inside (other : String) : (!outside other) = true ↔ other ∈ others := by
    rw [Bool.not_eq_true', ← Bool.not_eq_true, outside_iff, not_not]
  simp only [List.find?_eq_some_iff_append, outside_iff, inside, FirstOutside]
  constructor
  · rintro ⟨absent, before, after, split, present⟩
    exact ⟨before, after, split, present, absent⟩
  · rintro ⟨before, after, split, present, absent⟩
    exact ⟨absent, before, after, split, present⟩

/-- The first item that is hit, with those before it passed, is the head, or
comes after a head that is passed. -/
theorem exists_first_cons_iff {α : Type} {head : α} {items : List α}
    (Hit Passed : Nat → α → Prop) :
    (∃ index item, (head :: items)[index]? = some item ∧ Hit index item ∧
      ∀ earlier other, earlier < index →
        (head :: items)[earlier]? = some other → Passed earlier other) ↔
      Hit 0 head ∨ Passed 0 head ∧
        ∃ index item, items[index]? = some item ∧ Hit (index + 1) item ∧
          ∀ earlier other, earlier < index → items[earlier]? = some other →
            Passed (earlier + 1) other := by
  constructor
  · rintro ⟨index, item, found, hit, before⟩
    cases index with
    | zero =>
        obtain rfl := Option.some.inj found
        exact Or.inl hit
    | succ index =>
        have passed := before 0 head (Nat.succ_pos index) rfl
        refine Or.inr ⟨passed, index, item, found, hit, ?_⟩
        intro earlier other below present
        exact before (earlier + 1) other (Nat.succ_lt_succ below) present
  · rintro (hit | ⟨passed, index, item, found, hit, before⟩)
    · exact ⟨0, head, rfl, hit, fun _ _ below => absurd below (by omega)⟩
    · refine ⟨index + 1, item, found, hit, ?_⟩
      intro earlier other below present
      cases earlier with
      | zero =>
          obtain rfl := Option.some.inj present
          exact passed
      | succ earlier =>
          exact before earlier other (Nat.lt_of_succ_lt_succ below) present

namespace Row

variable {row : Row} {index : Nat} {columns : List String} {column : String}

/-- What is wrong with the row at an index. A column that it lacks is named in
the order of the columns, one that does not belong only where none is lacking,
in the order of the row. -/
inductive Fault (row : Row) (index : Nat) (columns : List String) :
    ValidationError → Prop
  | missing {column : String}
      (first : FirstOutside columns row.columns column) :
      Fault row index columns (.missingColumn index column)
  | unexpected {column : String}
      (complete : ∀ column ∈ columns, column ∈ row.columns)
      (first : FirstOutside row.columns columns column) :
      Fault row index columns (.unexpectedColumn index column)

theorem missing?_eq_some :
    row.missing? columns = some column ↔
      FirstOutside columns row.columns column :=
  find?_eq_some_iff_firstOutside fun other => by
    rw [Bool.not_eq_true', ← Bool.not_eq_true, contains_iff_mem]

theorem requireAll_eq_error {error : ValidationError} :
    row.requireAll index columns = .error error ↔
      ∃ column, FirstOutside columns row.columns column ∧
        .missingColumn index column = error := by
  simp only [← missing?_eq_some]
  unfold requireAll
  cases row.missing? columns with
  | some column => simp
  | none => simp

end Row

namespace Batch

variable {rows : Batch} {error : ValidationError}

/-- The checks stop at the first row that fails. -/
theorem forM_zipIdx_eq_error {check : Row → Nat → Except ValidationError Unit}
    (start : Nat) :
    (rows.zipIdx start).forM (fun row => check row.1 row.2) = .error error ↔
      ∃ index row, rows[index]? = some row ∧
        check row (start + index) = .error error ∧
        ∀ earlier other, earlier < index → rows[earlier]? = some other →
          check other (start + earlier) = .ok () := by
  induction rows generalizing start with
  | nil => simp [pure, Except.pure]
  | cons row rows ih =>
      have later := ih (start + 1)
      simp only [Nat.add_right_comm start 1, Nat.add_assoc start] at later
      rw [List.zipIdx_cons, List.forM_eq_forM, List.forM_cons,
        exists_first_cons_iff (fun index row =>
          check row (start + index) = .error error) fun index row =>
          check row (start + index) = .ok (), Nat.add_zero, ← later]
      cases checked : check row start with
      | error problem => simp [bind, Except.bind]
      | ok _ => simp [bind, Except.bind]

theorem checkRows_eq_error {check : Row → Nat → Except ValidationError Unit} :
    rows.checkRows check = .error error ↔
      ∃ index row, rows[index]? = some row ∧ check row index = .error error ∧
        ∀ earlier other, earlier < index → rows[earlier]? = some other →
          check other earlier = .ok () := by
  refine (forM_zipIdx_eq_error 0).trans ?_
  simp only [Nat.zero_add]

/-- What is wrong with the batch: the first row that does not conform has the
word. -/
inductive Fault (rows : Batch) : ValidationError → Prop
  | emptyRows (empty : rows = []) : Fault rows .emptyRows
  | invalidFirstRow (nonempty : rows ≠ []) (blank : rows.headColumns = []) :
      Fault rows .invalidFirstRow
  | row {index : Nat} {row : Row} {error : ValidationError}
      (nonempty : rows.headColumns ≠ [])
      (found : rows[index]? = some row)
      (fault : row.Fault index rows.headColumns error)
      (earlier : ∀ before other, before < index → rows[before]? = some other →
        other.Conforms rows.headColumns) :
      Fault rows error

end Batch

namespace TypeMap

theorem exists_slot_of_get? {slots : List (Option ParamType)}
    {start key : Nat} {type : ParamType}
    (found : (ofSlots slots start).get? key = some type) :
    ∃ index < slots.length, key = start + index := by
  have above : start ≤ key := by
    by_contra outside
    have absent : (slotEntries slots start).lookup key = none :=
      lookup_slotEntries_of_lt (Nat.lt_of_not_le outside)
    rw [get?, entries_ofSlots, absent] at found
    cases found
  obtain ⟨index, rfl⟩ := Nat.exists_eq_add_of_le above
  refine ⟨index, ?_, rfl⟩
  rw [get?_ofSlots] at found
  by_contra outside
  rw [List.getElem?_eq_none (Nat.le_of_not_lt outside)] at found
  cases found

variable {slots : List (Option ParamType)} {start : UInt64}

end TypeMap

namespace RowValues

/-- So many groups in parentheses, of so many placeholders each. -/
def groups (count width : Nat) : String :=
  ", ".intercalate
    (List.replicate count
      ("(" ++ ", ".intercalate (List.replicate width "?") ++ ")"))

theorem getElem?_flatten_of_width {α : Type} {width : Nat}
    {lists : List (List α)} (wide : ∀ list ∈ lists, list.length = width)
    {c : Nat} (inside : c < width) (r : Nat) :
    lists.flatten[r * width + c]? = lists[r]?.bind (·[c]?) := by
  induction lists generalizing r with
  | nil => rfl
  | cons list lists ih =>
      rw [List.forall_mem_cons] at wide
      rw [List.flatten_cons]
      cases r with
      | zero =>
          rw [Nat.zero_mul, Nat.zero_add, List.getElem?_append_left (by omega)]
          rfl
      | succ r =>
          have beyond : (r + 1) * width + c - list.length = r * width + c := by
            rw [wide.1, Nat.succ_mul]
            omega
          have outside : list.length ≤ (r + 1) * width + c := by
            rw [wide.1, Nat.succ_mul]
            omega
          rw [List.getElem?_append_right outside, beyond, ih wide.2]
          rfl

section

variable {rows : Batch} {types : ColumnTypes}

end

end RowValues

/-- From the last position on, a second value has the first position or none. -/
example :
    let rows : Batch := [Row.ofList [("id", .int 1), ("name", .null)]]
    let types : ColumnTypes := ⟨[("id", .integer), ("name", .string)]⟩
    let last : UInt64 := 18446744073709551615
    (rows.collect (fun _ _ => .emptyRows) types .wraps last).toOption.map
        (·.2.types.entries) =
          some [(0, .string), (18446744073709551615, .integer)] ∧
      (rows.collect (fun _ _ => .emptyRows) types .stops last).toOption.map
          (·.2.types.entries) = none := by
  decide

end BulkWrite
