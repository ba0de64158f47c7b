import BulkWrite.Value

/-!
Rows: a value for each of finitely many columns, in the order in which the
columns first came. Putting a value into a column that is there replaces the
value and keeps the place.
-/

namespace BulkWrite

/-- Declared types by column name. A column without an entry is bound
untyped. -/
structure ColumnTypes where
  entries : List (String × ParamType) := []

namespace ColumnTypes

def get? (types : ColumnTypes) (column : String) : Option ParamType :=
  types.entries.lookup column

end ColumnTypes

abbrev Entry := String × Value

structure Row where
  entries : List Entry
  nodup : (entries.map Prod.fst).Nodup

namespace Row

def empty : Row := ⟨[], List.nodup_nil⟩

instance : Inhabited Row := ⟨empty⟩

def size (row : Row) : Nat := row.entries.length

def isEmpty (row : Row) : Bool := row.entries.isEmpty

def columns (row : Row) : List String := row.entries.map Prod.fst

def get? (row : Row) (column : String) : Option Value :=
  row.entries.lookup column

/-- A column that holds null is there. -/
def contains (row : Row) (column : String) : Bool :=
  row.entries.any fun entry => entry.1 == column

theorem isSome_get? (row : Row) (column : String) :
    (row.get? column).isSome = row.contains column := by
  rw [get?, contains]
  induction row.entries with
  | nil => rfl
  | cons entry rest ih =>
      rw [List.lookup_cons, List.any_cons, ← ih, BEq.comm]
      cases entry.1 == column <;> rfl

theorem contains_iff_mem {row : Row} {column : String} :
    row.contains column = true ↔ column ∈ row.columns := by
  simp [contains, columns]

/-- The value of a column, null where the column is missing. -/
def valueOf (row : Row) (column : String) : Value :=
  (row.get? column).getD .null

theorem valueOf_of_get? {row : Row} {column : String} {value : Value}
    (found : row.get? column = some value) : row.valueOf column = value := by
  simp [valueOf, found]

/-- The first of the columns that the row lacks. -/
def missing? (row : Row) (columns : List String) : Option String :=
  columns.find? fun column => !row.contains column

/-- The first column of the row that is not among the columns. -/
def stray? (row : Row) (columns : List String) : Option String :=
  row.columns.find? fun column => !columns.contains column

/-! Insertion replaces in place or appends, so the columns stay distinct. -/

def insertEntry (column : String) (value : Value) : List Entry → List Entry
  | [] => [(column, value)]
  | (other, old) :: rest =>
      if column = other then (column, value) :: rest
      else (other, old) :: insertEntry column value rest

theorem insertEntry_columns_of_mem (column : String) (value : Value)
    (entries : List Entry) (present : column ∈ entries.map Prod.fst) :
    (insertEntry column value entries).map Prod.fst = entries.map Prod.fst := by
  induction entries with
  | nil => simp at present
  | cons entry rest ih =>
      by_cases same : column = entry.1
      · simp [insertEntry, same]
      · have later : column ∈ rest.map Prod.fst := by
          simpa [same] using present
        simpa [insertEntry, same] using ih later

theorem insertEntry_columns_of_not_mem (column : String) (value : Value)
    (entries : List Entry) (absent : column ∉ entries.map Prod.fst) :
    (insertEntry column value entries).map Prod.fst =
      entries.map Prod.fst ++ [column] := by
  induction entries with
  | nil => rfl
  | cons entry rest ih =>
      have different : column ≠ entry.1 := by
        intro same
        simp [same] at absent
      have later : column ∉ rest.map Prod.fst := by
        intro member
        simp [member] at absent
      simpa [insertEntry, different] using ih later

theorem insertEntry_nodup (column : String) (value : Value)
    (entries : List Entry) (nodup : (entries.map Prod.fst).Nodup) :
    ((insertEntry column value entries).map Prod.fst).Nodup := by
  by_cases present : column ∈ entries.map Prod.fst
  · rwa [insertEntry_columns_of_mem column value entries present]
  · rw [insertEntry_columns_of_not_mem column value entries present]
    rw [List.nodup_append]
    refine ⟨nodup, by simp, ?_⟩
    intro other member new isNew same
    simp only [List.mem_singleton] at isNew
    exact present (isNew ▸ same ▸ member)

theorem lookup_insertEntry (column other : String) (value : Value)
    (entries : List Entry) :
    (insertEntry column value entries).lookup other =
      if other = column then some value else entries.lookup other := by
  induction entries with
  | nil => grind [insertEntry]
  | cons entry rest ih => grind [insertEntry]

def insert (row : Row) (column : String) (value : Value) : Row :=
  ⟨insertEntry column value row.entries,
    insertEntry_nodup column value row.entries row.nodup⟩

theorem get?_insert (row : Row) (column other : String) (value : Value) :
    (row.insert column value).get? other =
      if other = column then some value else row.get? other :=
  lookup_insertEntry column other value row.entries

/-- Insertion that takes out the value that was there. -/
def replaceEntry (column : String) (value : Value) :
    List Entry → Option Value × List Entry
  | [] => (none, [(column, value)])
  | (other, old) :: rest =>
      if column = other then (some old, (column, value) :: rest)
      else
        let (previous, replaced) := replaceEntry column value rest
        (previous, (other, old) :: replaced)

theorem replaceEntry_eq (column : String) (value : Value)
    (entries : List Entry) :
    replaceEntry column value entries =
      (entries.lookup column, insertEntry column value entries) := by
  induction entries with
  | nil => rfl
  | cons entry rest ih =>
      obtain ⟨other, old⟩ := entry
      by_cases same : column = other
      · simp [replaceEntry, insertEntry, same]
      · simp [replaceEntry, insertEntry, List.lookup_cons, beq_false_of_ne same,
          same, ih]

theorem replaceEntry_nodup (column : String) (value : Value)
    (entries : List Entry) (nodup : (entries.map Prod.fst).Nodup) :
    ((replaceEntry column value entries).2.map Prod.fst).Nodup := by
  rw [replaceEntry_eq]
  exact insertEntry_nodup column value entries nodup

def replace (row : Row) (column : String) (value : Value) :
    Option Value × Row :=
  let replaced := replaceEntry column value row.entries
  ⟨replaced.1, replaced.2, replaceEntry_nodup column value
    row.entries row.nodup⟩

theorem replace_eq (row : Row) (column : String) (value : Value) :
    row.replace column value = (row.get? column, row.insert column value) := by
  simp only [replace, replaceEntry_eq, get?, insert]

def ofList (entries : List Entry) : Row :=
  entries.foldl (fun row entry => row.insert entry.1 entry.2) empty

def equals (row other : Row) : Bool :=
  row.columns == other.columns &&
    Value.listEquals (row.entries.map Prod.snd) (other.entries.map Prod.snd)

theorem ext {row other : Row} (same : row.entries = other.entries) :
    row = other := by
  cases row
  cases other
  cases same
  rfl

@[simp] theorem columns_empty : empty.columns = [] := rfl

theorem columns_nodup (row : Row) : row.columns.Nodup := row.nodup

theorem columns_insert_of_mem (row : Row) {column : String} (value : Value)
    (present : column ∈ row.columns) :
    (row.insert column value).columns = row.columns :=
  insertEntry_columns_of_mem column value row.entries present

theorem columns_insert_of_not_mem (row : Row) {column : String} (value : Value)
    (absent : column ∉ row.columns) :
    (row.insert column value).columns = row.columns ++ [column] :=
  insertEntry_columns_of_not_mem column value row.entries absent

end Row

end BulkWrite
