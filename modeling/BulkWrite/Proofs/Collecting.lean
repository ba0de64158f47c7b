import BulkWrite.Proofs.Alignment
import BulkWrite.Proofs.Chunks
import BulkWrite.Proofs.Correspondence
import Mathlib.Data.List.Perm.Subperm

/-!
Values of a batch, collected in one pass. The pass checks a row, looks its
values up column by column and adds to the text, the parameters and the types as
it goes, where the position of a type is counted by the parameters so far. It
comes to the template of the values all the same, unless a position is no
machine word and the pass ends there.
-/

namespace BulkWrite

/-! The pass over the rows, and what it has collected. -/

structure Collected where
  fragment : String
  params : List Value
  types : TypeMap

namespace Collected

def empty : Collected := ⟨"", [], .empty⟩

def addText (collected : Collected) (text : String) : Collected :=
  { collected with fragment := collected.fragment ++ text }

/-- A comma stands in front of every item but the first. -/
def separate (collected : Collected) (index : Nat) : Collected :=
  if index = 0 then collected else collected.addText ", "

def addValue (collected : Collected) (position : Nat) (binding : Binding) :
    Collected where
  fragment := collected.fragment ++ "?"
  params := collected.params ++ [binding.value]
  types := collected.types.addSlot position binding.type

end Collected

/-- What a sum of machine words does that is none itself: it ends the pass, or
it begins again at the first word. -/
inductive Overflow where
  | stops
  | wraps

namespace Overflow

def position? (overflow : Overflow) (start : UInt64) (count : Nat) :
    Option Nat :=
  match overflow with
  | .stops =>
      if start.toNat + count < UInt64.size then
        some (TypeMap.position start count)
      else none
  | .wraps => some (TypeMap.position start count)

/-- So many values have their positions. -/
def Admits (overflow : Overflow) (start : UInt64) (count : Nat) : Prop :=
  match overflow with
  | .stops => start.toNat + count ≤ UInt64.size
  | .wraps => True

instance (overflow : Overflow) (start : UInt64) (count : Nat) :
    Decidable (overflow.Admits start count) :=
  match overflow with
  | .stops => Nat.decLe _ _
  | .wraps => .isTrue trivial

end Overflow

/-- Why a pass ends without values. -/
inductive Halt where
  | overflow
  | rejected (error : ValidationError)

namespace Row

/-- A row that has the columns is searched for a stray one only where it is
wider. -/
def requireByWidth (row : Row) (index : Nat) (columns : List String) :
    Except ValidationError Unit := do
  row.requireAll index columns
  if row.size = columns.length then return ()
  match row.stray? columns with
  | some column => .error (.unexpectedColumn index column)
  | none => .ok ()

/-- Whatever `absent` says of a column that is not there. The position is
computed for every value, whether it has a type or not. -/
def collectValue (row : Row) (absent : String → ValidationError)
    (types : ColumnTypes) (overflow : Overflow) (start : UInt64)
    (collected : Collected) (column : String × Nat) : Except Halt Collected :=
  match row.get? column.1 with
  | none => .error (.rejected (absent column.1))
  | some value =>
      match overflow.position? start collected.params.length with
      | none => .error .overflow
      | some position =>
          .ok ((collected.separate column.2).addValue position
            ⟨value, types.get? column.1⟩)

def collect (row : Row) (index : Nat) (absent : String → ValidationError)
    (columns : List String) (types : ColumnTypes) (overflow : Overflow)
    (start : UInt64) (collected : Collected) : Except Halt Collected := do
  (row.requireByWidth index columns).mapError .rejected
  let filled ← columns.zipIdx.foldlM
    (row.collectValue absent types overflow start)
    ((collected.separate index).addText "(")
  return filled.addText ")"

end Row

namespace Batch

def collect (rows : Batch) (absent : Nat → String → ValidationError)
    (types : ColumnTypes) (overflow : Overflow) (start : UInt64) :
    Except Halt (List String × Collected) := do
  let columns ← rows.columns.mapError .rejected
  let collected ← rows.zipIdx.foldlM (fun collected row =>
    row.1.collect row.2 (absent row.2) columns types overflow start collected)
    .empty
  return (columns, collected)

end Batch

/-! A row that is as wide as the columns and has them all has no others. -/

namespace Row

/-- The row has exactly the columns, in whatever order. -/
def Conforms (row : Row) (columns : List String) : Prop :=
  ∀ column, column ∈ row.columns ↔ column ∈ columns

theorem has_iff {row : Row} {columns : List String} :
    row.Has columns ↔ ∀ column ∈ columns, column ∈ row.columns :=
  forall₂_congr fun _ _ => contains_iff_mem

end Row

/-! What is collected is always a template, with its types from the start on. -/

namespace TypeMap

theorem slotEntries_append (slots more : List (Option ParamType))
    (start : Nat) :
    slotEntries (slots ++ more) start =
      slotEntries slots start ++ slotEntries more (start + slots.length) := by
  rw [slotEntries, List.zipIdx_append, List.filterMap_append]
  rfl

theorem insertEntry_behind {position : Nat} (type : ParamType)
    {entries : List (Nat × ParamType)}
    (below : ∀ key ∈ entries.map Prod.fst, key < position) :
    insertEntry position type entries = entries ++ [(position, type)] := by
  induction entries with
  | nil => rfl
  | cons entry rest ih =>
      rw [List.map_cons, List.forall_mem_cons] at below
      rw [insertEntry, if_neg (Nat.ne_of_gt below.1),
        if_neg (Nat.not_lt_of_gt below.1), ih below.2]
      rfl

/-- A type behind all others is inserted at the end. -/
theorem ofSlots_append_singleton (slots : List (Option ParamType))
    (slot : Option ParamType) (start : Nat) :
    ofSlots (slots ++ [slot]) start =
      (ofSlots slots start).addSlot (start + slots.length) slot := by
  cases slot with
  | none =>
      apply ext
      change slotEntries (slots ++ [none]) start = slotEntries slots start
      rw [slotEntries_append]
      exact List.append_nil _
  | some type =>
      apply ext
      change slotEntries (slots ++ [some type]) start =
        insertEntry (start + slots.length) type (slotEntries slots start)
      rw [slotEntries_append,
        insertEntry_behind type fun key member => lt_of_mem_slotEntries member]
      rfl

end TypeMap

namespace Template

variable (template : Template) (text : String) (binding : Binding)

theorem bindings_append_text :
    bindings (template ++ [.text text]) = template.bindings := by
  rw [bindings_append]
  exact List.append_nil _

theorem bindings_append_bind :
    bindings (template ++ [.bind binding]) = template.bindings ++ [binding] :=
  bindings_append template [.bind binding]

theorem length_params : template.params.length = template.bindings.length :=
  List.length_map _

theorem types_append_text :
    types (template ++ [.text text]) = template.types := by
  rw [types, bindings_append_text, types]

theorem types_append_bind :
    types (template ++ [.bind binding]) =
      template.types.addSlot template.params.length binding.type := by
  rw [types, bindings_append_bind, List.map_append,
    List.map_singleton, TypeMap.ofSlots_append_singleton, List.length_map,
    length_params, Nat.zero_add, types]

end Template

namespace Collected

/-- The template is what has been collected, and so are the types. -/
def ofTemplate (template : Template) (types : TypeMap) : Collected :=
  ⟨template.sql default, template.params, types⟩

theorem addText_ofTemplate (template : Template) (types : TypeMap)
    (text : String) :
    (ofTemplate template types).addText text =
      ofTemplate (template ++ [.text text]) types := by
  have sql : Template.sql default (template ++ [.text text]) =
      template.sql default ++ text := by
    rw [← String.toList_inj, Template.toList_sql, Template.chars_append,
      String.toList_append, Template.toList_sql]
    exact congrArg (_ ++ ·) (List.append_nil _)
  have params : Template.params (template ++ [.text text]) =
      template.params := by
    rw [Template.params, Template.bindings_append_text, Template.params]
  rw [ofTemplate, ofTemplate, sql, params]
  rfl

theorem addValue_ofTemplate (template : Template) (types : TypeMap)
    (position : Nat) (binding : Binding) :
    (ofTemplate template types).addValue position binding =
      ofTemplate (template ++ [.bind binding])
        (types.addSlot position binding.type) := by
  have sql : Template.sql default (template ++ [.bind binding]) =
      template.sql default ++ "?" := by
    rw [← String.toList_inj, Template.toList_sql, Template.chars_append,
      String.toList_append, Template.toList_sql]
    rfl
  have params : Template.params (template ++ [.bind binding]) =
      template.params ++ [binding.value] := by
    rw [Template.params, Template.bindings_append_bind, List.map_append]
    rfl
  rw [ofTemplate, ofTemplate, sql, params]
  rfl

def separator (index : Nat) : Template := if index = 0 then [] else [.text ", "]

def separated {α : Type} (each : α → Template) (items : List α) (index : Nat) :
    Template :=
  (items.zipIdx index).flatMap fun item => separator item.2 ++ each item.1

theorem separated_cons {α : Type} (each : α → Template) (item : α)
    (items : List α) (index : Nat) :
    separated each (item :: items) index =
      separator index ++ each item ++ separated each items (index + 1) := by
  rw [separated, List.zipIdx_cons, List.flatMap_cons]
  rfl

theorem separated_succ {α : Type} (each : α → Template) (items : List α)
    (index : Nat) :
    separated each items (index + 1) =
      items.flatMap fun item => [Piece.text ", "] ++ each item := by
  induction items generalizing index with
  | nil => rfl
  | cons item items ih =>
      rw [separated_cons, ih, List.flatMap_cons]
      rfl

theorem separated_zero {α : Type} (each : α → Template) (items : List α) :
    separated each items 0 = Template.commaSeparated (items.map each) := by
  cases items with
  | nil => rfl
  | cons item items =>
      rw [separated_cons, separated_succ, List.map_cons,
        Template.commaSeparated_cons, List.flatMap_map]
      rfl

end Collected

/-! A value, a row and all rows: what they add where positions suffice, and
the end of the pass where they do not. -/

namespace Overflow

variable {overflow : Overflow} {start : UInt64} {count more : Nat}

end Overflow

open Collected

namespace Row

variable {row : Row} {overflow : Overflow} {start : UInt64}
  {columns : List String} (absent : String → ValidationError)
  (types : ColumnTypes)

/-- The row as a part of the template, with the comma in front of it. -/
def part (row : Row) (types : ColumnTypes) (columns : List String)
    (index : Nat) : Template :=
  separator index ++ RowValues.rowTemplate (row.bindings types columns)

end Row

namespace Batch

variable {rows : Batch} {overflow : Overflow} {start : UInt64}
  {columns : List String} (absent : Nat → String → ValidationError)
  (types : ColumnTypes)

/-- The rows that conform, up to the first that does not, have their positions
behind the first values. -/
def Fits (rows : Batch) (columns : List String) (overflow : Overflow)
    (start : UInt64) (count : Nat) : Prop :=
  ∀ taken, taken <+: rows → (∀ row ∈ taken, row.Conforms columns) →
    overflow.Admits start (count + taken.length * columns.length)

theorem Fits.tail {row : Row} {count : Nat}
    (fits : Fits (row :: rows) columns overflow start count)
    (conforms : row.Conforms columns) :
    rows.Fits columns overflow start (count + columns.length) := by
  intro taken starts others
  have more := fits (row :: taken) (List.cons_prefix_cons.mpr ⟨rfl, starts⟩)
    (List.forall_mem_cons.mpr ⟨conforms, others⟩)
  rwa [List.length_cons, Nat.succ_mul, Nat.add_comm (_ * _),
    ← Nat.add_assoc] at more

theorem Fits.head {row : Row} {count : Nat}
    (fits : Fits (row :: rows) columns overflow start count)
    (conforms : row.Conforms columns) :
    overflow.Admits start (count + columns.length) := by
  have first := fits.tail conforms [] List.nil_prefix (List.forall_mem_nil _)
  rwa [List.length_nil, Nat.zero_mul] at first

/-- The values as a pass collects them, or why there are none. -/
def outcome (rows : Batch) (types : ColumnTypes) (start : UInt64) :
    Except Halt (List String × Collected) :=
  ((rows.values types).map fun values =>
    (values.columns, ⟨values.fragment, values.params,
      values.typesFrom start⟩)).mapError .rejected

end Batch

end BulkWrite
