import BulkWrite.Value

/-!
Conversion of native data to values. Narrow integers and floating-point numbers
are widened, and an absent value is null.
-/

namespace BulkWrite

class ToValue (α : Type) where
  toValue : α → Value

export ToValue (toValue)

instance : ToValue Value := ⟨id⟩

instance : ToValue Bool := ⟨.bool⟩

instance : ToValue Int8 := ⟨fun n => .int n.toInt64⟩

instance : ToValue Int16 := ⟨fun n => .int n.toInt64⟩

instance : ToValue Int32 := ⟨fun n => .int n.toInt64⟩

instance : ToValue Int64 := ⟨.int⟩

instance : ToValue UInt8 := ⟨fun n => .uint n.toUInt64⟩

instance : ToValue UInt16 := ⟨fun n => .uint n.toUInt64⟩

instance : ToValue UInt32 := ⟨fun n => .uint n.toUInt64⟩

instance : ToValue UInt64 := ⟨.uint⟩

/-- A floating-point number of 32 bits, held as its bits. -/
structure Binary32 where
  bits : UInt32
deriving DecidableEq

instance : ToValue Binary32 := ⟨fun x => .float (.ofBinary32 x.bits)⟩

instance : ToValue Binary64 := ⟨.float⟩

instance : ToValue String := ⟨.text⟩

instance : ToValue (List UInt8) := ⟨.bytes⟩

instance : ToValue Json := ⟨.json⟩

instance : ToValue Date := ⟨.date⟩

instance : ToValue DateTime := ⟨.dateTime⟩

/-- A moment in universal time. -/
structure Timestamp where
  time : DateTime
deriving DecidableEq

instance : ToValue Timestamp := ⟨fun moment => .timestamp moment.time⟩

instance : ToValue Uuid := ⟨.uuid⟩

instance : ToValue Decimal := ⟨.decimal⟩

instance {α : Type} [ToValue α] : ToValue (Option α) :=
  ⟨fun
    | none => .null
    | some x => toValue x⟩

@[simp] theorem toValue_none {α : Type} [ToValue α] :
    toValue (none : Option α) = .null := rfl

@[simp] theorem toValue_some {α : Type} [ToValue α] (x : α) :
    toValue (some x) = toValue x := rfl

end BulkWrite
