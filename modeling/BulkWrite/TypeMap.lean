import BulkWrite.ParamType

/-!
Types by parameter position. A position without an entry is bound untyped.
Entries are in ascending order of position, so a map has one form only.
-/

namespace BulkWrite

structure TypeMap where
  entries : List (Nat × ParamType)
  ascending : (entries.map Prod.fst).Pairwise (· < ·)

namespace TypeMap

def empty : TypeMap := ⟨[], List.Pairwise.nil⟩

instance : Inhabited TypeMap := ⟨empty⟩

def size (types : TypeMap) : Nat := types.entries.length

def get? (types : TypeMap) (position : Nat) : Option ParamType :=
  types.entries.lookup position

theorem ext {types other : TypeMap} (same : types.entries = other.entries) :
    types = other := by
  cases types
  cases other
  cases same
  rfl

/-! Insertion at a position, replacing what is there. -/

def insertEntry (position : Nat) (type : ParamType) :
    List (Nat × ParamType) → List (Nat × ParamType)
  | [] => [(position, type)]
  | (other, old) :: rest =>
      if position = other then (position, type) :: rest
      else if position < other then (position, type) :: (other, old) :: rest
      else (other, old) :: insertEntry position type rest

theorem mem_keys_insertEntry {position key : Nat} {type : ParamType}
    {entries : List (Nat × ParamType)}
    (member : key ∈ (insertEntry position type entries).map Prod.fst) :
    key = position ∨ key ∈ entries.map Prod.fst := by
  induction entries with
  | nil => simpa [insertEntry] using member
  | cons entry rest ih =>
      by_cases same : position = entry.1
      · simp only [insertEntry, same, ↓reduceIte, List.map_cons,
          List.mem_cons] at member
        rcases member with here | later
        · exact Or.inl (here.trans same.symm)
        · exact Or.inr (List.mem_cons_of_mem _ later)
      · by_cases less : position < entry.1
        · simpa [insertEntry, same, less] using member
        · simp only [insertEntry, same, less, ↓reduceIte, List.map_cons,
            List.mem_cons] at member
          rcases member with here | later
          · exact Or.inr (by simp [here])
          · rcases ih later with new | old
            · exact Or.inl new
            · exact Or.inr (List.mem_cons_of_mem _ old)

theorem insertEntry_ascending (position : Nat) (type : ParamType)
    (entries : List (Nat × ParamType))
    (ascending : (entries.map Prod.fst).Pairwise (· < ·)) :
    ((insertEntry position type entries).map Prod.fst).Pairwise (· < ·) := by
  induction entries with
  | nil => simp [insertEntry]
  | cons entry rest ih =>
      have head := (List.pairwise_cons.mp ascending).1
      have tail := (List.pairwise_cons.mp ascending).2
      by_cases same : position = entry.1
      · simpa [insertEntry, same] using ascending
      · by_cases less : position < entry.1
        · simp only [insertEntry, same, less, ↓reduceIte, List.map_cons]
          refine List.pairwise_cons.mpr ⟨?_, ascending⟩
          intro key member
          rcases List.mem_cons.mp member with here | later
          · exact here ▸ less
          · exact Nat.lt_trans less (head key later)
        · simp only [insertEntry, same, less, ↓reduceIte, List.map_cons]
          refine List.pairwise_cons.mpr ⟨?_, ih tail⟩
          intro key member
          rcases mem_keys_insertEntry member with new | old
          · omega
          · exact head key old

theorem lookup_insertEntry (position key : Nat) (type : ParamType)
    (entries : List (Nat × ParamType)) :
    (insertEntry position type entries).lookup key =
      if key = position then some type else entries.lookup key := by
  induction entries with
  | nil => grind [insertEntry]
  | cons entry rest ih => grind [insertEntry]

def insert (types : TypeMap) (position : Nat) (type : ParamType) : TypeMap :=
  ⟨insertEntry position type types.entries,
    insertEntry_ascending position type types.entries types.ascending⟩

theorem get?_insert (types : TypeMap) (position key : Nat) (type : ParamType) :
    (types.insert position type).get? key =
      if key = position then some type else types.get? key :=
  lookup_insertEntry position key type types.entries

/-- A later pair replaces an earlier one at the same position. -/
def ofList (pairs : List (Nat × ParamType)) : TypeMap :=
  pairs.foldl (fun types pair => types.insert pair.1 pair.2) empty

/-! Maps for consecutive positions, each with or without a type. -/

def slotEntries (slots : List (Option ParamType)) (start : Nat) :
    List (Nat × ParamType) :=
  (slots.zipIdx start).filterMap fun slot => slot.1.map (slot.2, ·)

@[simp] theorem slotEntries_nil (start : Nat) : slotEntries [] start = [] := rfl

@[simp] theorem slotEntries_none (slots : List (Option ParamType))
    (start : Nat) :
    slotEntries (none :: slots) start = slotEntries slots (start + 1) := by
  simp [slotEntries]

@[simp] theorem slotEntries_some (type : ParamType)
    (slots : List (Option ParamType)) (start : Nat) :
    slotEntries (some type :: slots) start =
      (start, type) :: slotEntries slots (start + 1) := by
  simp [slotEntries]

theorem le_of_mem_slotEntries {slots : List (Option ParamType)}
    {start key : Nat} (member : key ∈ (slotEntries slots start).map Prod.fst) :
    start ≤ key := by
  induction slots generalizing start with
  | nil => simp at member
  | cons slot slots ih =>
      cases slot with
      | none =>
          rw [slotEntries_none] at member
          have := ih member
          omega
      | some type =>
          rw [slotEntries_some, List.map_cons, List.mem_cons] at member
          rcases member with here | later
          · exact Nat.le_of_eq here.symm
          · have := ih later
            omega

theorem slotEntries_ascending (slots : List (Option ParamType)) (start : Nat) :
    ((slotEntries slots start).map Prod.fst).Pairwise (· < ·) := by
  induction slots generalizing start with
  | nil => simp
  | cons slot slots ih =>
      cases slot with
      | none => simpa using ih (start + 1)
      | some type =>
          rw [slotEntries_some, List.map_cons]
          refine List.pairwise_cons.mpr ⟨?_, ih (start + 1)⟩
          intro key member
          exact le_of_mem_slotEntries member

/-- The first slot is at the start position. -/
def ofSlots (slots : List (Option ParamType)) (start : Nat) : TypeMap :=
  ⟨slotEntries slots start, slotEntries_ascending slots start⟩

@[simp] theorem entries_ofSlots (slots : List (Option ParamType))
    (start : Nat) :
    (ofSlots slots start).entries = slotEntries slots start := rfl

theorem lookup_slotEntries_of_lt {slots : List (Option ParamType)}
    {start key : Nat} (below : key < start) :
    (slotEntries slots start).lookup key = none := by
  rw [List.lookup_eq_none_iff]
  intro entry member
  have above := le_of_mem_slotEntries (List.mem_map_of_mem member)
  simp only [bne_iff_ne, ne_eq]
  omega

theorem lookup_slotEntries (slots : List (Option ParamType))
    (start index : Nat) :
    (slotEntries slots start).lookup (start + index) = slots[index]?.join := by
  induction slots generalizing start index with
  | nil => simp
  | cons slot slots ih =>
      cases index with
      | zero =>
          cases slot with
          | none =>
              simpa using lookup_slotEntries_of_lt (Nat.lt_succ_self start)
          | some type => simp
      | succ index =>
          have rest := ih (start + 1) index
          rw [Nat.add_assoc, Nat.add_comm 1 index] at rest
          cases slot with
          | none => simpa using rest
          | some type =>
              have different : (start + (index + 1) == start) = false := by simp
              simpa [List.lookup_cons, different] using rest

theorem get?_ofSlots (slots : List (Option ParamType)) (start index : Nat) :
    (ofSlots slots start).get? (start + index) = slots[index]?.join :=
  lookup_slotEntries slots start index

def allBelow (types : TypeMap) (bound : Nat) : Bool :=
  types.entries.all fun entry => entry.1 < bound

/-! Positions as machine words, of which the first follows the last. -/

/-- The position so many places behind the start. -/
def position (start : UInt64) (count : Nat) : Nat :=
  (start + .ofNat count).toNat

def addSlot (types : TypeMap) (position : Nat) : Option ParamType → TypeMap
  | some type => types.insert position type
  | none => types

/-- The slots from the start position on. Those that have no position before the
end begin again at the first one. -/
def ofSlotsFrom (slots : List (Option ParamType)) (start : UInt64) : TypeMap :=
  let room := UInt64.size - start.toNat
  ((slots.drop room).zipIdx room).foldl
    (fun types slot => types.addSlot (position start slot.2) slot.1)
    (ofSlots (slots.take room) start.toNat)

end TypeMap

end BulkWrite
