/-!
Finite sets of driver codes. The codes of a set are listed in ascending order,
so equal sets are equal lists.
-/

namespace BulkWrite

structure CodeSet where
  codes : List Int64
  ascending : (codes.map Int64.toInt).Pairwise (· < ·)
deriving DecidableEq

namespace CodeSet

def empty : CodeSet := ⟨[], List.Pairwise.nil⟩

instance : Inhabited CodeSet := ⟨empty⟩

def contains (set : CodeSet) (code : Int64) : Bool := set.codes.contains code

/-! Insertion keeps the order. -/

def insertCode (code : Int64) : List Int64 → List Int64
  | [] => [code]
  | other :: rest =>
      if code = other then other :: rest
      else if code.toInt < other.toInt then code :: other :: rest
      else other :: insertCode code rest

theorem mem_insertCode {code other : Int64} {codes : List Int64} :
    other ∈ insertCode code codes ↔ other = code ∨ other ∈ codes := by
  induction codes with
  | nil => simp [insertCode]
  | cons head rest ih =>
      by_cases same : code = head
      · subst same
        simp [insertCode]
      · by_cases less : code.toInt < head.toInt
        · simp [insertCode, same, less]
        · simp only [insertCode, same, less, ↓reduceIte, List.mem_cons, ih]
          exact or_left_comm

theorem insertCode_ascending (code : Int64) (codes : List Int64)
    (ascending : (codes.map Int64.toInt).Pairwise (· < ·)) :
    ((insertCode code codes).map Int64.toInt).Pairwise (· < ·) := by
  induction codes with
  | nil => simp [insertCode]
  | cons head rest ih =>
      have first := (List.pairwise_cons.mp ascending).1
      have tail := (List.pairwise_cons.mp ascending).2
      by_cases same : code = head
      · simpa [insertCode, same] using ascending
      · by_cases less : code.toInt < head.toInt
        · simp only [insertCode, same, less, ↓reduceIte, List.map_cons]
          refine List.pairwise_cons.mpr ⟨?_, ascending⟩
          intro n member
          rcases List.mem_cons.mp member with here | later
          · exact here ▸ less
          · exact Int.lt_trans less (first n later)
        · simp only [insertCode, same, less, ↓reduceIte, List.map_cons]
          refine List.pairwise_cons.mpr ⟨?_, ih tail⟩
          intro n member
          obtain ⟨other, isMember, rfl⟩ := List.mem_map.mp member
          rcases mem_insertCode.mp isMember with new | old
          · subst new
            have different : other.toInt ≠ head.toInt := fun equal =>
              same (Int64.toInt_inj.mp equal)
            omega
          · exact first other.toInt (List.mem_map_of_mem old)

def insert (set : CodeSet) (code : Int64) : CodeSet :=
  ⟨insertCode code set.codes, insertCode_ascending code set.codes set.ascending⟩

def ofList (codes : List Int64) : CodeSet := codes.foldl insert empty

@[simp] theorem contains_insert (set : CodeSet) (code other : Int64) :
    (set.insert code).contains other =
      (other == code || set.contains other) := by
  simp only [contains, insert, List.contains_eq_mem]
  by_cases same : other = code <;> simp [mem_insertCode, same]

@[simp] theorem contains_empty (code : Int64) :
    empty.contains code = false := rfl

theorem contains_foldl_insert (codes : List Int64) (set : CodeSet)
    (code : Int64) :
    (codes.foldl insert set).contains code =
      (codes.contains code || set.contains code) := by
  induction codes generalizing set with
  | nil => simp
  | cons head rest ih =>
      rw [List.foldl_cons, ih, contains_insert, List.contains_cons]
      cases code == head <;> cases rest.contains code <;> rfl

/-- The order and the repetitions of a list do not matter to its set. -/
@[simp] theorem contains_ofList (codes : List Int64) (code : Int64) :
    (ofList codes).contains code = codes.contains code := by
  rw [ofList, contains_foldl_insert, contains_empty, Bool.or_false]

theorem mem_ofList {codes : List Int64} {code : Int64} :
    code ∈ (ofList codes).codes ↔ code ∈ codes := by
  simpa [contains] using congrArg (· = true) (contains_ofList codes code)

end CodeSet

end BulkWrite
