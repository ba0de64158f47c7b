import BulkWrite.Proofs.Compilation
import Mathlib.Data.List.Perm.Basic

/-!
Chunks of a batch. They are the batch cut into pieces, and one set of columns
for the batch comes to one for each chunk and no change of it from chunk to
chunk.
-/

namespace BulkWrite

namespace Row

/-- As no column comes twice, the columns that a row must have and all that it
may have are its columns in some order. -/
theorem has_and_only_iff_perm {row : Row} {columns : List String}
    (distinct : columns.Nodup) :
    (row.Has columns ∧ ∀ column ∈ row.columns, column ∈ columns) ↔
      row.columns.Perm columns := by
  rw [List.perm_ext_iff_of_nodup row.columns_nodup distinct]
  constructor
  · intro exact column
    exact ⟨exact.2 column, fun member =>
      contains_iff_mem.mp (exact.1 column member)⟩
  · intro same
    exact ⟨fun column member => contains_iff_mem.mpr ((same column).mpr member),
      fun column member => (same column).mp member⟩

end Row

namespace Batch

/-- The chunks joined are the rows. Each has the size but the last, which is no
larger. -/
structure Partition (size : Nat) (rows : Batch) (chunks : List Batch) :
    Prop where
  joined : chunks.flatten = rows
  filled : ∀ chunk ∈ chunks, chunk ≠ []
  full : ∀ chunk ∈ chunks.dropLast, chunk.length = size
  bounded : ∀ chunk ∈ chunks, chunk.length ≤ size

theorem chunks_nil (size : Nat) : chunks size [] = [] := by
  rw [chunks]
  simp

theorem chunks_of_ne_nil {size : Nat} (positive : 0 < size) {rows : Batch}
    (left : rows ≠ []) :
    chunks size rows = rows.take size :: chunks size (rows.drop size) := by
  rw [chunks, if_neg]
  simp [left, Nat.ne_of_gt positive]

namespace Partition

variable {size : Nat} {rows : Batch} {chunks : List Batch}

theorem nil (size : Nat) : Partition size [] [] where
  joined := rfl
  filled := by simp
  full := by simp
  bounded := by simp

theorem cons (positive : 0 < size) (left : rows ≠ [])
    (rest : Partition size (rows.drop size) chunks) :
    Partition size rows (rows.take size :: chunks) where
  joined := by rw [List.flatten_cons, rest.joined, List.take_append_drop]
  filled := by
    intro chunk member
    rcases List.mem_cons.mp member with here | later
    · rw [here]
      simp [left, Nat.ne_of_gt positive]
    · exact rest.filled chunk later
  full := by
    intro chunk member
    cases chunks with
    | nil => simp at member
    | cons next more =>
        rw [List.dropLast_cons_cons] at member
        rcases List.mem_cons.mp member with here | later
        · -- something is left behind the first chunk, so the rows did not
          -- run out in it
          have behind : rows.drop size ≠ [] := by
            rw [← rest.joined, List.flatten_cons]
            exact List.append_ne_nil_of_left_ne_nil
              (rest.filled next List.mem_cons_self) more.flatten
          have long : size < rows.length := by simpa using behind
          rw [here, List.length_take]
          omega
        · exact rest.full chunk later
  bounded := by
    intro chunk member
    rcases List.mem_cons.mp member with here | later
    · rw [here]
      exact List.length_take_le size rows
    · exact rest.bounded chunk later

end Partition

theorem partition_chunks {size : Nat} (positive : 0 < size) (rows : Batch) :
    Partition size rows (chunks size rows) := by
  induction rows using chunks.induct size with
  | case1 rows stop =>
      have empty : rows = [] := by
        rcases stop with empty | zero
        · exact List.isEmpty_iff.mp empty
        · omega
      rw [empty, chunks_nil]
      exact Partition.nil size
  | case2 rows more ih =>
      have left : rows ≠ [] := fun empty => more (Or.inl (by simp [empty]))
      rw [chunks_of_ne_nil positive left]
      exact ih.cons positive left

theorem headColumns_nodup (rows : Batch) : rows.headColumns.Nodup := by
  cases rows with
  | nil => exact List.nodup_nil
  | cons first rest => exact first.columns_nodup

theorem exists_row_of_ne_nil {rows : Batch} (left : rows ≠ []) :
    ∃ row ∈ rows, row.columns = rows.headColumns := by
  cases rows with
  | nil => exact absurd rfl left
  | cons first rest => exact ⟨first, List.mem_cons_self, rfl⟩

theorem uniform_iff_perm {rows : Batch} :
    rows.Uniform ↔
      rows.headColumns ≠ [] ∧
        ∀ row ∈ rows, row.columns.Perm rows.headColumns := by
  have each (row : Row) := row.has_and_only_iff_perm rows.headColumns_nodup
  constructor
  · intro uniform
    refine ⟨uniform.nonempty, fun row member => ?_⟩
    exact (each row).mp ⟨uniform.has row member, uniform.only row member⟩
  · intro same
    obtain ⟨nonempty, perm⟩ := same
    exact ⟨nonempty, fun row member => ((each row).mpr (perm row member)).1,
      fun row member => ((each row).mpr (perm row member)).2⟩

/-- A batch has one set of columns if each of its chunks has, and all of them
the same. -/
theorem Partition.uniform_iff {size : Nat} {rows : Batch} {chunks : List Batch}
    (partition : Partition size rows chunks)
    (nonempty : rows.headColumns ≠ []) :
    rows.Uniform ↔
      ∀ chunk ∈ chunks, chunk.Uniform ∧
        chunk.headColumns.Perm rows.headColumns := by
  rw [uniform_iff_perm]
  constructor
  · intro uniform chunk member
    have inside (row : Row) (present : row ∈ chunk) :
        row.columns.Perm rows.headColumns := by
      refine uniform.2 row ?_
      rw [← partition.joined]
      exact List.mem_flatten_of_mem member present
    obtain ⟨first, present, columns⟩ :=
      exists_row_of_ne_nil (partition.filled chunk member)
    have head : chunk.headColumns.Perm rows.headColumns := columns ▸
      inside first present
    refine ⟨uniform_iff_perm.mpr ⟨?_, fun row present => ?_⟩, head⟩
    · intro empty
      rw [empty] at head
      exact nonempty head.nil_eq.symm
    · exact (inside row present).trans head.symm
  · intro chunkwise
    refine ⟨nonempty, fun row member => ?_⟩
    rw [← partition.joined] at member
    obtain ⟨chunk, isChunk, present⟩ := List.mem_flatten.mp member
    obtain ⟨uniform, head⟩ := chunkwise chunk isChunk
    exact ((uniform_iff_perm.mp uniform).2 row present).trans head

end Batch

end BulkWrite
