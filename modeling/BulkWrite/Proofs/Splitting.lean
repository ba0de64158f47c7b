import BulkWrite.Proofs.Chunks
import BulkWrite.Proofs.Correspondence
import Mathlib.Data.List.Forall2

/-!
Insertion of a batch chunk by chunk. For a batch with one set of columns the
statements of the chunks say together what the one statement of the batch says,
each in an order of the columns of its own. For any other batch the chunks can
pass the checks that the batch fails, and a chunk whose rows are wider than the
first row of the batch can bind more than the limit.
-/

namespace BulkWrite

/-- Two lists of entries are one finite map: no column comes twice, and the
entries are the same in some order. -/
structure SameMap {α : Type} (first second : List (String × α)) : Prop where
  distinct : (first.map Prod.fst).Nodup
  same : first.Perm second

namespace Command

variable {α : Type}

def columns : Command α → List String
  | .insert _ _ columns _ _ => columns
  | _ => []

/-- The rows that a command inserts, each as contents by column. -/
def records : Command α → List (List (String × α))
  | .insert _ _ columns rows _ => rows.map (columns.zip ·)
  | _ => []

end Command

namespace Row

def record (row : Row) (types : ColumnTypes) (columns : List String) :
    List (String × Binding) :=
  columns.map fun column => (column, ⟨row.valueOf column, types.get? column⟩)

theorem zip_bindings (row : Row) (types : ColumnTypes) (columns : List String) :
    columns.zip (row.bindings types columns) = row.record types columns := by
  rw [bindings, record, List.map_prod_left_eq_zip]

theorem sameMap_record (row : Row) (types : ColumnTypes)
    {first second : List String} (distinct : first.Nodup)
    (perm : first.Perm second) :
    SameMap (row.record types first) (row.record types second) where
  distinct := by
    rw [record, List.map_map]
    exact (List.map_id first).symm ▸ distinct
  same := perm.map _

end Row

namespace Operation

theorem records_command (rows : Batch) (types : ColumnTypes) (table : String) :
    ((insert rows types).command table).records =
      rows.map fun row => row.record types rows.headColumns := by
  rw [command, Command.records, Batch.rowValues, List.map_map]
  exact List.map_congr_left fun row _ => row.zip_bindings types rows.headColumns

end Operation

namespace TableStatement

/-- The statement that inserts the rows, and is like this one in all else. -/
def inserting (statement : TableStatement) (types : ColumnTypes)
    (rows : Batch) : TableStatement :=
  { statement with operation := .insert rows types }

variable {statement : TableStatement} {types : ColumnTypes} {rows : Batch}
    {query : Query}

theorem exists_build_inserting :
    (∃ query, (statement.inserting types rows).build = .ok query) ↔
      rows.Uniform := by
  constructor
  · intro succeeds
    obtain ⟨query, built⟩ := succeeds
    exact (build_eq_ok.mp built).1
  · intro uniform
    exact ⟨_, build_eq_ok.mpr ⟨uniform, rfl⟩⟩

theorem length_params_inserting
    (built : (statement.inserting types rows).build = .ok query) :
    query.params.length = rows.length * rows.headColumns.length := by
  obtain ⟨-, isQuery⟩ := build_eq_ok.mp built
  rw [isQuery, Template.toQuery, Template.params, List.length_map, inserting,
    Operation.template, Operation.bindings_insertTemplate,
    Batch.length_flatten_rowValues]

variable {max : Nat} {chunks : List Batch}

theorem partition_of_split (split : rows.split max = .ok chunks) :
    0 < rows.headColumns.length ∧ 0 < max / rows.headColumns.length ∧
      Batch.Partition (max / rows.headColumns.length) rows chunks := by
  obtain ⟨nonempty, fits, areChunks⟩ := Batch.split_eq_ok.mp split
  have width : 0 < rows.headColumns.length := List.length_pos_iff.mpr nonempty
  have size : 0 < max / rows.headColumns.length := Nat.div_pos fits width
  exact ⟨width, size, areChunks ▸ Batch.partition_chunks size rows⟩

/-- What a chunk binds, and what it takes for the chunks to pass only if the
batch does. Sizes are reckoned with the first row of the batch: a chunk keeps
the limit if its own first row is no wider, and the batch passes if the chunks
do and their first rows have the columns of the batch. -/
theorem split_sound_of_same_columns (split : rows.split max = .ok chunks) :
    (∀ chunk ∈ chunks, ∀ query,
      (statement.inserting types chunk).build = .ok query →
      query.params.length = chunk.length * chunk.headColumns.length ∧
        (chunk.headColumns.length ≤ rows.headColumns.length →
          query.params.length ≤ max)) ∧
    ((∃ query, (statement.inserting types rows).build = .ok query) ↔
      ∀ chunk ∈ chunks,
        (∃ query, (statement.inserting types chunk).build = .ok query) ∧
        chunk.headColumns.Perm rows.headColumns) := by
  obtain ⟨width, -, partition⟩ := partition_of_split split
  constructor
  · intro chunk member query built
    have length := length_params_inserting built
    refine ⟨length, fun narrow => ?_⟩
    calc
      query.params.length = chunk.length * chunk.headColumns.length := length
      _ ≤ max / rows.headColumns.length * rows.headColumns.length :=
          Nat.mul_le_mul (partition.bounded chunk member) narrow
      _ ≤ max := Nat.div_mul_le_self max rows.headColumns.length
  · simp only [exists_build_inserting]
    exact partition.uniform_iff (List.length_pos_iff.mp width)

/-- Rows that name the same columns in another order are no wider, also at the
head of a chunk. -/
theorem split_sound_of_same_columns_reordered :
    let rows : Batch := [Row.ofList [("id", .int 1), ("name", .text "first")],
      Row.ofList [("id", .int 2), ("name", .text "second")],
      Row.ofList [("name", .text "third"), ("id", .int 3)]]
    let statement : TableStatement :=
      { table := "users", operation := .insert rows {} }
    ∃ chunks, rows.split 5 = .ok chunks ∧ chunks.map List.length = [2, 1] ∧
      ∀ chunk ∈ chunks, ∃ query,
        (statement.inserting {} chunk).build = .ok query ∧
        query.params.length ≤ 5 := by
  intro rows statement
  have width : rows.headColumns.length = 2 := rfl
  have split : rows.split 5 = .ok [rows.take 2, rows.drop 2] := by
    refine Batch.split_eq_ok.mpr ⟨by decide, by decide, ?_⟩
    rw [width]
    simp [rows, Batch.chunks_of_ne_nil, Batch.chunks_nil]
  obtain ⟨limited, passes⟩ := split_sound_of_same_columns split
  refine ⟨_, split, rfl, fun chunk member => ?_⟩
  obtain ⟨⟨query, built⟩, columns⟩ := passes.mp ⟨_, rfl⟩ chunk member
  exact ⟨query, built, (limited chunk member query built).2
    columns.length_eq.le⟩

/-- A wider row behind a chunk's end passes, though the batch fails for it and
it breaks the limit. -/
theorem split_admits_ragged_batch :
    let rows : Batch := [Row.ofList [("id", .int 1)],
      Row.ofList [("id", .int 2), ("name", .text "second")]]
    let statement : TableStatement :=
      { table := "users", operation := .insert rows {} }
    ∃ chunks, rows.split 1 = .ok chunks ∧
      (∀ chunk ∈ chunks, ∃ query,
        (statement.inserting {} chunk).build = .ok query) ∧
        (∃ chunk ∈ chunks, ∃ query,
          (statement.inserting {} chunk).build = .ok query ∧
          1 < query.params.length) ∧
          (statement.inserting {} rows).build =
            .error (.unexpectedColumn 1 "name") := by
  intro rows statement
  have split : rows.split 1 = .ok [rows.take 1, rows.drop 1] := by
    refine Batch.split_eq_ok.mpr ⟨by decide, by decide, ?_⟩
    have width : rows.headColumns.length = 1 := rfl
    rw [width]
    simp [rows, Batch.chunks_of_ne_nil, Batch.chunks_nil]
  refine ⟨_, split, ?_, ⟨rows.drop 1, by simp, _, rfl, by decide⟩, rfl⟩
  intro chunk member
  rcases List.mem_pair.mp member with first | second
  · exact first ▸ ⟨_, rfl⟩
  · exact second ▸ ⟨_, rfl⟩

theorem sameMap_records_of_partition {size : Nat}
    (partition : Batch.Partition size rows chunks) (uniform : rows.Uniform)
    (types : ColumnTypes) (table : String) :
    List.Forall₂ SameMap
      ((chunks.map fun chunk =>
        (Operation.insert chunk types).command table).flatMap Command.records)
      ((Operation.insert rows types).command table).records := by
  have chunkwise := (partition.uniform_iff uniform.nonempty).mp uniform
  have whole : ((Operation.insert rows types).command table).records =
      (chunks.map fun chunk =>
        chunk.map fun row => row.record types rows.headColumns).flatten := by
    rw [Operation.records_command, ← List.map_flatten, partition.joined]
  have pieces :
      (chunks.map fun chunk =>
        (Operation.insert chunk types).command table).flatMap Command.records =
        (chunks.map fun chunk =>
          chunk.map fun row => row.record types chunk.headColumns).flatten := by
    rw [List.flatMap_def, List.map_map]
    exact congrArg List.flatten (List.map_congr_left fun chunk _ =>
      Operation.records_command chunk types table)
  rw [whole, pieces]
  apply List.rel_flatten
  rw [List.forall₂_map_left_iff, List.forall₂_map_right_iff, List.forall₂_same]
  intro chunk member
  rw [List.forall₂_map_left_iff, List.forall₂_map_right_iff, List.forall₂_same]
  intro row _
  exact row.sameMap_record types chunk.headColumns_nodup
    (chunkwise chunk member).2

/-- A split fails for one of three reasons, in this order, and otherwise cuts
the batch into full chunks. For a batch that can be inserted whole, the
statements of the chunks insert the same records, each with the columns in an
order of its own. -/
theorem split_partitions_and_keeps_records (statement : TableStatement)
    (types : ColumnTypes) (rows : Batch) (max : Nat) :
    (rows.split max = .error .emptyRows ↔ rows = []) ∧
    (rows.split max = .error .invalidFirstRow ↔
      rows ≠ [] ∧ rows.headColumns = []) ∧
    (∀ width limit, rows.split max = .error (.tooManyColumns width limit) ↔
      rows.headColumns ≠ [] ∧ width = rows.headColumns.length ∧ limit = max ∧
        max < width) ∧
    ((∃ chunks, rows.split max = .ok chunks) ↔
      rows.headColumns ≠ [] ∧ rows.headColumns.length ≤ max) ∧
    (∀ chunks, rows.split max = .ok chunks →
      0 < rows.headColumns.length ∧ 0 < max / rows.headColumns.length ∧
        Batch.Partition (max / rows.headColumns.length) rows chunks) ∧
    ∀ query, (statement.inserting types rows).build = .ok query →
      rows.headColumns.length ≤ max →
        ∃ chunks whole parts, rows.split max = .ok chunks ∧
          query.Spells statement.quoter whole ∧
            whole.columns = rows.headColumns ∧
            whole.records.length = rows.length ∧
              List.Forall₂ (fun chunk part => ∃ chunkQuery,
                (statement.inserting types chunk).build = .ok chunkQuery ∧
                  chunkQuery.Spells statement.quoter part ∧
                    part.columns.Perm whole.columns) chunks parts ∧
                List.Forall₂ SameMap (parts.flatMap Command.records)
                  whole.records := by
  refine ⟨?_, ?_, ?_, ?_, fun chunks => partition_of_split, ?_⟩
  · simp [Batch.split_eq_error, Batch.columns_eq_error]
  · simp [Batch.split_eq_error, Batch.columns_eq_error]
  · intro width limit
    simp only [Batch.split_eq_error, Batch.columns_eq_error, reduceCtorEq,
      and_false, or_false, false_or, ValidationError.tooManyColumns.injEq]
    constructor
    · intro wide
      obtain ⟨nonempty, less, sameWidth, sameMax⟩ := wide
      exact ⟨nonempty, sameWidth.symm, sameMax.symm, sameWidth ▸ less⟩
    · intro wide
      obtain ⟨nonempty, sameWidth, sameMax, less⟩ := wide
      exact ⟨nonempty, sameWidth ▸ less, sameWidth.symm, sameMax.symm⟩
  · simp [Batch.split_eq_ok]
  · intro query built fits
    have uniform : rows.Uniform := exists_build_inserting.mp ⟨query, built⟩
    have split : rows.split max =
        .ok (rows.chunks (max / rows.headColumns.length)) :=
      Batch.split_eq_ok.mpr ⟨uniform.nonempty, fits, rfl⟩
    obtain ⟨-, -, partition⟩ := partition_of_split split
    have chunkwise := (partition.uniform_iff uniform.nonempty).mp uniform
    refine ⟨_, (Operation.insert rows types).command statement.table, _, split,
      build_spells built, rfl, ?_, ?_,
      sameMap_records_of_partition partition uniform types statement.table⟩
    · rw [Operation.records_command, List.length_map]
    · rw [List.forall₂_map_right_iff, List.forall₂_same]
      intro chunk member
      obtain ⟨chunkUniform, perm⟩ := chunkwise chunk member
      obtain ⟨chunkQuery, chunkBuilt⟩ :
          ∃ query, (statement.inserting types chunk).build = .ok query :=
        exists_build_inserting.mpr chunkUniform
      exact ⟨chunkQuery, chunkBuilt, build_spells chunkBuilt, perm⟩

/-- The second chunk has the columns the other way round and says its record all
the same. -/
theorem split_partitions_and_keeps_records_reordered :
    let types : ColumnTypes := ⟨[("id", .integer)]⟩
    let rows : Batch := [Row.ofList [("id", .int 1), ("name", .null)],
      Row.ofList [("name", .text "second"), ("id", .int 2)]]
    let statement : TableStatement :=
      { table := "users", operation := .insert rows types }
    rows.headColumns.length ≤ 3 ∧
      ∃ (query : Query) (chunks : List Batch) (whole : Command Binding)
        (parts : List (Command Binding)),
          (statement.inserting types rows).build = .ok query ∧
          rows.split 3 = .ok chunks ∧ query.Spells statement.quoter whole ∧
            whole.records.length = 2 ∧
              List.Forall₂ SameMap (parts.flatMap Command.records)
                whole.records := by
  intro types rows statement
  have fits : rows.headColumns.length ≤ 3 := by decide
  obtain ⟨-, -, -, -, -, kept⟩ :=
    split_partitions_and_keeps_records statement types rows 3
  obtain ⟨chunks, whole, parts, split, spelt, -, count, -, same⟩ :=
    kept _ rfl fits
  exact ⟨fits, _, chunks, whole, parts, rfl, split, spelt, count, same⟩

end TableStatement

end BulkWrite
