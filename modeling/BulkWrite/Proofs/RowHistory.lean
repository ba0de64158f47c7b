import BulkWrite.Row
import Mathlib.Data.Finset.Card
import Mathlib.Data.List.Induction

/-!
Rows and the values put into them. Of each column a row shows the last value
that was put into it, and its columns stand in the order in which each was first
given one.
-/

namespace BulkWrite

/-- The items without repetitions, in the order in which they first come. -/
structure FirstSeen (items distinct : List String) : Prop where
  same : ∀ item, item ∈ distinct ↔ item ∈ items
  ordered : distinct.Pairwise fun earlier later => items.idxOf earlier <
    items.idxOf later

theorem eraseDups_append_singleton (items : List String) (item : String) :
    (items ++ [item]).eraseDups =
      if item ∈ items then items.eraseDups else items.eraseDups ++ [item] := by
  rw [List.eraseDups_append]
  by_cases member : item ∈ items
  · simp [List.removeAll, member]
  · simp [List.removeAll, List.eraseDups_cons, member]

theorem firstSeen_eraseDups (items : List String) :
    FirstSeen items items.eraseDups where
  same := fun _ => List.mem_eraseDups
  ordered := by
    -- A further item does not move the place at which an earlier one first
    -- comes.
    induction items using List.reverseRecOn with
    | nil => exact List.Pairwise.nil
    | append_singleton items item ih =>
        have before : items.eraseDups.Pairwise fun earlier later =>
            (items ++ [item]).idxOf earlier <
                (items ++ [item]).idxOf later := by
          refine ih.imp_of_mem ?_
          intro earlier later earlierMember laterMember less
          rwa [List.idxOf_append_of_mem (List.mem_eraseDups.mp earlierMember),
            List.idxOf_append_of_mem (List.mem_eraseDups.mp laterMember)]
        rw [eraseDups_append_singleton]
        split
        next => exact before
        next absent =>
          refine List.pairwise_append.mpr ⟨before, List.pairwise_singleton _ _,
            ?_⟩
          intro earlier earlierMember later laterMember
          have member := List.mem_eraseDups.mp earlierMember
          rw [List.mem_singleton.mp laterMember,
            List.idxOf_append_of_mem member, List.idxOf_append_of_notMem absent]
          exact Nat.lt_add_right _ (List.idxOf_lt_length_iff.mpr member)

namespace Row

/-- A value for a column, put in with or without an answer. -/
inductive Put where
  | silent (entry : Entry)
  | answered (entry : Entry)

def Put.entry : Put → Entry
  | .silent entry => entry
  | .answered entry => entry

def put (row : Row) : Put → Row
  | .silent entry => row.insert entry.1 entry.2
  | .answered entry => (row.replace entry.1 entry.2).2

theorem put_eq_insert (row : Row) (step : Put) :
    row.put step = row.insert step.entry.1 step.entry.2 := by
  cases step with
  | silent entry => rfl
  | answered entry => exact congrArg Prod.snd (row.replace_eq entry.1 entry.2)

theorem getElem?_insertEntry_of_ne {column : String} {entry : Entry}
    (other : entry.1 ≠ column) (value : Value) (entries : List Entry)
    (index : Nat) :
    (insertEntry column value entries)[index]? = some entry ↔
      entries[index]? = some entry := by
  have new : (column, value) ≠ entry :=
    fun same => other (congrArg Prod.fst same).symm
  induction entries generalizing index with
  | nil =>
      cases index with
      | zero => simpa [insertEntry] using new
      | succ index => rfl
  | cons head rest ih =>
      rw [insertEntry]
      split
      next same =>
        have old : head ≠ entry :=
          fun found => other (same.trans (congrArg Prod.fst found)).symm
        cases index with
        | zero => simp [new, old]
        | succ index => rfl
      next =>
        cases index with
        | zero => rfl
        | succ index => exact ih index

theorem getElem?_put_of_ne (row : Row) {step : Put} {entry : Entry}
    (other : entry.1 ≠ step.entry.1) (index : Nat) :
    (row.put step).entries[index]? = some entry ↔
      row.entries[index]? = some entry := by
  rw [put_eq_insert]
  exact getElem?_insertEntry_of_ne other step.entry.2 row.entries index

theorem entries_insert_of_not_mem (row : Row) {column : String} (value : Value)
    (absent : column ∉ row.columns) :
    (row.insert column value).entries = row.entries ++ [(column, value)] := by
  obtain ⟨entries, nodup⟩ := row
  change column ∉ entries.map Prod.fst at absent
  change insertEntry column value entries = entries ++ [(column, value)]
  clear nodup
  induction entries with
  | nil => rfl
  | cons head rest ih =>
      rw [List.map_cons, List.mem_cons, not_or] at absent
      rw [insertEntry, if_neg absent.1, ih absent.2]
      rfl

def putAll (row : Row) (steps : List Put) : Row := steps.foldl put row

theorem putAll_empty (steps : List Put) :
    putAll empty steps = ofList (steps.map Put.entry) := by
  rw [putAll, ofList, List.foldl_map]
  congr
  funext row step
  exact row.put_eq_insert step

theorem ofList_append_singleton (entries : List Entry) (entry : Entry) :
    ofList (entries ++ [entry]) = (ofList entries).insert entry.1 entry.2 :=
  List.foldl_concat _ _ _ _

theorem columns_ofList (entries : List Entry) :
    (ofList entries).columns = (entries.map Prod.fst).eraseDups := by
  induction entries using List.reverseRecOn with
  | nil => rfl
  | append_singleton entries entry ih =>
      rw [ofList_append_singleton, List.map_append, List.map_singleton,
        eraseDups_append_singleton]
      have present : entry.1 ∈ (ofList entries).columns ↔
          entry.1 ∈ entries.map Prod.fst := by
        rw [ih, List.mem_eraseDups]
      split
      next member => rw [columns_insert_of_mem _ _ (present.mpr member), ih]
      next absent => rw [columns_insert_of_not_mem _ _ (mt present.mp absent),
        ih]

theorem get?_ofList (entries : List Entry) (column : String) :
    (ofList entries).get? column = entries.reverse.lookup column := by
  induction entries using List.reverseRecOn with
  | nil => rfl
  | append_singleton entries entry ih =>
      rw [ofList_append_singleton, get?_insert, List.reverse_append,
        List.reverse_singleton, List.singleton_append, ih]
      obtain ⟨name, value⟩ := entry
      by_cases same : column = name
      · simp [same]
      · simp [List.lookup_cons, beq_false_of_ne same, same]

theorem entries_ofList_of_nodup (entries : List Entry)
    (nodup : (entries.map Prod.fst).Nodup) :
    (ofList entries).entries = entries := by
  induction entries using List.reverseRecOn with
  | nil => rfl
  | append_singleton entries entry ih =>
      rw [List.map_append, List.nodup_append] at nodup
      have kept := ih nodup.1
      have absent : entry.1 ∉ (ofList entries).columns := by
        intro member
        rw [columns, kept] at member
        exact nodup.2.2 entry.1 member entry.1 (List.mem_singleton_self _) rfl
      rw [ofList_append_singleton, entries_insert_of_not_mem _ _ absent, kept]

theorem ofList_entries (row : Row) : ofList row.entries = row :=
  ext (entries_ofList_of_nodup row.entries row.nodup)

/-- The value is the last of those given to the column. -/
def LastGiven (entries : List Entry) (column : String) (value : Value) : Prop :=
  ∃ before after, entries = before ++ (column, value) :: after ∧
    ∀ entry ∈ after, entry.1 ≠ column

theorem get?_ofList_eq_some_iff {entries : List Entry} {column : String}
    {value : Value} :
    (ofList entries).get? column = some value ↔
      LastGiven entries column value := by
  rw [get?_ofList, List.lookup_eq_some_iff]
  constructor
  · intro found
    obtain ⟨later, earlier, joined, others⟩ := found
    refine ⟨earlier.reverse, later.reverse, ?_, ?_⟩
    · rw [← List.reverse_inj, joined]
      simp
    · intro entry member same
      exact bne_iff_ne.mp (others entry (List.mem_reverse.mp member)) same.symm
  · intro last
    obtain ⟨before, after, rfl, others⟩ := last
    refine ⟨after.reverse, before.reverse, by simp, ?_⟩
    intro entry member
    exact bne_iff_ne.mpr (others entry (List.mem_reverse.mp member)).symm

structure Shows (row : Row) (entries : List Entry) : Prop where
  columns : FirstSeen (entries.map Prod.fst) row.columns
  distinct : row.columns.Nodup
  value : ∀ column value, row.get? column = some value ↔
    LastGiven entries column value
  missing : ∀ column, row.get? column = none ↔ column ∉ entries.map Prod.fst
  present : ∀ column, row.contains column = (row.get? column).isSome
  size : row.size = (entries.map Prod.fst).toFinset.card

theorem shows_ofList (entries : List Entry) :
    (ofList entries).Shows entries where
  columns := by
    rw [columns_ofList]
    exact firstSeen_eraseDups _
  distinct := columns_nodup _
  value _ _ := get?_ofList_eq_some_iff
  missing column := by
    rw [← Option.not_isSome_iff_eq_none, isSome_get?, contains_iff_mem,
      columns_ofList, List.mem_eraseDups]
  present column := (isSome_get? _ column).symm
  size := by
    have same : (ofList entries).columns.toFinset =
        (entries.map Prod.fst).toFinset := by
      ext column
      rw [List.mem_toFinset, List.mem_toFinset, columns_ofList,
        List.mem_eraseDups]
    rw [← same, List.toFinset_card_of_nodup (columns_nodup _), Row.columns,
      List.length_map, Row.size]

/-- Whichever way values are put in, a row shows the last one of each column,
and the columns in the order of their first ones. A further value is answered
with the one before it and leaves the entries of other columns where they are.
The entries of a row give the row again. -/
theorem shows_last_values_in_first_order (steps : List Put) :
    let row := putAll empty steps
    row = ofList (steps.map Put.entry) ∧ row.Shows (steps.map Put.entry) ∧
      (∀ column value, (row.replace column value).1 = row.get? column) ∧
      (∀ (step : Put) (index : Nat) (entry : Entry), entry.1 ≠ step.entry.1 →
        ((row.put step).entries[index]? = some entry ↔
          row.entries[index]? = some entry)) ∧
      (ofList row.entries).entries = row.entries := by
  intro row
  have collected : row = ofList (steps.map Put.entry) := putAll_empty steps
  refine ⟨collected, ?_, ?_, ?_, ?_⟩
  · rw [collected]
    exact shows_ofList _
  · intro column value
    rw [replace_eq]
  · intro step index entry other
    exact row.getElem?_put_of_ne other index
  · rw [ofList_entries]

/-- A null put in last hides the value before it, and the column keeps its
place. -/
theorem shows_last_values_in_first_order_with_null :
    let steps : List Put :=
      [.answered ("id", .int 7), .silent ("name", .text "seven"),
      .answered ("id", .null)]
    let row := putAll empty steps
    row.entries = [("id", .null), ("name", .text "seven")] ∧
      (row.replace "id" (.int 8)).1 = some .null ∧
        (row.put (.silent ("id", .int 8))).entries[1]? =
          some ("name", .text "seven") := by
  intro steps row
  obtain ⟨-, shows, answers, keeps, -⟩ := shows_last_values_in_first_order steps
  have last : LastGiven (steps.map Put.entry) "id" .null :=
    ⟨[("id", .int 7), ("name", .text "seven")], [], rfl, nofun⟩
  refine ⟨rfl, (answers "id" (.int 8)).trans
    ((shows.value "id" .null).mpr last), ?_⟩
  exact (keeps (.silent ("id", .int 8)) 1 ("name", .text "seven")
    (by decide)).mpr rfl

end Row

end BulkWrite
