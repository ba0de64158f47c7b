import BulkWrite.Proofs.Reading

/-!
Lists of quoted names. They are written name by name, with a comma and a space
between two, and read back the same way. Only a delimiter that is a comma itself
would run into the separators.
-/

namespace BulkWrite.Quoter

variable {quoter : Quoter}

theorem listChars_cons (name : String) (names : List String) :
    quoter.listChars (name :: names) =
      quoter.chars name ++ (names.map quoter.chars).flatMap
        ([',', ' '] ++ ·) := by
  rw [listChars, List.map_cons, intercalate_cons]

/-- Behind the first name each has its separator. -/
theorem toList_foldl_writeListed (names : List String) (index : Nat)
    (text : String) :
    ((names.zipIdx (index + 1)).foldl quoter.writeListed text).toList =
      text.toList ++ (names.map quoter.chars).flatMap ([',', ' '] ++ ·) := by
  induction names generalizing index text with
  | nil => exact (List.append_nil _).symm
  | cons name names ih =>
      rw [List.zipIdx_cons, List.foldl_cons, ih, writeListed,
        if_pos (Nat.succ_pos index)]
      simp

@[simp] theorem toList_quoteList (names : List String) :
    (quoter.quoteList names).toList = quoter.listChars names := by
  cases names with
  | nil => rfl
  | cons name names =>
      rw [quoteList, List.zipIdx_cons, List.foldl_cons,
        toList_foldl_writeListed, listChars_cons]
      simp [writeListed]

theorem quoteList_eq_intercalate (names : List String) :
    quoter.quoteList names = ", ".intercalate (quoter.quoteAll names) := by
  have quoted : String.toList ∘ quoter.quote = quoter.chars :=
    funext quoter.toList_quote
  rw [← String.toList_inj, toList_quoteList, String.toList_intercalate,
    quoteAll, List.map_map, quoted]
  rfl

theorem quoteList_eq_empty_iff {names : List String} :
    quoter.quoteList names = "" ↔ names = [] := by
  rw [← String.toList_inj, toList_quoteList]
  cases names with
  | nil => simp [listChars]
  | cons name names => simp [listChars_cons, chars]

open Reader in
theorem quoteList_injective (separates : quoter.delimiter ≠ ',') :
    Function.Injective quoter.quoteList := by
  intro names others same
  have reads {names : List String} (nonempty : names ≠ []) :
      (commaSeparated (name quoter) : Reader Unit (List String))
        ⟨quoter.listChars names ++ [], [] ++ []⟩ = some (names, ⟨[], []⟩) :=
    reads_names separates nonempty [] [] ⟨notBefore_nil _, notBefore_nil _⟩
  by_cases empty : names = []
  · rw [quoteList_eq_empty_iff.mpr empty, eq_comm,
      quoteList_eq_empty_iff] at same
    rw [empty, same]
  · have filled : others ≠ [] := by
      intro none
      rw [quoteList_eq_empty_iff.mpr none, quoteList_eq_empty_iff] at same
      exact empty same
    have read := reads empty
    rw [← toList_quoteList, same, toList_quoteList, reads filled,
      Option.some_inj] at read
    exact (congrArg Prod.fst read).symm

/-- A name is read off the front of a text just where its quoted form stands
there and ends, so the form determines the name. The form of a list determines
the names as well, unless the comma between them is the delimiter. -/
theorem quoted_forms_determine_names (quoter : Quoter) :
    (∀ (text rest : List Char) (name : String),
      quoter.read? text = some (name, rest) ↔
      text = (quoter.quote name).toList ++ rest ∧
        rest.head? ≠ some quoter.delimiter) ∧
    Function.Injective quoter.quote ∧
    (∀ names, quoter.quoteList names =
      ", ".intercalate (quoter.quoteAll names)) ∧
    (∀ names, quoter.quoteList names = "" ↔ names = []) ∧
    (quoter.delimiter ≠ ',' → Function.Injective quoter.quoteList) := by
  refine ⟨?_, quoter.quote_injective, quoteList_eq_intercalate,
    fun _ => quoteList_eq_empty_iff, quoteList_injective⟩
  intro text rest name
  rw [toList_quote]
  exact read?_eq_some_iff

/-- With blanks for delimiters, the blank of a separator is next to those of the
names. -/
theorem quoted_forms_determine_names_between_blanks :
    let quoter : Quoter := ⟨' '⟩
    quoter.delimiter ≠ ',' ∧ quoter.quoteList [" a", ""] = "   a ,   " ∧
      quoter.read? "   a ,   ".toList = some (" a", ",   ".toList) ∧
        ∀ names, quoter.quoteList names = "   a ,   " → names = [" a", ""] := by
  intro quoter
  have separates : quoter.delimiter ≠ ',' := by decide
  have written : quoter.quoteList [" a", ""] = "   a ,   " := by decide
  obtain ⟨reads, -, -, -, determined⟩ := quoted_forms_determine_names quoter
  refine ⟨separates, written, (reads _ _ _).mpr ⟨by decide, by decide⟩,
    fun names same => ?_⟩
  exact determined separates (same.trans written.symm)

end BulkWrite.Quoter
