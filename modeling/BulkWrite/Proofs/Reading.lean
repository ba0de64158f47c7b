import BulkWrite.Proofs.Quoting
import BulkWrite.Text.Digits
import Mathlib.Data.List.TakeWhile

/-!
Readers of SQL text. The input is a text with the contents of its placeholders
still to come; a reader takes a value off its front, and each placeholder takes
the next of the contents.
-/

namespace BulkWrite

structure Input (α : Type) where
  text : List Char
  contents : List α

abbrev Reader (α β : Type) := StateT (Input α) Option β

namespace Reader

variable {α β γ : Type}

/-- The reader takes exactly the text and the contents of a value off the front
of every input whose further text may follow. -/
def Reads (reader : Reader α β) (value : β) (text : List Char)
    (contents : List α) (Follows : List Char → Prop) : Prop :=
  ∀ rest more, Follows rest →
    reader ⟨text ++ rest, contents ++ more⟩ = some (value, ⟨rest, more⟩)

/-- The text does not go on with the character. -/
def NotBefore (c : Char) (rest : List Char) : Prop := rest.head? ≠ some c

theorem notBefore_nil (c : Char) : NotBefore c [] := nofun

theorem notBefore_cons {c other : Char} (different : c ≠ other)
    (rest : List Char) :
    NotBefore c (other :: rest) :=
  fun same => different (Option.some.inj same).symm

section

variable {reader : Reader α β} {value : β} {text : List Char}
    {contents : List α}
  {Follows Narrower : List Char → Prop}

theorem Reads.narrow (reads : Reads reader value text contents Follows)
    (implies : ∀ rest, Narrower rest → Follows rest) :
    Reads reader value text contents Narrower :=
  fun rest more follows => reads rest more (implies rest follows)

theorem Reads.bind {next : β → Reader α γ} {result : γ} {text' : List Char}
    {contents' : List α} {Follows' : List Char → Prop}
    (first : Reads reader value text contents Follows)
    (second : Reads (next value) result text' contents' Follows')
    (continues : ∀ rest, Follows' rest → Follows (text' ++ rest)) :
    Reads (reader >>= next) result (text ++ text')
      (contents ++ contents') Follows' := by
  intro rest more follows
  rw [List.append_assoc, List.append_assoc]
  have here := first (text' ++ rest) (contents' ++ more)
    (continues rest follows)
  change (reader ⟨text ++ (text' ++ rest), contents ++
    (contents' ++ more)⟩).bind
    (fun read => next read.1 read.2) = some (result, ⟨rest, more⟩)
  rw [here]
  exact second rest more follows

theorem reads_pure (value : β) :
    Reads (pure value : Reader α β) value [] [] Follows :=
  fun _ _ _ => rfl

/-- The last step of a reader returns what has been read. -/
theorem Reads.bind_pure {next : β → Reader α γ} {result : γ}
    (reads : Reads reader value text contents Follows)
    (returns : next value = pure result) :
    Reads (reader >>= next) result text contents Follows := by
  have together : Reads (reader >>= next) result (text ++ [])
      (contents ++ []) Follows :=
    reads.bind (returns ▸ reads_pure result) fun _ follows => follows
  rwa [List.append_nil, List.append_nil] at together

/-- The first alternative counts where it reads. -/
theorem Reads.orElse {other : Reader α β}
    (reads : Reads reader value text contents Follows) :
    Reads (reader <|> other) value text contents Follows := by
  intro rest more follows
  change ((reader _).orElse fun _ => other _) = _
  rw [reads rest more follows]
  rfl

theorem Reads.orElse_of_none {other : Reader α β}
    (reads : Reads reader value text contents Follows)
    (fails : ∀ rest more, Follows rest →
      other ⟨text ++ rest, contents ++ more⟩ = none) :
    Reads (other <|> reader) value text contents Follows := by
  intro rest more follows
  change ((other _).orElse fun _ => reader _) = _
  rw [fails rest more follows]
  exact reads rest more follows

end

def expect (expected : String) : Reader α Unit := fun input =>
  (expected.toList.isPrefixOf? input.text).map fun rest =>
    ((), { input with text := rest })

theorem isPrefixOf?_append (expected rest : List Char) :
    expected.isPrefixOf? (expected ++ rest) = some rest := by
  induction expected with
  | nil => rfl
  | cons c expected ih =>
      change (if c == c then expected.isPrefixOf?
        (expected ++ rest) else none) = some rest
      rw [if_pos (beq_self_eq_true c), ih]

theorem reads_expect (expected : String) :
    Reads (expect expected : Reader α Unit) () expected.toList
      [] fun _ => True := by
  intro rest more _
  simp [expect, isPrefixOf?_append]

theorem reads_expect_bind {expected : String} {next : Unit → Reader α γ}
    {result : γ} {text : List Char} {contents : List α}
    {Follows : List Char → Prop}
    (second : Reads (next ()) result text contents Follows) :
    Reads (expect expected >>= next) result
      (expected.toList ++ text) contents Follows :=
  (reads_expect expected).bind second fun _ _ => trivial

theorem expect_bind_eq_none {expected : String} {next : Unit → Reader α γ}
    {input : Input α} (differs : expected.toList.isPrefixOf? input.text =
      none) :
    (expect expected >>= next) input = none := by
  change ((expect expected) input).bind (fun read => next read.1 read.2) = none
  rw [expect, differs]
  rfl

def name (quoter : Quoter) : Reader α String := fun input =>
  (quoter.read? input.text).map fun read =>
    (read.1, { input with text := read.2 })

theorem reads_name (quoter : Quoter) (column : String) :
    Reads (name quoter : Reader α String) column (quoter.chars column) []
      (NotBefore quoter.delimiter) := by
  intro rest more ends
  simp [name, quoter.read?_chars_append column ends]

/-- A placeholder, with its content for value. -/
def hole : Reader α α := fun input =>
  match input with
  | ⟨'?' :: text, content :: contents⟩ => some (content, ⟨text, contents⟩)
  | _ => none

theorem reads_hole (content : α) :
    Reads hole content ['?'] [content] fun _ => True :=
  fun _ _ _ => rfl

/-- All the digits that the text begins with. -/
def number : Reader α Nat := fun input =>
  let digits := input.text.takeWhile Char.isDigit
  if digits = [] then none
  else some (Text.decimalValue digits,
    { input with text := input.text.dropWhile Char.isDigit })

theorem reads_number (n : Nat) :
    Reads (number : Reader α Nat) n (Nat.toDigits 10 n)
    [] fun rest => rest = [] := by
  rintro rest more rfl
  have digits : ∀ c ∈ Nat.toDigits 10 n, c.isDigit = true :=
    fun c member => Nat.isDigit_of_mem_toDigits (by decide) (by decide) member
  have taken : (Nat.toDigits 10 n).takeWhile Char.isDigit = Nat.toDigits 10 n :=
    List.takeWhile_eq_self_iff.mpr digits
  have dropped : (Nat.toDigits 10 n).dropWhile Char.isDigit = [] :=
    List.dropWhile_eq_nil_iff.mpr digits
  simp [number, taken, dropped, Nat.toDigits_ne_nil, Text.decimalValue_toDigits]

def parenthesised (reader : Reader α β) : Reader α β := do
  expect "("
  let value ← reader
  expect ")"
  return value

theorem reads_parenthesised {reader : Reader α β} {value : β} {text : List Char}
    {contents : List α} {Follows : List Char → Prop}
    (reads : Reads reader value text contents Follows)
    (closes : ∀ rest, Follows (')' :: rest)) :
    Reads (parenthesised reader) value
      ("(".toList ++ (text ++ ")".toList)) contents
      fun _ => True := by
  have closing : Reads (expect ")" >>= fun _ => pure value : Reader α β) value
      ")".toList []
      fun _ => True := (reads_expect ")").bind_pure rfl
  rw [← List.append_nil contents]
  apply reads_expect_bind
  exact reads.bind closing fun rest _ => closes rest

/-- Reads as often as the reader can and takes text away. -/
def manyFrom (reader : Reader α β) (input : Input α) : List β × Input α :=
  match reader input with
  | none => ([], input)
  | some (value, rest) =>
      if rest.text.length < input.text.length then
        let (values, last) := manyFrom reader rest
        (value :: values, last)
      else ([], input)
termination_by input.text.length

def many (reader : Reader α β) : Reader α (List β) :=
  fun input => some (manyFrom reader input)

theorem manyFrom_of_none {reader : Reader α β} {input : Input α}
    (stops : reader input = none) :
    manyFrom reader input = ([], input) := by
  rw [manyFrom, stops]

theorem manyFrom_of_some {reader : Reader α β}
    {input rest : Input α} {value : β}
    (read : reader input = some (value, rest))
    (shorter : rest.text.length < input.text.length) :
    manyFrom reader input =
      (value :: (manyFrom reader rest).1, (manyFrom reader rest).2) := by
  rw [manyFrom, read]
  simp [shorter]

theorem reads_many {reader : Reader α β} {values : List β}
    {text : β → List Char} {contents : β → List α} {Follows : List Char → Prop}
    (each : ∀ value ∈ values,
      Reads reader value (text value) (contents value) Follows)
    (nonempty : ∀ value ∈ values, text value ≠ [])
    (between : ∀ value ∈ values, ∀ rest, Follows (text value ++ rest)) :
    Reads (many reader) values (values.flatMap text) (values.flatMap contents)
      fun rest => Follows rest ∧ ∀ more, reader ⟨rest, more⟩ = none := by
  rintro rest more ⟨follows, stops⟩
  suffices manyFrom reader ⟨values.flatMap text ++ rest,
      values.flatMap contents ++ more⟩ =
      (values, ⟨rest, more⟩) from congrArg some this
  induction values with
  | nil => exact manyFrom_of_none (stops more)
  | cons value values ih =>
      have later :=
        ih (fun value member => each value (List.mem_cons_of_mem _ member))
        (fun value member => nonempty value (List.mem_cons_of_mem _ member))
        (fun value member => between value (List.mem_cons_of_mem _ member))
      have continues : Follows (values.flatMap text ++ rest) := by
        cases values with
        | nil => exact follows
        | cons next values =>
            rw [List.flatMap_cons, List.append_assoc]
            exact between next (by simp) _
      have read := each value List.mem_cons_self (values.flatMap text ++ rest)
        (values.flatMap contents ++ more) continues
      have shorter : (values.flatMap text ++ rest).length <
          (text value ++ (values.flatMap text ++ rest)).length := by
        have positive :=
          List.length_pos_iff.mpr (nonempty value List.mem_cons_self)
        simp only [List.length_append]
        omega
      rw [List.flatMap_cons, List.append_assoc, List.flatMap_cons,
        List.append_assoc, manyFrom_of_some read shorter, later]

/-- One or more, with a comma and a space between them. -/
def commaSeparated (reader : Reader α β) : Reader α (List β) := do
  let first ← reader
  let rest ← many do
    expect ", "
    reader
  return first :: rest

theorem reads_commaSeparated {reader : Reader α β} {values : List β}
    {text : β → List Char} {contents : β → List α} {Follows : List Char → Prop}
    (nonempty : values ≠ [])
    (each : ∀ value ∈ values,
      Reads reader value (text value) (contents value) Follows) (comma :
        ∀ rest, Follows (',' :: rest)) :
    Reads (commaSeparated reader) values
      ([',', ' '].intercalate (values.map text))
        (values.flatMap contents) fun rest => Follows rest ∧
          NotBefore ',' rest := by
  cases values with
  | nil => exact absurd rfl nonempty
  | cons first values =>
      have item : ∀ value ∈ values, Reads (do expect ", "; reader) value
          ([',', ' '] ++ text value) (contents value) Follows :=
        fun value member =>
          reads_expect_bind (each value (List.mem_cons_of_mem first member))
      have items := reads_many item (fun _ _ => by simp) fun value _ rest =>
        comma _
      have stops : ∀ rest, Follows rest ∧ NotBefore ',' rest →
          Follows rest ∧ ∀ more,
              (do expect ", "; reader) (⟨rest, more⟩ : Input α) = none := by
        rintro rest ⟨follows, noComma⟩
        refine ⟨follows, fun more => expect_bind_eq_none ?_⟩
        cases rest with
        | nil => rfl
        | cons c rest =>
            have different : ',' ≠ c :=
              fun same => noComma (congrArg some same.symm)
            exact if_neg (ne_true_of_eq_false
              (beq_eq_false_iff_ne.mpr different))
      have continues : ∀ rest, Follows rest ∧ NotBefore ',' rest →
          Follows (values.flatMap (fun value => [',', ' '] ++ text value) ++
              rest) := by
        rintro rest ⟨follows, _⟩
        cases values with
        | nil => exact follows
        | cons second values => exact comma _
      rw [List.map_cons, intercalate_cons, List.flatMap_map]
      exact (each first List.mem_cons_self).bind
        ((items.narrow stops).bind_pure rfl) continues

theorem reads_commaSeparated_bare {reader : Reader α β} {values : List β}
    {text : β → List Char} {Follows : List Char → Prop} (nonempty : values ≠ [])
    (each : ∀ value ∈ values, Reads reader value (text value) [] Follows)
    (comma : ∀ rest, Follows (',' :: rest)) :
    Reads (commaSeparated reader) values
      ([',', ' '].intercalate (values.map text)) []
      fun rest => Follows rest ∧ NotBefore ',' rest := by
  have all := reads_commaSeparated nonempty each comma
  rwa [List.flatMap_eq_nil_iff.mpr fun _ _ => rfl] at all

theorem reads_names {quoter : Quoter} (separates : quoter.delimiter ≠ ',')
    {names : List String} (nonempty : names ≠ []) :
    Reads (commaSeparated (name quoter) : Reader α (List String)) names
      (quoter.listChars names) []
      fun rest => NotBefore quoter.delimiter rest ∧ NotBefore ',' rest :=
  reads_commaSeparated_bare nonempty (fun column _ => reads_name quoter column)
    fun rest => notBefore_cons separates rest

end Reader

end BulkWrite
