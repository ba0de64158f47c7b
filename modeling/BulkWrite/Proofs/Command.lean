import BulkWrite.Proofs.Reading
import Mathlib.Data.List.Basic

/-!
Commands: what SQL text says, as trees. A tree has contents of any kind at its
placeholders. Its text leaves them out, and reading takes them in again in the
order of the placeholders; a command is what is read from its own text and
contents.
-/

namespace BulkWrite

open Reader

variable {α β : Type}

/-- Where the column equals the operand, the result. -/
structure Branch (α : Type) where
  column : String
  operand : α
  result : α

inductive Assigned (α : Type) where
  | plain (content : α)
  | cases (branches : List (Branch α)) (otherwise : String)

structure Assignment (α : Type) where
  column : String
  assigned : Assigned α

/-- The column equals one of the operands. -/
structure Condition (α : Type) where
  column : String
  operands : List α

/-- Where a row is there already, its column takes what the new row has in the
source column. -/
structure Overwrite where
  column : String
  source : String

inductive Command (α : Type) where
  | insert (ignore : Bool) (table : String) (columns : List String)
      (rows : List (List α))
      (overwrites : List Overwrite)
  | delete (table : String) (condition : Condition α) (limit : Option Nat)
  | update (table : String) (assignments : List (Assignment α))
      (condition : Condition α)

namespace Command

def groupChars (contents : List α) : List Char :=
  "(".toList ++ ([',', ' '].intercalate (contents.map fun _ => ['?']) ++
    ")".toList)

def groupReader : Reader α (List α) := parenthesised (commaSeparated hole)

theorem reads_group {contents : List α} (nonempty : contents ≠ []) :
    Reads groupReader contents (groupChars contents) contents fun _ =>
      True := by
  have holes : Reads (commaSeparated hole) contents
      ([',', ' '].intercalate (contents.map fun _ => ['?']))
          (contents.flatMap fun content =>
        [content]) fun rest => True ∧ NotBefore ',' rest :=
    reads_commaSeparated nonempty (fun content _ => reads_hole content) fun _ =>
      trivial
  rw [List.flatMap_singleton'] at holes
  exact reads_parenthesised holes fun rest =>
    ⟨trivial, notBefore_cons (by decide) rest⟩

end Command

namespace Branch

def chars (quoter : Quoter) (branch : Branch α) : List Char :=
  " WHEN ".toList ++ (quoter.chars branch.column ++ (" = ".toList ++
    (['?'] ++ (" THEN ".toList ++ ['?']))))

def contents (branch : Branch α) : List α := [branch.operand, branch.result]

def reader (quoter : Quoter) : Reader α (Branch α) := do
  expect " WHEN "
  let column ← Reader.name quoter
  expect " = "
  let operand ← hole
  expect " THEN "
  let result ← hole
  return ⟨column, operand, result⟩

theorem reads {quoter : Quoter} (space : quoter.delimiter ≠ ' ')
    (branch : Branch α) :
    Reads (reader quoter) branch (branch.chars quoter) branch.contents fun _ =>
      True := by
  apply reads_expect_bind
  refine (reads_name quoter branch.column).bind ?_ fun _ _ =>
    notBefore_cons space _
  apply reads_expect_bind
  refine (reads_hole branch.operand).bind ?_ fun _ _ => trivial
  apply reads_expect_bind
  exact (reads_hole branch.result).bind_pure rfl

end Branch

namespace Assigned

def chars (quoter : Quoter) : Assigned α → List Char
  | .plain _ => " = ".toList ++ ['?']
  | .cases branches otherwise =>
      " = CASE".toList ++ (branches.flatMap (Branch.chars quoter) ++
        (" ELSE ".toList ++ (quoter.chars otherwise ++ " END".toList)))

theorem chars_cases (quoter : Quoter) (branches : List (Branch α))
    (otherwise : String) :
    (cases branches otherwise).chars quoter =
      " = CASE".toList ++ (branches.flatMap (Branch.chars quoter) ++
        (" ELSE ".toList ++ (quoter.chars otherwise ++ " END".toList))) := rfl

def contents : Assigned α → List α
  | .plain content => [content]
  | .cases branches _ => branches.flatMap Branch.contents

def casesReader (quoter : Quoter) : Reader α (Assigned α) := do
  expect " = CASE"
  let branches ← many (Branch.reader quoter)
  expect " ELSE "
  let otherwise ← Reader.name quoter
  expect " END"
  return .cases branches otherwise

def plainReader : Reader α (Assigned α) := do
  expect " = "
  let content ← hole
  return .plain content

def reader (quoter : Quoter) : Reader α (Assigned α) :=
  casesReader quoter <|> plainReader

theorem reads_cases {quoter : Quoter} (space : quoter.delimiter ≠ ' ')
    (branches : List (Branch α)) (otherwise : String) :
    Reads (casesReader quoter) (.cases branches otherwise)
      ((cases branches otherwise).chars quoter)
        (cases branches otherwise).contents
      fun _ => True := by
  have all : Reads (many (Branch.reader quoter)) branches
      (branches.flatMap (Branch.chars quoter))
        (branches.flatMap Branch.contents)
      fun rest => True ∧ ∀ more, Branch.reader quoter (⟨rest, more⟩ : Input α) =
          none :=
    reads_many (fun branch _ => branch.reads space)
      (fun _ _ => List.cons_ne_nil _ _)
      fun _ _ _ => trivial
  have closing : Reads
      (do expect " ELSE "
          let otherwise ← Reader.name quoter
          expect " END"
          return cases branches otherwise : Reader α (Assigned α))
      (cases branches otherwise)
      (" ELSE ".toList ++ (quoter.chars otherwise ++ " END".toList))
          [] fun _ => True := by
    apply reads_expect_bind
    exact (reads_name quoter otherwise).bind
      ((reads_expect " END").bind_pure rfl)
      fun _ _ => notBefore_cons space _
  rw [contents, ← List.append_nil (branches.flatMap Branch.contents)]
  apply reads_expect_bind
  exact all.bind closing fun rest _ =>
    ⟨trivial, fun more => expect_bind_eq_none rfl⟩

theorem reads {quoter : Quoter} (space : quoter.delimiter ≠ ' ')
    (assigned : Assigned α) :
    Reads (reader quoter) assigned (assigned.chars quoter) assigned.contents
      fun _ => True := by
  cases assigned with
  | plain content =>
      refine Reads.orElse_of_none ?_ fun _ _ _ => expect_bind_eq_none rfl
      apply reads_expect_bind
      exact (reads_hole content).bind_pure rfl
  | cases branches otherwise =>
      exact (reads_cases space branches otherwise).orElse

end Assigned

namespace Assignment

def chars (quoter : Quoter) (assignment : Assignment α) : List Char :=
  quoter.chars assignment.column ++ assignment.assigned.chars quoter

def contents (assignment : Assignment α) : List α :=
  assignment.assigned.contents

def reader (quoter : Quoter) : Reader α (Assignment α) := do
  let column ← Reader.name quoter
  let assigned ← Assigned.reader quoter
  return ⟨column, assigned⟩

theorem reads {quoter : Quoter} (space : quoter.delimiter ≠ ' ')
    (assignment : Assignment α) :
    Reads (reader quoter) assignment
      (assignment.chars quoter) assignment.contents
      fun _ => True := by
  refine (reads_name quoter assignment.column).bind
    ((assignment.assigned.reads space).bind_pure rfl) fun rest _ => ?_
  cases assignment.assigned with
  | plain content => exact notBefore_cons space _
  | cases branches otherwise => exact notBefore_cons space _

end Assignment

namespace Overwrite

def chars (quoter : Quoter) (overwrite : Overwrite) : List Char :=
  quoter.chars overwrite.column ++ (" = VALUES(".toList ++
    (quoter.chars overwrite.source ++ ")".toList))

def reader (quoter : Quoter) : Reader α Overwrite := do
  let column ← Reader.name quoter
  expect " = VALUES("
  let source ← Reader.name quoter
  expect ")"
  return ⟨column, source⟩

theorem reads {quoter : Quoter} (space : quoter.delimiter ≠ ' ')
    (closing : quoter.delimiter ≠ ')') (overwrite : Overwrite) :
    Reads (reader quoter : Reader α Overwrite) overwrite
      (overwrite.chars quoter) []
      fun _ => True := by
  refine (reads_name quoter overwrite.column).bind ?_ fun _ _ =>
    notBefore_cons space _
  apply reads_expect_bind
  exact (reads_name quoter overwrite.source).bind
    ((reads_expect ")").bind_pure rfl)
    fun _ _ => notBefore_cons closing _

end Overwrite

namespace Condition

def chars (quoter : Quoter) (condition : Condition α) : List Char :=
  quoter.chars condition.column ++
    (" IN ".toList ++ Command.groupChars condition.operands)

def reader (quoter : Quoter) : Reader α (Condition α) := do
  let column ← Reader.name quoter
  expect " IN "
  let operands ← Command.groupReader
  return ⟨column, operands⟩

theorem reads {quoter : Quoter} (space : quoter.delimiter ≠ ' ')
    {condition : Condition α} (nonempty : condition.operands ≠ []) :
    Reads (reader quoter) condition (condition.chars quoter) condition.operands
      fun _ => True := by
  refine (reads_name quoter condition.column).bind ?_ fun _ _ =>
    notBefore_cons space _
  apply reads_expect_bind
  exact (Command.reads_group nonempty).bind_pure rfl

end Condition

/-- No space, comma or closing parenthesis behind a name is taken for a part of
it. -/
structure Quoter.Separates (quoter : Quoter) : Prop where
  space : quoter.delimiter ≠ ' '
  comma : quoter.delimiter ≠ ','
  closing : quoter.delimiter ≠ ')'

namespace Command

def columnsChars (quoter : Quoter) (columns : List String) : List Char :=
  "(".toList ++ (quoter.listChars columns ++ ")".toList)

def columnsReader (quoter : Quoter) : Reader α (List String) :=
  parenthesised (commaSeparated (Reader.name quoter))

theorem reads_columns {quoter : Quoter} (separates : quoter.Separates)
    {columns : List String} (nonempty : columns ≠ []) :
    Reads (columnsReader quoter : Reader α (List String)) columns
      (columnsChars quoter columns) []
      fun _ => True := by
  exact reads_parenthesised (reads_names separates.comma nonempty)
    fun rest => ⟨notBefore_cons separates.closing rest,
      notBefore_cons (by decide) rest⟩

def overwritesChars (quoter : Quoter) : List Overwrite → List Char
  | [] => []
  | overwrites => " ON DUPLICATE KEY UPDATE ".toList ++
      [',', ' '].intercalate (overwrites.map (Overwrite.chars quoter))

def overwritesReader (quoter : Quoter) : Reader α (List Overwrite) :=
  (do
    expect " ON DUPLICATE KEY UPDATE "
    commaSeparated (Overwrite.reader quoter)) <|> pure []

theorem reads_overwrites {quoter : Quoter} (separates : quoter.Separates)
    (overwrites : List Overwrite) :
    Reads (overwritesReader quoter : Reader α (List Overwrite)) overwrites
      (overwritesChars quoter overwrites) [] fun rest => rest = [] := by
  cases overwrites with
  | nil =>
      refine Reads.orElse_of_none (reads_pure []) ?_
      rintro _ more rfl
      exact expect_bind_eq_none rfl
  | cons overwrite overwrites =>
      have all : Reads
          (commaSeparated (Overwrite.reader quoter) : Reader α (List Overwrite))
          (overwrite :: overwrites)
          ([',', ' '].intercalate
            ((overwrite :: overwrites).map (Overwrite.chars quoter))) []
          fun rest => True ∧ NotBefore ',' rest :=
        reads_commaSeparated_bare (List.cons_ne_nil _ _)
          (fun overwrite _ => overwrite.reads separates.space separates.closing)
          fun _ => trivial
      apply Reads.orElse
      apply reads_expect_bind
      refine all.narrow ?_
      rintro _ rfl
      exact ⟨trivial, notBefore_nil ','⟩

def limitChars : Option Nat → List Char
  | none => []
  | some limit => " LIMIT ".toList ++ Nat.toDigits 10 limit

def limitReader : Reader α (Option Nat) :=
  (do expect " LIMIT "; let limit ← number; return some limit) <|> pure none

theorem reads_limit (limit : Option Nat) :
    Reads (limitReader : Reader α (Option Nat)) limit (limitChars limit) []
      fun rest => rest = [] := by
  cases limit with
  | none =>
      refine Reads.orElse_of_none (reads_pure none) ?_
      rintro _ more rfl
      exact expect_bind_eq_none rfl
  | some limit =>
      apply Reads.orElse
      apply reads_expect_bind
      exact (reads_number limit).bind_pure rfl

def insertKeywords (ignore : Bool) : String :=
  if ignore then "INSERT IGNORE INTO " else "INSERT INTO "

def chars (quoter : Quoter) : Command α → List Char
  | .insert ignore table columns rows overwrites =>
      (insertKeywords ignore).toList ++ (quoter.chars table ++ (" ".toList ++
        (columnsChars quoter columns ++ (" VALUES ".toList ++
          ([',', ' '].intercalate (rows.map groupChars) ++
            overwritesChars quoter overwrites)))))
  | .delete table condition limit =>
      "DELETE FROM ".toList ++ (quoter.chars table ++ (" WHERE ".toList ++
        (condition.chars quoter ++ limitChars limit)))
  | .update table assignments condition =>
      "UPDATE ".toList ++ (quoter.chars table ++ (" SET ".toList ++
        ([',', ' '].intercalate (assignments.map (Assignment.chars quoter)) ++
          (" WHERE ".toList ++ condition.chars quoter))))

theorem chars_insert (quoter : Quoter) (ignore : Bool) (table : String)
    (columns : List String) (rows : List (List α))
    (overwrites : List Overwrite) :
    (insert ignore table columns rows overwrites).chars quoter =
      (insertKeywords ignore).toList ++ (quoter.chars table ++ (" ".toList ++
        (columnsChars quoter columns ++ (" VALUES ".toList ++
          ([',', ' '].intercalate (rows.map groupChars) ++
            overwritesChars quoter overwrites))))) := rfl

theorem chars_delete (quoter : Quoter) (table : String)
    (condition : Condition α) (limit : Option Nat) :
    (delete table condition limit).chars quoter =
      "DELETE FROM ".toList ++ (quoter.chars table ++ (" WHERE ".toList ++
        (condition.chars quoter ++ limitChars limit))) := rfl

theorem chars_update (quoter : Quoter) (table : String)
    (assignments : List (Assignment α)) (condition : Condition α) :
    (update table assignments condition).chars quoter =
      "UPDATE ".toList ++ (quoter.chars table ++ (" SET ".toList ++
        ([',', ' '].intercalate (assignments.map (Assignment.chars quoter)) ++
          (" WHERE ".toList ++ condition.chars quoter)))) := rfl

def contents : Command α → List α
  | .insert _ _ _ rows _ => rows.flatten
  | .delete _ condition _ => condition.operands
  | .update _ assignments condition =>
      assignments.flatMap Assignment.contents ++ condition.operands

def insertReader (quoter : Quoter) (ignore : Bool) : Reader α (Command α) := do
  expect (insertKeywords ignore)
  let table ← Reader.name quoter
  expect " "
  let columns ← columnsReader quoter
  expect " VALUES "
  let rows ← commaSeparated groupReader
  let overwrites ← overwritesReader quoter
  return .insert ignore table columns rows overwrites

def deleteReader (quoter : Quoter) : Reader α (Command α) := do
  expect "DELETE FROM "
  let table ← Reader.name quoter
  expect " WHERE "
  let condition ← Condition.reader quoter
  let limit ← limitReader
  return .delete table condition limit

def updateReader (quoter : Quoter) : Reader α (Command α) := do
  expect "UPDATE "
  let table ← Reader.name quoter
  expect " SET "
  let assignments ← commaSeparated (Assignment.reader quoter)
  expect " WHERE "
  let condition ← Condition.reader quoter
  return .update table assignments condition

def reader (quoter : Quoter) : Reader α (Command α) :=
  insertReader quoter false <|> insertReader quoter true <|>
    deleteReader quoter <|>
    updateReader quoter

/-- What is listed is not empty, overwrites and branches apart. -/
def Filled : Command α → Prop
  | .insert _ _ columns rows _ =>
      columns ≠ [] ∧ rows ≠ [] ∧ ∀ row ∈ rows, row ≠ []
  | .delete _ condition _ => condition.operands ≠ []
  | .update _ assignments condition =>
      assignments ≠ [] ∧ condition.operands ≠ []

/-- The quoter tells the names of the command from what stands behind them. -/
def Separated (quoter : Quoter) : Command α → Prop
  | .insert .. => quoter.Separates
  | .delete .. => quoter.delimiter ≠ ' '
  | .update .. => quoter.delimiter ≠ ' '

theorem reads_insert {quoter : Quoter} (separates : quoter.Separates)
    (ignore : Bool) (table : String) {columns : List String}
    (columnsLeft : columns ≠ []) {rows : List (List α)} (rowsLeft : rows ≠ [])
    (rowsFilled : ∀ row ∈ rows, row ≠ []) (overwrites : List Overwrite) :
    Reads (insertReader quoter ignore)
      (insert ignore table columns rows overwrites)
        ((insert ignore table columns rows overwrites).chars quoter)
          rows.flatten
      fun rest => rest = [] := by
  have groups : Reads (commaSeparated groupReader) rows
      ([',', ' '].intercalate (rows.map groupChars))
        (rows.flatMap fun row => row)
      fun rest => True ∧ NotBefore ',' rest :=
    reads_commaSeparated rowsLeft
      (fun row member => reads_group (rowsFilled row member))
      fun _ => trivial
  rw [List.flatMap_id'] at groups
  have behindGroups : ∀ rest, rest = [] →
      True ∧ NotBefore ',' (overwritesChars quoter overwrites ++ rest) := by
    rintro _ rfl
    cases overwrites with
    | nil => exact ⟨trivial, notBefore_nil ','⟩
    | cons overwrite overwrites => exact ⟨trivial, notBefore_cons (by decide) _⟩
  rw [← List.append_nil rows.flatten]
  apply reads_expect_bind
  refine (reads_name quoter table).bind ?_ fun _ _ =>
    notBefore_cons separates.space _
  apply reads_expect_bind
  refine (reads_columns separates columnsLeft).bind ?_ fun _ _ => trivial
  apply reads_expect_bind
  exact groups.bind ((reads_overwrites separates overwrites).bind_pure rfl)
    behindGroups

theorem reads_delete {quoter : Quoter} (space : quoter.delimiter ≠ ' ')
    (table : String) {condition : Condition α}
    (nonempty : condition.operands ≠ []) (limit : Option Nat) :
    Reads (deleteReader quoter) (delete table condition limit)
      ((delete table condition limit).chars quoter) condition.operands
      fun rest => rest = [] := by
  rw [← List.append_nil condition.operands]
  apply reads_expect_bind
  refine (reads_name quoter table).bind ?_ fun _ _ => notBefore_cons space _
  apply reads_expect_bind
  exact (Condition.reads space nonempty).bind
    ((reads_limit limit).bind_pure rfl)
    fun _ _ => trivial

theorem reads_update {quoter : Quoter} (space : quoter.delimiter ≠ ' ')
    (table : String) {assignments : List (Assignment α)}
    (assignmentsLeft : assignments ≠ []) {condition : Condition α}
    (nonempty : condition.operands ≠ []) :
    Reads (updateReader quoter) (update table assignments condition)
      ((update table assignments condition).chars quoter)
      (update table assignments condition).contents fun rest => rest = [] := by
  have all : Reads (commaSeparated (Assignment.reader quoter)) assignments
      ([',', ' '].intercalate (assignments.map (Assignment.chars quoter)))
      (assignments.flatMap Assignment.contents) fun rest => True ∧
          NotBefore ',' rest :=
    reads_commaSeparated assignmentsLeft
      (fun assignment _ => assignment.reads space)
      fun _ => trivial
  apply reads_expect_bind
  refine (reads_name quoter table).bind ?_ fun _ _ => notBefore_cons space _
  apply reads_expect_bind
  refine all.bind ?_ fun _ _ => ⟨trivial, notBefore_cons (by decide) _⟩
  apply reads_expect_bind
  exact ((Condition.reads space nonempty).narrow fun _ _ =>
    trivial).bind_pure rfl

theorem reads {quoter : Quoter} {command : Command α} (filled : command.Filled)
    (separated : command.Separated quoter) :
    Reads (reader quoter) command (command.chars quoter) command.contents
      fun rest => rest = [] := by
  cases command with
  | insert ignore table columns rows overwrites =>
      obtain ⟨columnsLeft, rowsLeft, rowsFilled⟩ := filled
      have read :=
        reads_insert separated ignore table columnsLeft rowsLeft
          rowsFilled overwrites
      cases ignore with
      | false => exact read.orElse
      | true =>
          exact read.orElse.orElse_of_none fun _ _ _ => expect_bind_eq_none rfl
  | delete table condition limit =>
      apply Reads.orElse_of_none ?_ fun _ _ _ => expect_bind_eq_none rfl
      apply Reads.orElse_of_none ?_ fun _ _ _ => expect_bind_eq_none rfl
      exact (reads_delete separated table filled limit).orElse
  | update table assignments condition =>
      obtain ⟨assignmentsLeft, operandsLeft⟩ := filled
      apply Reads.orElse_of_none ?_ fun _ _ _ => expect_bind_eq_none rfl
      apply Reads.orElse_of_none ?_ fun _ _ _ => expect_bind_eq_none rfl
      apply Reads.orElse_of_none ?_ fun _ _ _ => expect_bind_eq_none rfl
      exact reads_update separated table assignmentsLeft operandsLeft

/-- The command that a text is, when its placeholders have the contents. -/
def read? (quoter : Quoter) (text : List Char) (contents : List α) :
    Option (Command α) := do
  let (command, left) ← (reader quoter : Reader α (Command α)) ⟨text, contents⟩
  if left.text.isEmpty && left.contents.isEmpty then some command else none

theorem read?_chars {quoter : Quoter} {command : Command α}
    (filled : command.Filled) (separated : command.Separated quoter) :
    read? quoter (command.chars quoter) command.contents = some command := by
  have read := reads filled separated [] [] rfl
  rw [List.append_nil, List.append_nil] at read
  rw [read?, read]
  rfl

theorem eq_of_chars_of_contents {quoter : Quoter} {first second : Command α}
    (firstFilled : first.Filled) (firstSeparated : first.Separated quoter)
    (secondFilled : second.Filled) (secondSeparated : second.Separated quoter)
    (sameChars : first.chars quoter = second.chars quoter)
    (sameContents : first.contents = second.contents) : first = second := by
  have read := read?_chars firstFilled firstSeparated
  rw [sameChars, sameContents, read?_chars secondFilled secondSeparated] at read
  exact (Option.some.inj read).symm

end Command

/-! Other contents show in no text of a command. -/

variable (f : α → β)

namespace Branch

def map (branch : Branch α) : Branch β :=
  ⟨branch.column, f branch.operand, f branch.result⟩

theorem chars_map (quoter : Quoter) (branch : Branch α) :
    (branch.map f).chars quoter = branch.chars quoter := by
  unfold chars map
  rfl

end Branch

namespace Assigned

def map : Assigned α → Assigned β
  | .plain content => .plain (f content)
  | .cases branches otherwise => .cases (branches.map (Branch.map f)) otherwise

theorem chars_map (quoter : Quoter) (assigned : Assigned α) :
    (assigned.map f).chars quoter = assigned.chars quoter := by
  cases assigned with
  | plain content => rfl
  | cases branches otherwise =>
      rw [map, chars_cases, chars_cases, List.flatMap_map,
        List.flatMap_congr fun branch _ => branch.chars_map f quoter]

theorem contents_map (assigned : Assigned α) :
    (assigned.map f).contents = assigned.contents.map f := by
  cases assigned with
  | plain content => rfl
  | cases branches otherwise =>
      rw [map, contents, contents, List.flatMap_map, List.map_flatMap]
      rfl

end Assigned

namespace Assignment

def map (assignment : Assignment α) : Assignment β :=
  ⟨assignment.column, assignment.assigned.map f⟩

theorem chars_map (quoter : Quoter) (assignment : Assignment α) :
    (assignment.map f).chars quoter = assignment.chars quoter := by
  rw [map, chars, chars, Assigned.chars_map]

theorem contents_map (assignment : Assignment α) :
    (assignment.map f).contents = assignment.contents.map f :=
  assignment.assigned.contents_map f

end Assignment

theorem Command.groupChars_map (contents : List α) :
    groupChars (contents.map f) = groupChars contents := by
  rw [groupChars, groupChars, List.map_map]
  rfl

namespace Condition

def map (condition : Condition α) : Condition β :=
  ⟨condition.column, condition.operands.map f⟩

theorem chars_map (quoter : Quoter) (condition : Condition α) :
    (condition.map f).chars quoter = condition.chars quoter := by
  rw [map, chars, chars, Command.groupChars_map]

end Condition

namespace Command

def map : Command α → Command β
  | .insert ignore table columns rows overwrites =>
      .insert ignore table columns (rows.map (List.map f)) overwrites
  | .delete table condition limit => .delete table (condition.map f) limit
  | .update table assignments condition =>
      .update table (assignments.map (Assignment.map f)) (condition.map f)

theorem chars_map (quoter : Quoter) (command : Command α) :
    (command.map f).chars quoter = command.chars quoter := by
  cases command with
  | insert ignore table columns rows overwrites =>
      have groups : (rows.map (List.map f)).map groupChars =
          rows.map groupChars := by
        rw [List.map_map]
        exact List.map_congr_left fun row _ => groupChars_map f row
      rw [map, chars_insert, chars_insert, groups]
  | delete table condition limit =>
      rw [map, chars_delete, chars_delete, Condition.chars_map]
  | update table assignments condition =>
      have each : (assignments.map (Assignment.map f)).map
          (Assignment.chars quoter) =
          assignments.map (Assignment.chars quoter) := by
        rw [List.map_map]
        exact List.map_congr_left fun assignment _ =>
          assignment.chars_map f quoter
      rw [map, chars_update, chars_update, each, Condition.chars_map]

theorem contents_map (command : Command α) :
    (command.map f).contents = command.contents.map f := by
  cases command with
  | insert ignore table columns rows overwrites => exact (List.map_flatten).symm
  | delete table condition limit => rfl
  | update table assignments condition =>
      have each : (assignments.map (Assignment.map f)).flatMap
          Assignment.contents =
          (assignments.flatMap Assignment.contents).map f := by
        rw [List.flatMap_map, List.map_flatMap]
        exact List.flatMap_congr fun assignment _ => assignment.contents_map f
      rw [map, contents, contents, each, List.map_append]
      rfl

theorem Filled.map {command : Command α} (filled : command.Filled) :
    (command.map f).Filled := by
  cases command with
  | insert ignore table columns rows overwrites =>
      obtain ⟨columnsLeft, rowsLeft, rowsFilled⟩ := filled
      refine ⟨columnsLeft, by simpa using rowsLeft, ?_⟩
      intro mapped member
      obtain ⟨row, inRows, rfl⟩ := List.mem_map.mp member
      simpa using rowsFilled row inRows
  | delete table condition limit =>
      simpa [Filled, Condition.map, Command.map] using filled
  | update table assignments condition =>
      simpa [Filled, Condition.map, Command.map] using filled

theorem Separated.map {quoter : Quoter} {command : Command α}
    (separated : command.Separated quoter) :
    (command.map f).Separated quoter := by
  cases command <;> exact separated

/-- The text alone tells everything but the contents. -/
theorem map_eq_of_chars {quoter : Quoter} {first second : Command α}
    (firstFilled : first.Filled) (firstSeparated : first.Separated quoter)
    (secondFilled : second.Filled) (secondSeparated : second.Separated quoter)
    (sameChars : first.chars quoter = second.chars quoter) :
    first.map (fun _ => ()) = second.map (fun _ => ()) := by
  let erase : α → Unit := fun _ => ()
  -- Each is read as far as its own contents go, with the contents of the other
  -- still to come.
  have read := reads (firstFilled.map erase) (firstSeparated.map erase) []
    (second.map erase).contents rfl
  have readOther := reads (secondFilled.map erase) (secondSeparated.map erase)
    []
    (first.map erase).contents rfl
  have sameContents :
      (first.map erase).contents ++ (second.map erase).contents =
      (second.map erase).contents ++ (first.map erase).contents := by
    rw [contents_map, contents_map, List.map_const', List.map_const',
      List.replicate_append_replicate, List.replicate_append_replicate,
      Nat.add_comm]
  rw [chars_map, sameChars, ← chars_map erase quoter second, sameContents,
    readOther] at read
  exact (Prod.mk.inj (Option.some.inj read)).1.symm

end Command

end BulkWrite
