import BulkWrite.Json.Document

/-!
Declared types of bound parameters. Each type has one tag, by which it is
written and read.
-/

namespace BulkWrite

inductive ParamType where
  | null
  | boolean
  | integer
  | string
  | binary
  | json
  | date
  | dateTime
  | decimal
  | float
deriving DecidableEq, Inhabited

namespace ParamType

def all : List ParamType :=
  [.null, .boolean, .integer, .string, .binary, .json, .date, .dateTime,
    .decimal, .float]

theorem mem_all (type : ParamType) : type ∈ all := by
  cases type <;> decide

def tag : ParamType → String
  | .null => "null"
  | .boolean => "boolean"
  | .integer => "integer"
  | .string => "string"
  | .binary => "binary"
  | .json => "json"
  | .date => "date"
  | .dateTime => "date_time"
  | .decimal => "decimal"
  | .float => "float"

def ofTag? (tag : String) : Option ParamType := all.find? (·.tag == tag)

theorem ofTag?_tag (type : ParamType) : ofTag? type.tag = some type := by
  cases type <;> decide

end ParamType

/-- The tag that a document names: a string, or an object with that name alone
and a null. -/
def Json.Document.tag? : Json.Document → Option String
  | .string text => text.string?
  | .object [(name, .null)] => name.string?
  | _ => none

def ParamType.ofJsonText? (text : String) : Option ParamType := do
  let document ← Json.Document.ofText? text
  ParamType.ofTag? (← document.tag?)

end BulkWrite
