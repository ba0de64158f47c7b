/-!
What can be wrong with a statement before it reaches a database.
-/

namespace BulkWrite

inductive ValidationError where
  | emptyRows
  | invalidFirstRow
  | missingColumn (row : Nat) (column : String)
  | unexpectedColumn (row : Nat) (column : String)
  | emptyIdentifiers
  | invalidLimit (limit : Int64)
  | emptyUpdateColumns
  | unknownUpdateColumns (columns : List String)
  | emptyColumnValues
  | tooManyColumns (columns : Nat) (max : Nat)
deriving DecidableEq

namespace ValidationError

def name : ValidationError → String
  | .emptyRows => "EmptyRows"
  | .invalidFirstRow => "InvalidFirstRow"
  | .missingColumn .. => "MissingColumn"
  | .unexpectedColumn .. => "UnexpectedColumn"
  | .emptyIdentifiers => "EmptyIdentifiers"
  | .invalidLimit _ => "InvalidLimit"
  | .emptyUpdateColumns => "EmptyUpdateColumns"
  | .unknownUpdateColumns _ => "UnknownUpdateColumns"
  | .emptyColumnValues => "EmptyColumnValues"
  | .tooManyColumns .. => "TooManyColumns"

def detail : ValidationError → String
  | .emptyRows => "requires non-empty rows"
  | .invalidFirstRow => "first row must be a non-empty mapping"
  | .missingColumn row column =>
      "row " ++ toString row ++ " is missing column '" ++ column ++ "'"
  | .unexpectedColumn row column =>
      "row " ++ toString row ++ " has unexpected column '" ++ column ++ "'"
  | .emptyIdentifiers => "requires non-empty identifiers"
  | .invalidLimit limit =>
      "limit must be greater than 0, got " ++ toString limit.toInt
  | .emptyUpdateColumns => "requires non-empty update columns"
  | .unknownUpdateColumns columns =>
      "update columns not present in rows: " ++ String.intercalate ", " columns
  | .emptyColumnValues => "requires non-empty column values"
  | .tooManyColumns columns max =>
      toString columns ++ " columns exceed the limit of " ++ toString max ++
        " parameters per statement"

def message (error : ValidationError) : String :=
  "Validation error: " ++ error.detail

/-- The row at fault, counted from zero. -/
def row? : ValidationError → Option Nat
  | .missingColumn row _ => some row
  | .unexpectedColumn row _ => some row
  | _ => none

def column? : ValidationError → Option String
  | .missingColumn _ column => some column
  | .unexpectedColumn _ column => some column
  | _ => none

def isMissingColumn : ValidationError → Bool
  | .missingColumn .. => true
  | _ => false

end ValidationError

end BulkWrite
