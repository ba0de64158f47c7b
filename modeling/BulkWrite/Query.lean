import BulkWrite.Query.Placeholders
import BulkWrite.TypeMap
import BulkWrite.Value

/-!
Queries: SQL text with a placeholder for each parameter, the parameters in the
order of their placeholders, and declared types for some of their positions.
-/

namespace BulkWrite

/-- How long a prepared form of the query may be kept. It is advice and binds
nobody. -/
inductive ReuseHint where
  | none
  | perTransaction
  | perConnection
deriving DecidableEq, Inhabited

namespace ReuseHint

def name : ReuseHint → String
  | .none => "None"
  | .perTransaction => "PerTransaction"
  | .perConnection => "PerConnection"

def ofName? (name : String) : Option ReuseHint :=
  [ReuseHint.none, .perTransaction, .perConnection].find? (·.name == name)

end ReuseHint

structure Query where
  sql : String
  params : List Value
  types : TypeMap
  reuseHint : ReuseHint := .none

namespace Query

def typeAt? (query : Query) (position : Nat) : Option ParamType :=
  query.types.get? position

def placeholderCount (query : Query) : Nat := countPlaceholders query.sql.toList

/-- A query is aligned if it has a parameter for each placeholder and types only
for parameters that it has. -/
def isAligned (query : Query) : Bool :=
  query.params.length == query.placeholderCount &&
    query.types.allBelow query.params.length

def equals (query other : Query) : Bool :=
  query.sql == other.sql && Value.listEquals query.params other.params &&
    query.types.entries == other.types.entries &&
    query.reuseHint == other.reuseHint

end Query

end BulkWrite
