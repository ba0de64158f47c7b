import BulkWrite.Number.Binary64

/-!
JSON values. A number is an integer or a floating-point number, and the two are
never equal. The members of an object are kept in the order of their names, each
name once.
-/

namespace BulkWrite

inductive Json.Number where
  | integer (n : Int)
  | float (x : Binary64)
deriving DecidableEq, Inhabited

inductive Json where
  | null
  | bool (b : Bool)
  | number (n : Json.Number)
  | string (s : String)
  | array (items : List Json)
  | object (members : List (String × Json))
deriving Inhabited

namespace Json

def Number.equals : Number → Number → Bool
  | .integer m, .integer n => m == n
  | .float x, .float y => x.equals y
  | _, _ => false

mutual

/-- Equality of structure, where floating-point numbers are compared as
numbers. -/
def equals : Json → Json → Bool
  | .null, .null => true
  | .bool a, .bool b => a == b
  | .number m, .number n => m.equals n
  | .string s, .string t => s == t
  | .array xs, .array ys => itemsEqual xs ys
  | .object xs, .object ys => membersEqual xs ys
  | _, _ => false

def itemsEqual : List Json → List Json → Bool
  | [], [] => true
  | x :: xs, y :: ys => equals x y && itemsEqual xs ys
  | _, _ => false

def membersEqual : List (String × Json) → List (String × Json) → Bool
  | [], [] => true
  | (j, x) :: xs, (k, y) :: ys => j == k && equals x y && membersEqual xs ys
  | _, _ => false

end

/-- Puts a member at its place among ordered members. The value of a name
already present is replaced. -/
def insertMember (name : String) (value : Json) :
    List (String × Json) → List (String × Json)
  | [] => [(name, value)]
  | (other, old) :: rest =>
      if name = other then (name, value) :: rest
      else if name < other then (name, value) :: (other, old) :: rest
      else (other, old) :: insertMember name value rest

/-- The object with the given members. Of members with one name the last
counts. -/
def ofMembers (members : List (String × Json)) : Json :=
  .object (members.foldl
    (fun object member => insertMember member.1 member.2 object) [])

def strings (items : List String) : Json := .array (items.map .string)

def integers (items : List Int) : Json :=
  .array (items.map fun n => .number (.integer n))

end Json

end BulkWrite
