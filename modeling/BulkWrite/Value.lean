import BulkWrite.Calendar
import BulkWrite.Json.Printer
import BulkWrite.Number.Decimal
import BulkWrite.ParamType
import BulkWrite.Uuid

/-!
Values that a statement binds. A statement never looks into its values; what
they are matters to whoever executes it.
-/

namespace BulkWrite

inductive Value where
  | null
  | bool (b : Bool)
  | int (n : Int64)
  | uint (n : UInt64)
  | float (x : Binary64)
  | text (s : String)
  | bytes (octets : List UInt8)
  | json (content : Json)
  | date (day : Date)
  | dateTime (time : DateTime)
  | timestamp (time : DateTime)
  | uuid (id : Uuid)
  | decimal (number : Decimal)
deriving Inhabited

namespace Value

def isNull : Value → Bool
  | .null => true
  | _ => false

/-- The type that a value has of itself. -/
def naturalType : Value → ParamType
  | .null => .null
  | .bool _ => .boolean
  | .int _ => .integer
  | .uint _ => .integer
  | .float _ => .float
  | .text _ => .string
  | .uuid _ => .string
  | .bytes _ => .binary
  | .json _ => .json
  | .date _ => .date
  | .dateTime _ => .dateTime
  | .timestamp _ => .dateTime
  | .decimal _ => .decimal

/-- Values of different kinds differ; those of one kind are compared as that
kind compares. -/
def equals : Value → Value → Bool
  | .null, .null => true
  | .bool a, .bool b => a == b
  | .int a, .int b => a == b
  | .uint a, .uint b => a == b
  | .float a, .float b => a.equals b
  | .text a, .text b => a == b
  | .bytes a, .bytes b => a == b
  | .json a, .json b => a.equals b
  | .date a, .date b => a == b
  | .dateTime a, .dateTime b => a == b
  | .timestamp a, .timestamp b => a == b
  | .uuid a, .uuid b => a == b
  | .decimal a, .decimal b => a.equals b
  | _, _ => false

/-- The JSON form of a value. Bytes become their numbers; calendar values,
identifiers and decimals become strings. -/
def toJson : Value → Json
  | .null => .null
  | .bool b => .bool b
  | .int n => .number (.integer n.toInt)
  | .uint n => .number (.integer n.toNat)
  | .float x => .number (.float x)
  | .text s => .string s
  | .bytes octets => Json.integers (octets.map fun octet => (octet.toNat : Int))
  | .json content => content
  | .date day => .string day.text
  | .dateTime time => .string time.text
  | .timestamp time => .string time.utcText
  | .uuid id => .string id.text
  | .decimal number => .string number.text

def listEquals : List Value → List Value → Bool
  | [], [] => true
  | a :: as, b :: bs => a.equals b && listEquals as bs
  | _, _ => false

end Value

end BulkWrite
