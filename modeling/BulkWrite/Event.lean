/-!
Log events. Whoever builds a statement or classifies a failure hands out what is
to be logged together with the result; how events are shown or stored is not
decided here.
-/

namespace BulkWrite

inductive Level where
  | debug
  | trace
deriving DecidableEq

namespace Level

def name : Level → String
  | .debug => "DEBUG"
  | .trace => "TRACE"

end Level

/-- An event as a log shows it: fields by name, in order. -/
structure Event where
  target : String
  level : Level
  fields : List (String × String)
deriving DecidableEq

/-- A result with the events on the way to it. -/
structure Logged (ε α : Type) where
  result : α
  events : List ε

end BulkWrite
