import BulkWrite.Failure.CodeSet

/-!
Rules for telling failures apart: for a lost connection and for a passing
conflict each a list of state codes, a set of driver codes and a list of
phrases. Each list can be replaced by itself, and phrases can be added.
-/

namespace BulkWrite

structure Rules where
  /-- A state code that starts with one of these means a lost connection. -/
  connectionStatePrefixes : List String
  connectionCodes : CodeSet
  connectionMessages : List String
  /-- One of these state codes in full means a passing conflict. -/
  transientStates : List String
  transientCodes : CodeSet
  transientMessages : List String
deriving DecidableEq

namespace Rules

/-- The codes are those of MySQL: no connection, server gone, connection lost
and disconnected for inactivity; lock wait timeout and deadlock. -/
def default : Rules where
  connectionStatePrefixes := ["08"]
  connectionCodes := .ofList [2002, 2006, 2013, 4031]
  connectionMessages := [
    "server has gone away",
    "gone away",
    "lost connection",
    "broken pipe",
    "connection reset",
    "reset by peer",
    "connection refused",
    "connection timed out",
    "no route to host",
    "network is unreachable",
    "is dead or not enabled",
    "error while sending",
    "error writing data to the connection",
    "server closed the connection unexpectedly",
    "ssl connection has been closed unexpectedly",
    "decryption failed or bad record mac",
    "physical connection is not usable",
    "communication link failure",
    "connection is no longer usable",
    "packets out of order",
    "connection was killed",
    "temporary failure in name resolution",
    "php_network_getaddresses",
    "login timeout expired"]
  transientStates := ["40001"]
  transientCodes := .ofList [1205, 1213]
  transientMessages := [
    "deadlock",
    "lock wait timeout",
    "try restarting transaction",
    "serialization failure",
    "could not serialize access"]

instance : Inhabited Rules := ⟨default⟩

/-- A change of one list. -/
inductive Change where
  | setConnectionStatePrefixes (starts : List String)
  | setConnectionCodes (codes : List Int64)
  | setConnectionMessages (phrases : List String)
  | setTransientStates (states : List String)
  | setTransientCodes (codes : List Int64)
  | setTransientMessages (phrases : List String)
  | extendConnectionMessages (phrases : List String)
  | extendTransientMessages (phrases : List String)

def apply (rules : Rules) : Change → Rules
  | .setConnectionStatePrefixes starts =>
      { rules with connectionStatePrefixes := starts }
  | .setConnectionCodes codes => { rules with connectionCodes := .ofList codes }
  | .setConnectionMessages phrases =>
      { rules with connectionMessages := phrases }
  | .setTransientStates states => { rules with transientStates := states }
  | .setTransientCodes codes => { rules with transientCodes := .ofList codes }
  | .setTransientMessages phrases => { rules with transientMessages := phrases }
  | .extendConnectionMessages phrases =>
      { rules with connectionMessages := rules.connectionMessages ++ phrases }
  | .extendTransientMessages phrases =>
      { rules with transientMessages := rules.transientMessages ++ phrases }

def applyAll (rules : Rules) (changes : List Change) : Rules :=
  changes.foldl apply rules

end Rules

end BulkWrite
