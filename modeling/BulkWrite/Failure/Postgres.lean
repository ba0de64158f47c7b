import BulkWrite.Failure.Chain

/-!
Errors of PostgreSQL. What the server reports reaches the caller inside an error
of the client, and both carry the state code and the message of the server.
-/

namespace BulkWrite.Failure

/-- An error that the server reports, with the client's error around it. -/
def postgresServer (severity state message : String) : Failure :=
  let capabilities : Capabilities :=
    { info := some { sqlState := some state, message := some message } }
  .wrap ⟨.postgres, "db error", capabilities⟩
    (.root ⟨.postgresServer, severity ++ ": " ++ message, capabilities⟩)

/-- The connection is closed, for which the client has a state code of its
own. -/
def postgresClosed : Failure :=
  .root ⟨.postgres, "connection closed", { sqlState := some "08003" }⟩

def postgresTimeout : Failure :=
  .root ⟨.postgres, "timeout waiting for server", {}⟩

end BulkWrite.Failure
