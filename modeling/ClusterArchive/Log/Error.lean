import ClusterArchive.Http.Message

/-!
# Failures of a log request

Every way in which logs cannot be delivered, with the message and the status that the client gets. A
backend that answers with an error has its own status passed on.
-/

namespace ClusterArchive.Log

/-- Why a log request failed. -/
inductive Error
  | missingUrl
  | noLogs
  | invalidProjection (path detail : String)
  | backend (status : Nat) (body : String)
  | timeout
  | transport (detail : String)
  | read (detail : String)
  | parse (detail : String)
  | nonStringMatch (value : String)
deriving DecidableEq, Repr

namespace Error

/-- The message for the client. -/
def message : Error → String
  | missingUrl => "no log URL found"
  | noLogs => "no logs found for the requested resource"
  | invalidProjection path detail => "invalid jsonPath " ++ path ++ ": " ++ detail
  | backend status body => "error response: " ++ toString status ++ " - " ++ body
  | timeout => "log backend request timed out"
  | transport detail => "log backend request failed: " ++ detail
  | read detail => "error reading log stream: " ++ detail
  | parse detail => "invalid json log line: " ++ detail
  | nonStringMatch value => "jsonPath matched a non-string value: " ++ value

/-- The status for the client. A backend status that is no HTTP status counts as a bad gateway. -/
def status : Error → Nat
  | missingUrl | noLogs => 404
  | backend status _ => if 100 ≤ status ∧ status ≤ 999 then status else 502
  | timeout => 504
  | invalidProjection .. | transport _ | read _ | parse _ | nonStringMatch _ => 500

/-- The response that reports a failure. -/
def response (e : Error) : Http.Response := .text e.status e.message

end Error

end ClusterArchive.Log
