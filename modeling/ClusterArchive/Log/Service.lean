import ClusterArchive.Http.Form
import ClusterArchive.Log.Proxy

/-!
# The log service

Logs are asked for by HTTP. The query names the backend's URL as `logURL` and a path as `jsonPath`,
each of them once at most; a failure is answered with its message and status.
-/

namespace ClusterArchive.Log

/-- What the fields of a query ask for; `none` if a field is given twice. -/
def Query.ofFields? (fields : List (String × String)) : Option Query :=
  match Http.Form.single? "logURL" fields, Http.Form.single? "jsonPath" fields with
  | some url, some path => some ⟨url, path, []⟩
  | _, _ => none

/-- The response to a request for logs. -/
def answerLogs (p : Proxy) (network : Network) (query : List Char) : Http.Response :=
  match Query.ofFields? (Http.Form.fields query) with
  | none => .text 400 ("Failed to deserialize query string: " ++ Text.withheld)
  | some q =>
    match (p.retrieve network q).answer with
    | .ok r => r
    | .error e => e.response

/-- Answers a request. -/
def serve (p : Proxy) (network : Network) (r : Http.Request) : Http.Response :=
  match String.ofList r.path with
  | "/logs" => Http.onRead r.method (answerLogs p network r.query)
  | "/healthz" => Http.onRead r.method Http.healthy
  | _ => .bare 404

end ClusterArchive.Log
