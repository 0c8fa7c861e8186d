import ClusterArchive.Http.Message
import ClusterArchive.Log.Stream

/-!
# The log proxy

A request for logs names the URL of a backend and, possibly, a path by which the lines are
projected. It is checked before anything is sent; then one request goes out, with the configured
headers and those of the request, and its answer decides. Of a backend's error the beginning of the
body is kept.
-/

namespace ClusterArchive.Log

open Http (Response)

/-- What is asked of the proxy. -/
structure Query where
  url : Option String
  path : Option String
  headers : List (String × String)

/-- A request to a backend. -/
structure Outgoing where
  url : String
  headers : List (String × String)
deriving DecidableEq, Repr

/-- What becomes of a request to a backend. -/
inductive Exchange
  | timedOut
  | failed (detail : String)
  | answered (status : Nat) (body : List Arrival)

/-- The backends, redirects being followed. -/
abbrev Network := Outgoing → Exchange

/-- How many bytes of a backend's error are kept. -/
def errorBodyLimit : Nat := 1024

/-- Takes chunks from a body until there are `limit` bytes or more, the body ends or it fails. -/
def gather (limit : Nat) (buffer : Bytes) (body : List Arrival) : Bytes :=
  if buffer.length < limit then
    match body with
    | .chunk bytes :: rest => gather limit (buffer ++ bytes) rest
    | _ => buffer
  else buffer

/-- The first bytes of a body, `limit` of them at most. -/
def beginning (limit : Nat) (body : List Arrival) : Bytes := (gather limit [] body).take limit

/-- The text of a backend's error. -/
def errorBody (body : List Arrival) : String :=
  String.ofList (Utf8.lossy (beginning errorBodyLimit body))

/-- Whether a status reports success. -/
def isSuccess (status : Nat) : Bool := 200 ≤ status && status < 300

/-- The answer to a request whose backend has answered or not. -/
def conclude (p : Projection) : Exchange → Except Error Response
  | .timedOut => .error .timeout
  | .failed detail => .error (.transport detail)
  | .answered status body =>
    if isSuccess status then streamLogs p body else .error (.backend status (errorBody body))

/-! ### Configuration -/

/-- Why configured headers cannot be sent. -/
inductive ConfigError
  | invalidName (name : String)
  | invalidValue (name : String)
deriving DecidableEq, Repr

/-- The message of a configuration error. -/
def ConfigError.message : ConfigError → String
  | invalidName name => "invalid header name " ++ name
  | invalidValue name => "invalid value for header " ++ name

/-- Whether a character may stand in a header name. -/
def isNameChar (c : Char) : Bool :=
  c.isAlphanum ||
    ['!', '#', '$', '%', '&', '\'', '*', '+', '-', '.', '^', '_', '\x60', '|', '~'].contains c

/-- Whether a text is a header name. -/
def isHeaderName (name : String) : Bool :=
  !name.isEmpty && name.length < 65536 && name.toList.all isNameChar

/-- Whether a text is a header value, which control characters other than the tab are not. -/
def isHeaderValue (value : String) : Bool :=
  value.toList.all fun c => (' ' ≤ c && c != '\x7F') || c == '\t'

/-- Headers with one more, in the place of those of the same name. -/
def setHeader (name value : String) (headers : List (String × String)) : List (String × String) :=
  headers.filter (fun h => !Http.sameName h.1 name) ++ [(String.ofList (Http.foldName name), value)]

/-- The headers of a configuration, taken in the order given. -/
def configure : List (String × String) → List (String × String) →
    Except ConfigError (List (String × String))
  | headers, [] => .ok headers
  | headers, (name, value) :: rest =>
    if !isHeaderName name then .error (.invalidName name)
    else if !isHeaderValue value then .error (.invalidValue name)
    else configure (setHeader name value headers) rest

/-- What comes of a query: the request that was sent for it, if any, and the answer. -/
structure Retrieval where
  sent : Option Outgoing
  answer : Except Error Response

/-- A proxy: the headers that it sends with every request. -/
structure Proxy where
  headers : List (String × String)

namespace Proxy

/-- The proxy with the given configuration. -/
def ofConfig (headers : List (String × String)) : Except ConfigError Proxy :=
  (configure [] headers).map Proxy.mk

/-- The request to a backend. -/
def outgoing (p : Proxy) (url : String) (headers : List (String × String)) : Outgoing :=
  ⟨url, p.headers ++ headers.map fun h => (String.ofList (Http.foldName h.1), h.2)⟩

/-- Whether all headers of a query can be sent. -/
def sendable (headers : List (String × String)) : Bool :=
  headers.all fun h => isHeaderName h.1 && isHeaderValue h.2

/-- Retrieves logs. The backend is asked at most once, and not at all if the query is refused. -/
def retrieve (p : Proxy) (network : Network) (q : Query) : Retrieval :=
  match q.url with
  | none | some "" => ⟨none, .error .missingUrl⟩
  | some url =>
    match Projection.compile q.path with
    | .error e => ⟨none, .error e⟩
    | .ok projection =>
      if sendable q.headers then
        let request := p.outgoing url q.headers
        ⟨some request, conclude projection (network request)⟩
      else ⟨none, .error (.transport Text.withheld)⟩

end Proxy

end ClusterArchive.Log
