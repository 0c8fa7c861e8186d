import ClusterArchive.Text.Utf8

/-!
# HTTP messages

Requests and responses as far as the services look at them. Header names are compared without regard
to case; of several values of one header the first is read.
-/

namespace ClusterArchive.Http

/-- Header names with their values, in the order they were given. -/
abbrev Headers := List (String × Bytes)

/-- A header name as it is compared. -/
def foldName (name : String) : List Char := name.toList.map Char.toLower

/-- Whether two header names are the same. -/
def sameName (a b : String) : Bool := foldName a == foldName b

/-- Whether a byte may stand in a readable header value. -/
def isReadable (b : UInt8) : Bool := (0x20 ≤ b && b < 0x7F) || b == 0x09

/-- The first value of a header. -/
def Headers.first? (headers : Headers) (name : String) : Option Bytes :=
  (headers.find? fun h => sameName h.1 name).map (·.2)

/-- The first value of a header as text; a value with other bytes than readable ones counts as
missing. -/
def Headers.text? (headers : Headers) (name : String) : Option String :=
  (headers.first? name).bind fun value =>
    if value.all isReadable then (Utf8.decode? value).map String.ofList else none

/-- A request; `target` is the path with the query behind a question mark, if there is one. -/
structure Request where
  method : String
  target : String
  headers : Headers
  body : Bytes

/-- The path of a request. -/
def Request.path (r : Request) : List Char := r.target.toList.takeWhile (· != '?')

/-- The query of a request, empty if it has none. -/
def Request.query (r : Request) : List Char := (r.target.toList.dropWhile (· != '?')).drop 1

/-- The content type of text responses. -/
def plainText : String := "text/plain; charset=utf-8"

/-- A response: its status, its content type and the frames of its body in the order they are
sent. -/
structure Response where
  status : Nat
  contentType : Option String
  frames : List Bytes
deriving DecidableEq, Repr

namespace Response

/-- A response without a body. -/
def bare (status : Nat) : Response := ⟨status, none, []⟩

/-- A text response. -/
def text (status : Nat) (message : String) : Response :=
  ⟨status, some plainText, [utf8Bytes message]⟩

/-- The body as a whole. -/
def body (r : Response) : Bytes := r.frames.flatten

end Response

/-- The response of a health check. -/
def healthy : Response := .text 200 "ok"

/-- The response to a request that a path answers to by reading only. -/
def onRead (method : String) (response : Response) : Response :=
  if method = "GET" then response
  else if method = "HEAD" then { response with frames := [] }
  else .bare 405

end ClusterArchive.Http
