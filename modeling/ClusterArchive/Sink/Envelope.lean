import ClusterArchive.Http.Message
import ClusterArchive.Json.Printer
import ClusterArchive.Json.Reader
import ClusterArchive.Text.Withheld

/-!
# Envelopes

An event arrives as a request in one of two modes. In binary mode its id stands in a header and the
body is the payload; in structured mode the body is an object that holds id, content type and data.
An object in structured mode may also be written as an array of the three.
-/

namespace ClusterArchive.Sink

/-- An event: its id, the content type of the payload and the payload. -/
structure Envelope where
  eventId : String
  contentType : Option String
  payload : Bytes
deriving DecidableEq, Repr

/-- Why a request carries no event. -/
inductive EnvelopeError
  | missingId
  | malformed
  | missingData
deriving DecidableEq, Repr

/-- The message of an error. -/
def EnvelopeError.message : EnvelopeError → String
  | missingId => "missing ce-id header"
  | malformed => "invalid structured cloudevent: " ++ Text.withheld
  | missingData => "cloudevent carries no data"

namespace Structured

open Json (Input Value)

/-- An event in structured mode, as far as it has been read: each member that was given, with its
value if that is not null. -/
structure Event where
  id : Option String
  contentType : Option (Option String)
  data : Option (Option Value)

/-- How deep the members of an event may nest. -/
def memberDepth : Nat := Json.depthLimit - 1

/-- Reads a value, null being none. -/
def optional (input : Input) : Option (Option Value × Input) :=
  (Json.value memberDepth input).map fun r =>
    (match r.1 with
      | .null => none
      | v => some v, r.2)

/-- Reads a text. -/
def text (input : Input) : Option (String × Input) :=
  (Json.value memberDepth input).bind fun r => r.1.asString?.map (·, r.2)

/-- Reads a text or null. -/
def optionalText (input : Input) : Option (Option String × Input) :=
  match optional input with
  | some (none, rest) => some (none, rest)
  | some (some (.string s), rest) => some (some s, rest)
  | _ => none

/-- Reads the value of the member with the given name; a member given before is refused. -/
def member (e : Event) (name : String) (input : Input) : Option (Event × Input) :=
  match name with
  | "id" =>
    if e.id.isSome then none
    else (text input).map fun r => ({ e with id := some r.1 }, r.2)
  | "datacontenttype" =>
    if e.contentType.isSome then none
    else (optionalText input).map fun r => ({ e with contentType := some r.1 }, r.2)
  | "data" =>
    if e.data.isSome then none
    else (optional input).map fun r => ({ e with data := some r.1 }, r.2)
  | _ => (Json.skipValue input).map (e, ·)

/-- Reads members up to the closing brace, at most `count` of them, of which there has to be one. -/
def membersFrom : Nat → Event → Input → Option (Event × Input)
  | 0, _, _ => none
  | count + 1, e, input =>
    match Json.memberName input with
    | none => none
    | some (name, rest) =>
      match member e name rest with
      | none => none
      | some (e, rest) =>
        match Json.skipSpace rest with
        | some ',' :: rest => membersFrom count e rest
        | some '\x7d' :: rest => some (e, rest)
        | _ => none

/-- The text behind a comma or, with nothing read, behind the closing bracket. -/
def continues (input : Input) : Option (Bool × Input) :=
  match Json.skipSpace input with
  | some ',' :: rest => some (true, rest)
  | some ']' :: rest => some (false, rest)
  | _ => none

/-- Reads the items of an event that is written as an array. -/
def items (input : Input) : Option (Event × Input) := do
  let (id, rest) ← text input
  let e : Event := ⟨some id, none, none⟩
  let (more, rest) ← continues rest
  if !more then return (e, rest)
  let (contentType, rest) ← optionalText rest
  let e := { e with contentType := some contentType }
  let (more, rest) ← continues rest
  if !more then return (e, rest)
  let (data, rest) ← optional rest
  let (more, rest) ← continues rest
  if more then none else return ({ e with data := some data }, rest)

/-- Reads an event. -/
def event (input : Input) : Option (Event × Input) :=
  match Json.skipSpace input with
  | some '\x7b' :: rest =>
    match Json.skipSpace rest with
    | some '\x7d' :: rest => some (⟨none, none, none⟩, rest)
    | rest => membersFrom (rest.length + 1) ⟨none, none, none⟩ rest
  | some '[' :: rest => items rest
  | _ => none

/-- The payload for a value: the text of a string, the notation of any other value. -/
def payloadOf : Value → Bytes
  | .string s => utf8Bytes s
  | v => utf8Bytes v.render

/-- The envelope of an event. -/
def Event.envelope (e : Event) : Except EnvelopeError Envelope :=
  match e.id, e.data.join with
  | none, _ => .error .malformed
  | some _, none => .error .missingData
  | some id, some data => .ok ⟨id, e.contentType.join, payloadOf data⟩

/-- The envelope that a body in structured mode holds. -/
def envelope (body : Bytes) : Except EnvelopeError Envelope :=
  match event (Utf8.scalars body) with
  | some (e, rest) => if Json.isDone rest then e.envelope else .error .malformed
  | none => .error .malformed

end Structured

/-- The content type that structured mode is recognised by, which parameters may follow. -/
def structuredType : String := "application/cloudevents+json"

/-- The envelope that a request holds. -/
def Envelope.ofRequest (headers : Http.Headers) (body : Bytes) : Except EnvelopeError Envelope :=
  let contentType := headers.text? "content-type"
  if contentType.any (·.startsWith structuredType) then Structured.envelope body
  else
    match headers.text? "ce-id" with
    | none | some "" => .error .missingId
    | some id => .ok ⟨id, contentType, body⟩

end ClusterArchive.Sink
