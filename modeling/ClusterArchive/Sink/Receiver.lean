import ClusterArchive.Sink.Envelope

/-!
# The receiver

Events that arrive by HTTP are put into a queue. A request is answered before its event is
processed: an accepted one is in the queue, a refused one leaves the queue as it was.
-/

namespace ClusterArchive.Sink

/-- Events that wait, the oldest first; a closed queue takes no more. -/
structure Queue where
  waiting : List Envelope
  closed : Bool
deriving DecidableEq, Repr

namespace Queue

/-- The queue with nothing in it. -/
def empty : Queue := ⟨[], false⟩

/-- The queue with one more event, if it is not closed. -/
def push? (q : Queue) (e : Envelope) : Option Queue :=
  if q.closed then none else some { q with waiting := q.waiting ++ [e] }

/-- The queue with all its events taken out. -/
def drain (q : Queue) : Queue := { q with waiting := [] }

/-- The queue without a reader, which loses its events. -/
def close (_ : Queue) : Queue := ⟨[], true⟩

end Queue

/-- The greatest size of a body. -/
def bodyLimit : Nat := 2 * 1024 * 1024

/-- Takes in the event of a request. -/
def receiveEvent (q : Queue) (r : Http.Request) : Http.Response × Queue :=
  if bodyLimit < r.body.length then (.text 413 Text.withheld, q)
  else
    match Envelope.ofRequest r.headers r.body with
    | .error e => (.text 400 e.message, q)
    | .ok e =>
      match q.push? e with
      | some q => (.bare 202, q)
      | none => (.text 503 "event queue closed", q)

/-- Answers a request. -/
def receive (q : Queue) (r : Http.Request) : Http.Response × Queue :=
  match String.ofList r.path with
  | "/" => if r.method = "POST" then receiveEvent q r else (.bare 405, q)
  | "/healthz" => (Http.onRead r.method Http.healthy, q)
  | _ => (.bare 404, q)

end ClusterArchive.Sink
