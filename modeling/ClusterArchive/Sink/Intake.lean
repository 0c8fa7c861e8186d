import ClusterArchive.Sink.Receiver

/-!
# Intake

The receiver in the course of time. Requests come in one after another; in between, the reader of
the queue takes events out of it, and at some time it may go away. A queue that is full makes a
request wait until an event has been taken, so here the queue has room. Whatever has been put into
it was taken, was lost with the reader, or still waits.
-/

namespace ClusterArchive.Sink

/-- What happens at the receiver: a request comes in, the reader takes the oldest event that waits,
or the reader goes away. -/
inductive Occurrence
  | request (r : Http.Request)
  | take
  | leave

/-- The receiver in the course of time: its queue, the events that were taken and those that were
lost with the reader, the oldest first, and the requests with their answers, in order. -/
structure Intake where
  queue : Queue
  taken : List Envelope
  lost : List Envelope
  answered : List (Http.Request × Http.Response)

namespace Intake

/-- The receiver at the beginning. -/
def start : Intake := ⟨.empty, [], [], []⟩

/-- The receiver after something has happened. -/
def after (s : Intake) : Occurrence → Intake
  | .request r =>
    let (response, queue) := receive s.queue r
    { s with queue, answered := s.answered ++ [(r, response)] }
  | .take =>
    match s.queue.waiting with
    | [] => s
    | e :: rest => { s with queue := { s.queue with waiting := rest }, taken := s.taken ++ [e] }
  | .leave => { s with queue := s.queue.close, lost := s.lost ++ s.queue.waiting }

/-- The receiver after all that has happened, in order. -/
def afterAll (s : Intake) (course : List Occurrence) : Intake := course.foldl after s

/-- All events that were put into the queue, in order. -/
def put (s : Intake) : List Envelope := s.taken ++ s.lost ++ s.queue.waiting

end Intake

end ClusterArchive.Sink
