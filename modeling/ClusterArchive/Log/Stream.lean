import ClusterArchive.Http.Message
import ClusterArchive.Log.Lines
import ClusterArchive.Log.Projection

/-!
# Streaming logs

Lines are read until one contributes output; a failure up to there is the answer to the request.
From then on the response is a success, every line with output is a frame of its body, and a failure
only ends the body. Both loops take their lines from one reader.
-/

namespace ClusterArchive.Log

open Http (Response plainText)

/-- A frame of the body: a projected text and a newline. -/
def frame (out : String) : Bytes := utf8Bytes out ++ [LineReader.newline]

/-- The first output of the lines that a reader yields, and the reader behind that line; or the
failure or the end that comes first. -/
def firstOutput (p : Projection) (r : LineReader) : Except Error (String × LineReader) :=
  match _h : r.next with
  | (none, _) => .error .noLogs
  | (some (.error e), _) => .error e
  | (some (.ok raw), r) =>
    match p.project raw with
    | .error e => .error e
    | .ok none => firstOutput p r
    | .ok (some out) => .ok (out, r)
termination_by r.pending
decreasing_by exact LineReader.pending_next _h

/-- The frames of the lines that a reader yields, up to the first failure. -/
def framesOf (p : Projection) (r : LineReader) : List Bytes :=
  match _h : r.next with
  | (none, _) | (some (.error _), _) => []
  | (some (.ok raw), r) =>
    match p.project raw with
    | .error _ => []
    | .ok none => framesOf p r
    | .ok (some out) => frame out :: framesOf p r
termination_by r.pending
decreasing_by all_goals exact LineReader.pending_next _h

/-- The response to a backend body. -/
def streamLogs (p : Projection) (stream : List Arrival) : Except Error Response :=
  match firstOutput p (.ofStream stream) with
  | .error e => .error e
  | .ok (out, r) => .ok ⟨200, some plainText, frame out :: framesOf p r⟩

end ClusterArchive.Log
