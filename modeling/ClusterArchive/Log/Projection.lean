import ClusterArchive.Json.Printer
import ClusterArchive.Log.Error
import ClusterArchive.Path.Query
import ClusterArchive.Path.Reader
import ClusterArchive.Text.Blank
import ClusterArchive.Text.Pieces
import ClusterArchive.Text.Withheld

/-!
# Projection of log lines

A log line is passed on as it is, or read as a value of which a path chooses the strings to pass on.
Blank lines contribute nothing, nor do lines whose chosen strings are empty when joined.
-/

namespace ClusterArchive.Log

/-- How a line of the backend becomes output. -/
inductive Projection
  | passthrough
  | select (path : Path.Query)

namespace Projection

/-- The projection for a path expression; a missing or blank one passes lines through. -/
def compile (expression : Option String) : Except Error Projection :=
  match expression.map fun e => Text.trim e.toList with
  | none | some [] => .ok passthrough
  | some text =>
    match Path.Query.read? text with
    | some q => .ok (select q)
    | none => .error (.invalidProjection (String.ofList text) Text.withheld)

/-- The strings among the chosen values; any other value is a failure. -/
def strings : List Json.Value → Except Error (List String)
  | [] => .ok []
  | .string s :: rest => (strings rest).map (s :: ·)
  | v :: _ => .error (.nonStringMatch v.render)

/-- The text of a line: its bytes read lossily, without one carriage return at the end. -/
def lineText (raw : Bytes) : List Char :=
  let text := Utf8.lossy raw
  (Text.withoutEnding? ['\r'] text).getD text

/-- The output for a text that is not blank. -/
def output (p : Projection) (text : List Char) : Except Error String :=
  match p with
  | passthrough => .ok (String.ofList text)
  | select path =>
    match Json.readText? text with
    | none => .error (.parse Text.withheld)
    | some doc => (strings (path.run doc)).map (Text.joined "\n")

/-- The output for a raw line, if it contributes any. -/
def project (p : Projection) (raw : Bytes) : Except Error (Option String) :=
  let text := lineText raw
  if Text.allBlank text then .ok none
  else (p.output text).map fun out => if out.isEmpty then none else some out

end Projection

end ClusterArchive.Log
