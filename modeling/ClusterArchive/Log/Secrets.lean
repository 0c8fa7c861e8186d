import ClusterArchive.Files.Listing
import ClusterArchive.Text.Blank

/-!
# Mounted headers

The headers that every backend request carries are mounted as a directory: one file for each header,
its name the name of the header, its contents without blanks around them the value. Hidden entries,
and entries that lead to no file, do not count.
-/

namespace ClusterArchive.Log

/-- The value of the header that an entry holds. -/
def headerValue (e : Files.Entry) : Except Files.Failure String :=
  match e.read with
  | .error f => .error f
  | .ok contents =>
    match Utf8.decode? contents with
    | some text => .ok (String.ofList (Text.trim text))
    | none => .error .invalidData

/-- The headers that entries hold. -/
def headersOf : List Files.Entry → Except Files.Failure (List (String × String))
  | [] => .ok []
  | e :: rest => do
    let value ← headerValue e
    return (e.name, value) :: (← headersOf rest)

/-- The headers of a directory in ascending order of their names. -/
def mountedHeaders (listing : Files.Listing) : Except Files.Failure (List (String × String)) := do
  headersOf (Files.sortEntries ((← listing).filter fun e => !e.name.startsWith "." && e.isFile))

/-- The headers of a directory that may not be given or not be readable, which is as good as
none. -/
def headersOrNone (listing : Option Files.Listing) : List (String × String) :=
  match listing.map mountedHeaders with
  | some (.ok headers) => headers
  | _ => []

end ClusterArchive.Log
