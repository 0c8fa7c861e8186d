import ClusterArchive.Text.Utf8

/-!
# Directory listings

What a look into a directory shows: its entries with what they lead to, links being followed. An
entry that leads nowhere is listed all the same.
-/

namespace ClusterArchive.Files

/-- Why a file or a directory cannot be read. -/
inductive Failure
  | notFound
  | notADirectory
  | isADirectory
  | invalidData
  | linkLoop
  | other
deriving DecidableEq, Repr

/-- What an entry leads to. A directory shows its size and time of modification as `stamp`. -/
inductive Target
  | file (contents : Except Failure Bytes) (modified : Int)
  | directory (stamp : List String)

/-- An entry of a directory; a link that leads nowhere has no target. -/
structure Entry where
  name : String
  target : Option Target

/-- The entries of a directory, or why it cannot be read. -/
abbrev Listing := Except Failure (List Entry)

namespace Entry

/-- Whether the entry leads to a directory. -/
def isDirectory (e : Entry) : Bool :=
  match e.target with
  | some (.directory _) => true
  | _ => false

/-- Whether the entry leads to a file. -/
def isFile (e : Entry) : Bool :=
  match e.target with
  | some (.file ..) => true
  | _ => false

/-- The contents of what the entry leads to. -/
def read (e : Entry) : Except Failure Bytes :=
  match e.target with
  | some (.file contents _) => contents
  | some (.directory _) => .error .isADirectory
  | none => .error .notFound

end Entry

/-- Entries in ascending order of their names. -/
def sortEntries (entries : List Entry) : List Entry :=
  entries.mergeSort fun a b => decide (a.name ≤ b.name)

/-- The path of an entry of a directory. -/
def pathIn (directory name : String) : String :=
  if directory.isEmpty || directory.endsWith "/" then directory ++ name
  else directory ++ "/" ++ name

end ClusterArchive.Files
