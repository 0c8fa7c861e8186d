import ClusterArchive.Archive.Key

/-!
# The archive

The archive keeps one row for each key. The first write under a key makes the row; a later one
renews version, time and data, and leaves kind, name, namespace and the time of creation as they
are. Rows are never removed.
-/

namespace ClusterArchive.Archive

/-- A row; times are counted in whatever unit the writer's clock has. -/
structure Row where
  key : String
  apiVersion : String
  kind : String
  name : String
  namespace_ : String
  resourceVersion : String
  created : Nat
  updated : Nat
  data : String
deriving DecidableEq, Repr

/-- The row that a resource and its payload make at a given time. -/
def Row.of (r : Resource) (raw : Bytes) (now : Nat) : Row :=
  { key := archiveKey r
    apiVersion := r.identity.gvk.apiVersion
    kind := r.identity.gvk.kind
    name := r.identity.name
    namespace_ := r.identity.namespace_
    resourceVersion := r.identity.resourceVersion
    created := now
    updated := now
    data := String.ofList (Utf8.lossy raw) }

/-- A row after a write under its key. -/
def Row.renew (old new : Row) : Row :=
  { old with
    apiVersion := new.apiVersion
    resourceVersion := new.resourceVersion
    updated := new.updated
    data := new.data }

/-- The rows, each key once, in the order of their first writes. -/
abbrev Store := List Row

namespace Store

/-- The row of a key. -/
def get? (s : Store) (key : String) : Option Row := s.find? (·.key == key)

/-- Puts a row into the archive. -/
def upsert (new : Row) : Store → Store
  | [] => [new]
  | row :: rest => if row.key = new.key then row.renew new :: rest else row :: upsert new rest

/-- Writes a resource with its payload. -/
def write (s : Store) (r : Resource) (raw : Bytes) (now : Nat) : Store := s.upsert (.of r raw now)

/-- The number of rows. -/
def count (s : Store) : Nat := s.length

end Store

/-- Where an archive is kept. -/
inductive Place
  | memory
  | file (path : String)
deriving DecidableEq, Repr

namespace Place

/-- The place that a setting stands for; without one it is a file below the home directory, and in
the working directory without a home. -/
def of (setting home : Option String) : Place :=
  match setting, home with
  | some ":memory:", _ => memory
  | some path, _ => file path
  | none, some home => file (home ++ "/.karchive/archive.db")
  | none, none => file "archive.db"

/-- What is left of an archive when it is opened again. -/
def reopen (p : Place) (s : Store) : Store :=
  match p with
  | memory => []
  | file _ => s

end Place

/-- The message for an archive that cannot be opened. -/
def openError (path : String) : String := "opening sqlite db at " ++ path

end ClusterArchive.Archive
