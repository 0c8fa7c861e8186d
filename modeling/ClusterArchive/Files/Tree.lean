import ClusterArchive.Files.Listing
import ClusterArchive.Text.Pieces

/-!
# File trees

Files, directories and links below one root, by their paths. A path is followed part by part; links
are followed as well, relative to where they stand, but no more than forty in a row. A link that
leads out of the tree leads nowhere.
-/

namespace ClusterArchive.Files

/-- What stands at a path. -/
inductive Node
  | file (contents : Bytes) (modified : Int)
  | directory
  | link (target : String)
deriving DecidableEq, Repr

/-- A path below the root, part by part. -/
abbrev Path := List String

/-- The nodes below the root, each with its path. -/
abbrev Tree := List (Path × Node)

/-- The parts of a path. -/
def partsOf (path : String) : Path :=
  ((Text.pieces '/' path.toList).map String.ofList).filter fun p => !p.isEmpty && p != "."

namespace Tree

/-- What stands at a path whose last part is not followed. -/
def get? (t : Tree) (path : Path) : Option Node :=
  if path.isEmpty then some .directory else (t.find? (·.1 == path)).map (·.2)

/-- Puts a node in the place of what stood at its path. -/
def set (t : Tree) (path : Path) (node : Node) : Tree := (path, node) :: t.filter (·.1 != path)

/-- The directories that lead to a path. -/
def parents (path : Path) : List Path :=
  ((List.range path.length).map path.take).filter (!·.isEmpty)

/-- Puts a node at a path; directories that lead there are made. -/
def put (t : Tree) (path : Path) (node : Node) : Tree :=
  ((parents path).foldl
    (fun t p => if (t.get? p).isNone then t.set p .directory else t) t).set path node

/-- Removes what stands at a path, with all that stands below it. -/
def remove (t : Tree) (path : Path) : Tree := t.filter fun n => !path.isPrefixOf n.1

/-- What a path leads to from a directory, when at most `links` more links and `steps` more parts
may be followed. -/
def follow (t : Tree) (links : Nat) : Nat → Path → Path → Except Failure (Path × Node)
  | _, base, [] => .ok (base, .directory)
  | 0, _, _ => .error .linkLoop
  | steps + 1, base, part :: rest =>
    if part = ".." then
      if base.isEmpty then .error .notFound else t.follow links steps base.dropLast rest
    else
      match t.get? (base ++ [part]) with
      | none => .error .notFound
      | some .directory => t.follow links steps (base ++ [part]) rest
      | some (.file contents modified) =>
        if rest.isEmpty then .ok (base ++ [part], .file contents modified)
        else .error .notADirectory
      | some (.link target) =>
        if target.startsWith "/" then .error .notFound
        else
          match links with
          | 0 => .error .linkLoop
          | links + 1 => t.follow links steps base (partsOf target ++ rest)

/-- How many links are followed in a row. -/
def linkLimit : Nat := 40

/-- The number of parts of a path and of all links that may be followed on its way. -/
def stepLimit (t : Tree) (path : Path) : Nat :=
  let longest := (t.map fun n => match n.2 with
    | .link target => target.length
    | _ => 0).foldl max 0
  path.length + (linkLimit + 1) * (longest + 1)

/-- What a path leads to. -/
def resolve (t : Tree) (path : Path) : Except Failure (Path × Node) :=
  t.follow linkLimit (t.stepLimit path) [] path

/-- The names of what stands in a directory. -/
def namesIn (t : Tree) (directory : Path) : List String :=
  t.filterMap fun n =>
    if n.1.dropLast = directory then n.1.getLast? else none

/-- What an entry of a directory leads to. -/
def target? (t : Tree) (path : Path) : Option Target :=
  match t.resolve path with
  | .ok (_, .file contents modified) => some (.file (.ok contents) modified)
  | .ok (place, .directory) => some (.directory (t.namesIn place))
  | _ => none

/-- The listing of the directory that a path leads to. -/
def list (t : Tree) (path : String) : Listing :=
  match t.resolve (partsOf path) with
  | .ok (place, .directory) =>
    .ok ((t.namesIn place).map fun name => ⟨name, t.target? (place ++ [name])⟩)
  | .ok _ => .error .notADirectory
  | .error e => .error e

end Tree

end ClusterArchive.Files
