import ClusterArchive.Yaml.Node
import ClusterArchive.Yaml.Scalar

/-!
# From documents to values

A document is read as a value by replacing aliases and resolving scalars. Keys are taken as written,
whatever they stand for, and of two entries with one key the later stays. Containers may nest 128
deep, and a document of `n` parts may follow aliases `100 · n` times.
-/

namespace ClusterArchive.Yaml

open Json (Value)

/-- How deep containers may nest. -/
def depthLimit : Nat := 128

/-- How often aliases may be followed per part of a document. -/
def jumpsPerPart : Nat := 100

/-- Whether a collection has a tag of the document's own. -/
def hasLocalTag (tag : Option String) : Bool := tag.any (·.startsWith "!")

/-- Follows an alias: how many more may be followed, and the node. -/
def Document.follow? (d : Document) (anchor jumps : Nat) : Option (Node × Nat) :=
  match jumps with
  | 0 => none
  | n + 1 => (d.anchoredNode? anchor).map (·, n)

/-- The text of a scalar, directly or through an alias. -/
def Document.text? (d : Document) (node : Node) (jumps : Nat) : Option (String × Nat) :=
  match node with
  | .scalar _ text _ => some (text, jumps)
  | .alias anchor =>
    match d.follow? anchor jumps with
    | some (.scalar _ text _, jumps) => some (text, jumps)
    | _ => none
  | _ => none

mutual
/-- The value of a node, aliases being read by `follow` at the depth where they stand. -/
def valueWith (d : Document) (follow : Nat → Nat → Nat → Option (Value × Nat)) :
    Nat → Node → Nat → Option (Value × Nat)
  | _, .scalar tag text plain, jumps => (scalarValue? tag text plain).map (·, jumps)
  | depth, .alias anchor, jumps => follow depth anchor jumps
  | depth, .sequence tag items, jumps =>
    if hasLocalTag tag || depth = 0 then none
    else (itemsWith d follow (depth - 1) items jumps).map fun r => (.array r.1, r.2)
  | depth, .mapping tag entries, jumps =>
    if hasLocalTag tag || depth = 0 then none
    else (entriesWith d follow (depth - 1) entries jumps).map fun r => (.ofMembers r.1, r.2)

/-- The values of items. -/
def itemsWith (d : Document) (follow : Nat → Nat → Nat → Option (Value × Nat)) :
    Nat → List Node → Nat → Option (List Value × Nat)
  | _, [], jumps => some ([], jumps)
  | depth, item :: rest, jumps =>
    match valueWith d follow depth item jumps with
    | some (v, jumps) => (itemsWith d follow depth rest jumps).map fun r => (v :: r.1, r.2)
    | none => none

/-- The keys and values of entries. -/
def entriesWith (d : Document) (follow : Nat → Nat → Nat → Option (Value × Nat)) :
    Nat → List (Node × Node) → Nat → Option (List (String × Value) × Nat)
  | _, [], jumps => some ([], jumps)
  | depth, (key, node) :: rest, jumps =>
    match d.text? key jumps with
    | none => none
    | some (name, jumps) =>
      match valueWith d follow depth node jumps with
      | some (v, jumps) =>
        (entriesWith d follow depth rest jumps).map fun r => ((name, v) :: r.1, r.2)
      | none => none
end

/-- The value of a node in which at most `levels` aliases are nested in one another. -/
def Document.valueOf (d : Document) : Nat → Nat → Node → Nat → Option (Value × Nat)
  | 0, _, _, _ => none
  | levels + 1, depth, node, jumps =>
    valueWith d (fun depth anchor jumps =>
      match d.follow? anchor jumps with
      | some (node, jumps) => d.valueOf levels depth node jumps
      | none => none) depth node jumps

/-- The value of a document. Between two nested aliases there is a container, so the depth limit
bounds their nesting. -/
def Document.value? (d : Document) : Option Value :=
  match d.root with
  | none => some .null
  | some root => (d.valueOf (depthLimit + 2) depthLimit root (jumpsPerPart * d.size)).map (·.1)

/-- The value written in a text. -/
def readText? (text : List Char) : Option Value := (Document.read? text).bind Document.value?

/-- The value written in a byte sequence. -/
def readBytes? (bytes : Bytes) : Option Value := (Utf8.decode? bytes).bind readText?

end ClusterArchive.Yaml
