import ClusterArchive.Yaml.Value

/-!
# Policy definitions

A policy file is a list of definitions. A definition selects a resource type and says when its
resources are archived and when they are deleted. Conditions are texts, whatever a scalar otherwise
stands for; a missing one is blank. Members with other names are ignored, and a member given twice
is refused.
-/

namespace ClusterArchive.Policy

/-- A definition. -/
structure Definition where
  apiVersion : String
  kind : String
  archiveWhen : String
  deleteWhen : String
deriving DecidableEq, Repr

namespace Definition

open Yaml (Document Node)

/-- A node, or the one that an alias stands for. -/
def target? (d : Document) (node : Node) (jumps : Nat) : Option (Node × Nat) :=
  match node with
  | .alias anchor => d.follow? anchor jumps
  | _ => some (node, jumps)

/-- The members of a mapping that have one of the given names. -/
def members? (d : Document) (names : List String) :
    List (Node × Node) → Nat → Option (List (String × Node) × Nat)
  | [], jumps => some ([], jumps)
  | (key, node) :: rest, jumps =>
    match d.text? key jumps with
    | none => none
    | some (name, jumps) =>
      match members? d names rest jumps with
      | none => none
      | some (found, jumps) =>
        if !names.contains name then some (found, jumps)
        else if found.any (·.1 == name) then none
        else some ((name, node) :: found, jumps)

/-- The members with the given names of a node that has to be a mapping. -/
def mapping? (d : Document) (names : List String) (node : Node) (jumps : Nat) :
    Option (List (String × Node) × Nat) :=
  match target? d node jumps with
  | some (.mapping _ entries, jumps) => members? d names entries jumps
  | _ => none

/-- The text of a member; `absent` if there is none of that name. -/
def memberText? (d : Document) (name : String) (absent : Option String)
    (found : List (String × Node)) (jumps : Nat) : Option (String × Nat) :=
  match Json.lookupMember? name found with
  | some node => d.text? node jumps
  | none => absent.map (·, jumps)

/-- The definition that a node is. -/
def read? (d : Document) (node : Node) (jumps : Nat) : Option (Definition × Nat) := do
  let (found, jumps) ← mapping? d ["selector", "archiveWhen", "deleteWhen"] node jumps
  let selector ← Json.lookupMember? "selector" found
  let (selected, jumps) ← mapping? d ["apiVersion", "kind"] selector jumps
  let (apiVersion, jumps) ← memberText? d "apiVersion" none selected jumps
  let (kind, jumps) ← memberText? d "kind" none selected jumps
  let (archiveWhen, jumps) ← memberText? d "archiveWhen" (some "") found jumps
  let (deleteWhen, jumps) ← memberText? d "deleteWhen" (some "") found jumps
  return (⟨apiVersion, kind, archiveWhen, deleteWhen⟩, jumps)

/-- The definitions that nodes are. -/
def readAll? (d : Document) : List Node → Nat → Option (List Definition)
  | [], _ => some []
  | node :: rest, jumps =>
    match read? d node jumps with
    | none => none
    | some (definition, jumps) => (readAll? d rest jumps).map (definition :: ·)

/-- The definitions of a document; an empty document has none. -/
def ofDocument? (d : Document) : Option (List Definition) :=
  let jumps := Yaml.jumpsPerPart * d.size
  match d.root with
  | none => some []
  | some (.scalar _ "" true) => some []
  | some root =>
    match target? d root jumps with
    | some (.sequence _ items, jumps) => readAll? d items jumps
    | _ => none

/-- The definitions written in a policy file. -/
def ofBytes? (contents : Bytes) : Option (List Definition) :=
  ((Utf8.decode? contents).bind Document.read?).bind ofDocument?

end Definition

end ClusterArchive.Policy
