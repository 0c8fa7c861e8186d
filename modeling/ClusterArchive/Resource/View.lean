import ClusterArchive.Json.Reader
import ClusterArchive.Resource.Gvk
import ClusterArchive.Text.Blank
import ClusterArchive.Text.Withheld
import ClusterArchive.Yaml.Value

/-!
# Resources

A resource is an object with an `apiVersion`, a kind and a name. What it is identified by is read
from it once; the whole object stays at hand for predicates.
-/

namespace ClusterArchive

/-- What identifies a resource; the namespace of cluster-scoped kinds is empty. -/
structure Identity where
  namespace_ : String
  name : String
  uid : String
  gvk : Gvk
  resourceVersion : String
deriving DecidableEq, Repr

/-- A resource: the object and its identity. -/
structure Resource where
  object : Json.Value
  identity : Identity

/-- Why a payload is no resource. -/
inductive DecodeError
  | json
  | yaml
  | notAnObject
  | missingField (path : String)
deriving DecidableEq, Repr

/-- The message of a decoding error. -/
def DecodeError.message : DecodeError → String
  | json => "invalid json payload: " ++ Text.withheld
  | yaml => "invalid yaml payload: " ++ Text.withheld
  | notAnObject => "payload is not an object"
  | missingField path => "payload is missing required field " ++ path

namespace Resource

/-- The string at a path, which has to be there. -/
def required (path : List String) (object : Json.Value) : Except DecodeError String :=
  match object.stringAt? path with
  | some s => .ok s
  | none => .error (.missingField (Text.joined "." path))

/-- The string at a path, empty if it is not there. -/
def optional (path : List String) (object : Json.Value) : String := (object.stringAt? path).getD ""

/-- The resource that a value is. -/
def ofValue (object : Json.Value) : Except DecodeError Resource :=
  if !object.isObject then .error .notAnObject
  else
    match required ["apiVersion"] object with
    | .error e => .error e
    | .ok apiVersion =>
      match required ["kind"] object with
      | .error e => .error e
      | .ok kind =>
        match required ["metadata", "name"] object with
        | .error e => .error e
        | .ok name =>
          .ok ⟨object,
            { namespace_ := optional ["metadata", "namespace"] object
              name
              uid := optional ["metadata", "uid"] object
              gvk := .ofApiVersion apiVersion kind
              resourceVersion := optional ["metadata", "resourceVersion"] object }⟩

/-- Whether a content type names the indented notation; any other, and none, means objects in
braces. -/
def namesYaml (contentType : Option String) : Bool :=
  contentType.any fun ct => Text.occursIn ['y', 'a', 'm', 'l'] (Text.asciiLower ct.toList)

/-- The resource that a payload of the given content type holds. -/
def decode (contentType : Option String) (payload : Bytes) : Except DecodeError Resource :=
  if namesYaml contentType then
    match Yaml.readBytes? payload with
    | some v => ofValue v
    | none => .error .yaml
  else
    match Json.readBytes? payload with
    | some v => ofValue v
    | none => .error .json

/-- A part of the object such as `metadata`, `spec` or `status`. -/
def section? (r : Resource) (name : String) : Option Json.Value := r.object.get? name

end Resource

end ClusterArchive
