import ClusterArchive.Resource.Gvk
import ClusterArchive.Text.Lowercase

/-!
# Deletion targets

An object is deleted through the plural name of its type. The plural is guessed from the kind alone
by the spelling rules for regular nouns; kinds that already end in "endpoints" are plurals. The
cluster is told of the type in full and looks the object up by plural, namespace and name.
-/

namespace ClusterArchive

/-- The plural of a noun in lower case. -/
def pluralOfNoun (noun : List Char) : List Char :=
  if noun.isEmpty || ['e', 'n', 'd', 'p', 'o', 'i', 'n', 't', 's'].isSuffixOf noun then noun
  else if ['s'].isSuffixOf noun then noun ++ ['e', 's']
  else
    match Text.withoutEnding? ['y'] noun with
    | some stem => stem ++ ['i', 'e', 's']
    | none => noun ++ ['s']

/-- The plural guessed for a kind. -/
def guessPlural (kind : String) : String :=
  String.ofList (pluralOfNoun (Text.lowercase kind.toList))

/-- A resource type together with the plural its objects are addressed by. -/
structure Target where
  gvk : Gvk
  plural : String
deriving DecidableEq, Repr

/-- A resource type as the cluster is told of it. -/
structure ApiResource where
  group : String
  version : String
  apiVersion : String
  kind : String
  plural : String
deriving DecidableEq, Repr

/-- An object as the cluster is asked for it; without a namespace it is one outside of all
namespaces. -/
structure ApiObject where
  resource : ApiResource
  namespace_ : Option String
  name : String
deriving DecidableEq, Repr

namespace Target

/-- The target for a resource type, its plural guessed. -/
def guess (gvk : Gvk) : Target := ⟨gvk, guessPlural gvk.kind⟩

/-- The type of a target for the cluster. -/
def apiResource (t : Target) : ApiResource :=
  { group := t.gvk.group
    version := t.gvk.version
    apiVersion := t.gvk.apiVersion
    kind := t.gvk.kind
    plural := t.plural }

/-- The object that is deleted under a target; an empty namespace is none. -/
def object (t : Target) (namespace_ name : String) : ApiObject :=
  ⟨t.apiResource, if namespace_.isEmpty then none else some namespace_, name⟩

end Target

end ClusterArchive
