import ClusterArchive.Resource.Gvk

/-!
# Policy keys

A policy file holds the rules of one scope. The file name `_global` stands for the whole cluster,
every other name for the namespace of that name. A rule belongs to a scope and a resource type.
-/

namespace ClusterArchive.Policy

/-- The file name reserved for rules that hold in every namespace. -/
def globalName : String := "_global"

/-- Where a rule holds. -/
inductive Scope
  | everywhere
  | namespaced (name : String)
deriving DecidableEq, Repr

namespace Scope

/-- The scope of the policy file with the given name. -/
def ofFileName (name : String) : Scope :=
  if name = globalName then .everywhere else .namespaced name

/-- The scope as text, which is the name of its file. -/
def text : Scope → String
  | .everywhere => globalName
  | .namespaced name => name

end Scope

/-- What a rule is found by. -/
structure Key where
  scope : Scope
  gvk : Gvk
deriving DecidableEq, Repr

/-- The key as text. -/
def Key.text (k : Key) : String := k.scope.text ++ ":" ++ k.gvk.text

end ClusterArchive.Policy
