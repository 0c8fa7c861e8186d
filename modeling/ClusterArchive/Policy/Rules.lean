import ClusterArchive.Policy.Key
import ClusterArchive.Predicate

/-!
# Rule sets

A rule set says of which resources an archive copy has to be kept and which are to be deleted from
the cluster. It holds at most one predicate for each action and key; a resource is subject to the
predicates of the whole cluster and of its namespace for its type. What is to be deleted is to be
archived first.
-/

namespace ClusterArchive.Policy

/-- What a rule calls for. -/
inductive Action
  | archive
  | delete
deriving DecidableEq, Repr

/-- The name of the condition in a definition. -/
def Action.text : Action → String
  | archive => "archiveWhen"
  | delete => "deleteWhen"

/-- Predicates by key, each key once. -/
abbrev Rules := List (Key × Predicate)

namespace Rules

/-- The predicate of a key. -/
def get? (rules : Rules) (k : Key) : Option Predicate := (rules.find? (·.1 == k)).map (·.2)

/-- Rules with a predicate in the place of the one that the key had. -/
def insert (k : Key) (p : Predicate) : Rules → Rules
  | [] => [(k, p)]
  | (l, q) :: rest => if l = k then (k, p) :: rest else (l, q) :: insert k p rest

/-- Whether the predicate of a key is there and holds of a resource. -/
def holdFor (rules : Rules) (k : Key) (r : Resource) : Bool := (rules.get? k).any (·.holds r)

/-- Whether a rule of the cluster or of the resource's namespace holds of it. -/
def apply (rules : Rules) (r : Resource) : Bool :=
  rules.holdFor ⟨.everywhere, r.identity.gvk⟩ r ||
    rules.holdFor ⟨.namespaced r.identity.namespace_, r.identity.gvk⟩ r

end Rules

/-- The rules for archiving and for deleting. -/
structure RuleSet where
  archive : Rules
  delete : Rules

namespace RuleSet

/-- The set that archives and deletes nothing. -/
def empty : RuleSet := ⟨[], []⟩

/-- Whether the set has no rules. -/
def isEmpty (s : RuleSet) : Bool := s.archive.isEmpty && s.delete.isEmpty

/-- The set with a predicate for an action and a key. -/
def insert (s : RuleSet) (a : Action) (k : Key) (p : Predicate) : RuleSet :=
  match a with
  | .archive => { s with archive := s.archive.insert k p }
  | .delete => { s with delete := s.delete.insert k p }

/-- Whether a resource is to be deleted; no resource is not. -/
def mustDelete (s : RuleSet) (r : Option Resource) : Bool := r.any s.delete.apply

/-- Whether a resource is to be archived; no resource is not. -/
def mustArchive (s : RuleSet) (r : Option Resource) : Bool :=
  r.any fun r => s.mustDelete (some r) || s.archive.apply r

end RuleSet

end ClusterArchive.Policy
