import ClusterArchive.Archive.Key
import ClusterArchive.Policy.Rules
import ClusterArchive.Resource.Target
import ClusterArchive.Sink.Envelope

/-!
# Processing an event

An event is decoded, judged by the rules, archived and, if the rules say so, deleted from the
cluster. Both judgements are made by the rules that were in force when processing began, the second
one only after the archive has answered. Processing waits at two calls to the outside, one to the
archive and one to the cluster, and goes on with their answers; nothing is tried twice, and nothing
is deleted that was not archived before.

`process` does all this at a stretch. `Course` takes it step by step, with exchanges of the rules in
between.
-/

namespace ClusterArchive.Sink

/-- How the processing of an event ends. -/
inductive Outcome
  | malformed
  | skipped
  | persistFailed
  | archived
  | deleteFailed
  | archivedAndDeleted
deriving DecidableEq, Repr

/-- How a call to the outside ends; one that does not end in time is given up. -/
inductive Answer
  | success
  | failure
  | timeout
deriving DecidableEq, Repr

/-- A write to the archive. -/
structure WriteCall where
  resource : Resource
  payload : Bytes

/-- A deletion from the cluster. -/
structure DeleteCall where
  target : Target
  namespace_ : String
  name : String
deriving DecidableEq, Repr

/-- The deletion of a resource. -/
def DeleteCall.of (r : Resource) : DeleteCall :=
  ⟨.guess r.identity.gvk, r.identity.namespace_, r.identity.name⟩

/-- How processing ends if its deletion is answered. -/
def afterDelete : Answer → Outcome
  | .success => .archivedAndDeleted
  | .failure | .timeout => .deleteFailed

/-- The calls that are made up to the end of processing, and how it ends. -/
structure Trace where
  write : Option WriteCall
  delete : Option DeleteCall
  outcome : Outcome

/-- Processes an event, given how the archive and the cluster answer. -/
def process (rules : Policy.RuleSet) (e : Envelope) (writer deleter : Answer) : Trace :=
  match Resource.decode e.contentType e.payload with
  | .error _ => ⟨none, none, .malformed⟩
  | .ok r =>
    if rules.mustArchive (some r) then
      match writer with
      | .failure | .timeout => ⟨some ⟨r, e.payload⟩, none, .persistFailed⟩
      | .success =>
        if rules.mustDelete (some r) then ⟨some ⟨r, e.payload⟩, some (.of r), afterDelete deleter⟩
        else ⟨some ⟨r, e.payload⟩, none, .archived⟩
    else ⟨none, none, .skipped⟩

/-- Where the processing of an event stands. The rules are kept as long as there is something to
judge. -/
inductive Processing
  | received (rules : Policy.RuleSet) (event : Envelope)
  | decoded (rules : Policy.RuleSet) (call : WriteCall)
  | writing (rules : Policy.RuleSet) (call : WriteCall)
  | written (rules : Policy.RuleSet) (call : WriteCall)
  | deleting (call : DeleteCall)
  | finished (outcome : Outcome)

/-- What passes between processing and the outside: a call, or the answer to the last one. -/
inductive Contact
  | write (call : WriteCall)
  | delete (call : DeleteCall)
  | answer (a : Answer)

namespace Processing

/-- Does what comes next, unless processing waits for an answer or is at its end. -/
def advance : Processing → Processing
  | received rules e =>
    match Resource.decode e.contentType e.payload with
    | .error _ => finished .malformed
    | .ok r => decoded rules ⟨r, e.payload⟩
  | decoded rules call =>
    if rules.mustArchive (some call.resource) then writing rules call else finished .skipped
  | written rules call =>
    if rules.mustDelete (some call.resource) then deleting (.of call.resource)
    else finished .archived
  | p => p

/-- Goes on with the answer to the call that processing waits for. -/
def resume (a : Answer) : Processing → Processing
  | writing rules call =>
    match a with
    | .success => written rules call
    | .failure | .timeout => finished .persistFailed
  | deleting _ => finished (afterDelete a)
  | p => p

/-- Whether processing goes on by itself. -/
def isReady : Processing → Bool
  | received .. | decoded .. | written .. => true
  | writing .. | deleting _ | finished _ => false

/-- The call that processing waits for. -/
def call? : Processing → Option Contact
  | writing _ call => some (.write call)
  | deleting call => some (.delete call)
  | _ => none

/-- The answer that processing waits for, given how the archive and the cluster answer. -/
def answer? (writer deleter : Answer) : Processing → Option Answer
  | writing .. => some writer
  | deleting _ => some deleter
  | _ => none

/-- The next step, given how the archive and the cluster answer. -/
def next (writer deleter : Answer) (p : Processing) : Processing :=
  match p.answer? writer deleter with
  | some a => p.resume a
  | none => p.advance

/-- How many steps are left at most. -/
def stepsLeft : Processing → Nat
  | received .. => 5
  | decoded .. => 4
  | writing .. => 3
  | written .. => 2
  | deleting _ => 1
  | finished _ => 0

end Processing

/-- An event under way: the rules now in force, where processing stands, and what has passed between
it and the outside so far. -/
structure Course where
  inForce : Policy.RuleSet
  state : Processing
  contacts : List Contact

/-- What may happen while an event is under way. -/
inductive Happening
  | exchange (rules : Policy.RuleSet)
  | proceed

namespace Course

/-- An event taken up under the rules in force. -/
def start (inForce : Policy.RuleSet) (e : Envelope) : Course := ⟨inForce, .received inForce e, []⟩

/-- The course after processing has gone on by one step. -/
def proceed (writer deleter : Answer) (c : Course) : Course :=
  let state := c.state.next writer deleter
  { c with
    state
    contacts :=
      c.contacts ++ ((c.state.answer? writer deleter).map .answer).toList ++ state.call?.toList }

/-- The course after something has happened. -/
def step (writer deleter : Answer) (c : Course) : Happening → Course
  | .exchange rules => { c with inForce := rules }
  | .proceed => c.proceed writer deleter

/-- The course after things have happened in order. -/
def run (writer deleter : Answer) (c : Course) (happenings : List Happening) : Course :=
  happenings.foldl (step writer deleter) c

end Course

end ClusterArchive.Sink
