import ClusterArchive.Proofs.Resource.ApiVersion
import ClusterArchive.Proofs.Resource.Decoding
import ClusterArchive.Proofs.Resource.Plural
import ClusterArchive.Proofs.Sink.Judgement

/-! # What a deletion addresses

A deletion is made of what the event says of its resource and of nothing else (`delete_of_along`).
Decoding demands an `apiVersion`, a kind and a name but not that they are more than the empty text,
and neither reading the `apiVersion` nor guessing the plural makes up for that or adds to it: name,
kind, plural and version of a deletion are there exactly if the event gives them
(`deletions_addressed`). So an event with an empty name is answered by a deletion without a name
(`deleted_without_name`). -/

namespace ClusterArchive.Proofs.Sink.Addressed

open ClusterArchive.Sink ClusterArchive.Policy ClusterArchive.Proofs.Sink.Judgement
open ClusterArchive.Proofs.Resource.ApiVersion ClusterArchive.Proofs.Resource.Decoding
open ClusterArchive.Proofs.Resource.Plural

variable {rules : RuleSet} {e : Envelope} {writer deleter : Answer} {call : DeleteCall}

/-- At every state of processing, a deletion that has been called for is that of the event's
resource. -/
theorem delete_of_along {state : Processing} {contacts : List Contact}
    (h : Along rules e writer deleter state contacts) (hm : .delete call ∈ contacts) :
    ∃ r, Resource.decode e.contentType e.payload = .ok r ∧ rules.mustDelete (some r) = true ∧
      call = .of r := by
  cases h with
  | deleting r hd _ _ hx =>
    obtain rfl : call = .of r := by simpa using hm
    exact ⟨r, hd, hx, rfl⟩
  | deleted r hd _ _ hx =>
    obtain rfl : call = .of r := by simpa using hm
    exact ⟨r, hd, hx, rfl⟩
  | _ => simp at hm

/-- What a deletion addresses for an event that holds the resource `r`: the object of the name, the
kind and the `apiVersion` that the event gives, each of them only as far as it is given. -/
structure Addresses (rules : RuleSet) (e : Envelope) (call : DeleteCall) (r : Resource)
    (apiVersion : String) : Prop where
  decoded : Resource.decode e.contentType e.payload = .ok r
  demanded : rules.mustDelete (some r) = true
  name : r.object.stringAt? ["metadata", "name"] = some call.name
  namespace_ : (r.object.stringAt? ["metadata", "namespace"]).getD "" = call.namespace_
  kind : r.object.stringAt? ["kind"] = some call.target.gvk.kind
  apiVersion_field : r.object.stringAt? ["apiVersion"] = some apiVersion
  gvk : call.target.gvk = .ofApiVersion apiVersion call.target.gvk.kind
  plural : call.target.plural = guessPlural call.target.gvk.kind
  plural_ne : call.target.plural ≠ "" ↔ call.target.gvk.kind ≠ ""
  version_ne : call.target.gvk.version ≠ "" ↔ NamesVersion apiVersion.toList

/-- **A deletion addresses what the event names**, whatever the rules say and the archive answers,
and whatever happens while the event is under way. -/
theorem deletions_addressed (happenings : List Happening)
    (h : .delete call ∈ ((Course.start rules e).run writer deleter happenings).contacts) :
    ∃ r apiVersion, Addresses rules e call r apiVersion := by
  have ha : Along rules e writer deleter _ _ :=
    along_run happenings (c := Course.start rules e) .received
  obtain ⟨r, hd, hx, rfl⟩ := delete_of_along ha h
  obtain ⟨apiVersion, kind, hs⟩ := stated_of_decode hd
  have hg : (DeleteCall.of r).target.gvk = .ofApiVersion apiVersion kind := hs.gvk
  have hk : (DeleteCall.of r).target.gvk.kind = kind := by rw [hg, kind_ofApiVersion]
  exact ⟨r, apiVersion, {
    decoded := hd
    demanded := hx
    name := hs.name_field
    namespace_ := hs.namespace_field
    kind := by rw [hk, hs.kind_field]
    apiVersion_field := hs.apiVersion_field
    gvk := by rw [hk, hg]
    plural := rfl
    plural_ne := guessPlural_ne_empty_iff _
    version_ne := by rw [hg, version_ne_empty_iff] }⟩

/-- Deletes all pods. -/
def deletePods : RuleSet :=
  ⟨[], [(⟨.everywhere, ⟨"", "v1", "Pod"⟩⟩, ⟨"true", .literal (.bool true)⟩)]⟩

/-- An event that holds a pod of the given name, as it is written in indented notation. -/
def podEvent (name : String) : Envelope :=
  ⟨"evt", some "application/yaml",
    utf8Bytes ("apiVersion: v1\nkind: Pod\nmetadata:\n  name: " ++ name ++ "\n  namespace: ns\n")⟩

/-- Processing to its end, with the rules taken away on the way. -/
def takenAway : List Happening :=
  [.proceed, .proceed, .exchange .empty, .proceed, .proceed, .proceed]

/-- The deletion called for, if what passes is that. -/
def deletion? : Contact → Option DeleteCall
  | .delete call => some call
  | _ => none

theorem mem_of_deletion? {contacts : List Contact} (h : contacts.findSome? deletion? = some call) :
    .delete call ∈ contacts := by
  obtain ⟨contact, hm, hc⟩ := List.exists_of_findSome?_eq_some h
  cases contact with
  | delete call' =>
    cases hc
    exact hm
  | write _ => cases hc
  | answer _ => cases hc

theorem addressed_pod :
    .delete ⟨.guess ⟨"", "v1", "Pod"⟩, "ns", "p"⟩ ∈
        ((Course.start deletePods (podEvent "p")).run .success .failure takenAway).contacts ∧
      ∃ r apiVersion,
        Addresses deletePods (podEvent "p") ⟨.guess ⟨"", "v1", "Pod"⟩, "ns", "p"⟩ r apiVersion := by
  have h : .delete ⟨.guess ⟨"", "v1", "Pod"⟩, "ns", "p"⟩ ∈
      ((Course.start deletePods (podEvent "p")).run .success .failure takenAway).contacts :=
    mem_of_deletion? (by decide +kernel)
  exact ⟨h, deletions_addressed takenAway h⟩

/-- A pod with an empty name is answered by a deletion that names no pod. -/
theorem deleted_without_name : ∃ call, call.name = "" ∧ .delete call ∈
    ((Course.start deletePods (podEvent "\"\"")).run .success .success takenAway).contacts :=
  ⟨⟨.guess ⟨"", "v1", "Pod"⟩, "ns", ""⟩, rfl, mem_of_deletion? (by decide +kernel)⟩

end ClusterArchive.Proofs.Sink.Addressed
