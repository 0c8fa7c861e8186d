import ClusterArchive.Proofs.Policy.Errors
import ClusterArchive.Proofs.Resource.ApiVersion
import ClusterArchive.Proofs.Resource.Decoding

/-! # Verdicts are for the selected type

Rules are made of definitions and of nothing else, so a rule that applies to a resource comes from a
definition for its type (`exists_definition_of_apply`). Definition and resource name the type by an
`apiVersion` and a kind, and both are read alike. Kinds are kept apart by reading and so is every
`apiVersion` in its plain form; hence a verdict on a resource is due to a definition that selects
its kind and its `apiVersion` up to plain form (`selected_of_verdict`). Up to plain form only: all
texts with several slashes are one (`deleted_although_not_selected`). -/

namespace ClusterArchive.Proofs.Policy.SelectedType

open ClusterArchive.Policy ClusterArchive.Proofs.Policy.LastDefinition
  ClusterArchive.Proofs.Policy.Errors
open ClusterArchive.Proofs.Resource.ApiVersion ClusterArchive.Proofs.Resource.Decoding

variable {calls : List (Scope × List Definition)} {l : Loaded} {r : Resource}

/-! ### Rules come from definitions -/

theorem mem_flatten {x : Scoped} (h : x ∈ flatten calls) : ∃ call ∈ calls, x.2 ∈ call.2 := by
  obtain ⟨call, hc, hx⟩ := List.mem_flatMap.mp h
  obtain ⟨d, hd, rfl⟩ := List.mem_map.mp hx
  exact ⟨call, hc, hd⟩

/-- Definitions that have been added do not halt the reading. -/
theorem not_halts_of_addAll (h : Loaded.empty.addAll calls = .ok l) :
    ∀ call ∈ calls, ∀ d ∈ call.2, ∀ a, ¬ Halts (condition d a) := by
  intro call hc d hd a
  have hx : (call.1, d) ∈ flatten calls :=
    List.mem_flatMap.mpr ⟨call, hc, List.mem_map.mpr ⟨d, hd, rfl⟩⟩
  exact (reports_addAll .empty calls l h).1 _ (mem_conditionsOf hx a)

theorem rulesFor_addAll (h : Loaded.empty.addAll calls = .ok l) (a : Action) :
    rulesFor l.rules a = table a [] (flatten calls) := by
  obtain ⟨l', hl', hr⟩ := exists_addAll .empty (not_halts_of_addAll h)
  obtain rfl : l = l' := Except.ok.inj (h.symm.trans hl')
  rw [hr]
  cases a <;> rfl

theorem exists_definition_of_apply (h : Loaded.empty.addAll calls = .ok l) {a : Action}
    (hr : (rulesFor l.rules a).apply r = true) :
    ∃ call ∈ calls, ∃ d ∈ call.2, gvkOf d = r.identity.gvk := by
  rw [rulesFor_addAll h a] at hr
  obtain ⟨scope, -, before, d, after, -, hx, hg, -⟩ := apply_table_iff.mp hr
  have hm : (scope, d) ∈ flatten calls := by
    rw [hx]
    exact List.mem_append_right before List.mem_cons_self
  obtain ⟨call, hc, hd⟩ := mem_flatten hm
  exact ⟨call, hc, d, hd, hg⟩

theorem exists_apply_of_verdict {rules : RuleSet}
    (h : rules.mustDelete (some r) = true ∨ rules.mustArchive (some r) = true) :
    ∃ a, (rulesFor rules a).apply r = true := by
  rcases h with h | h
  · exact ⟨.delete, h⟩
  · rcases (Bool.or_eq_true _ _).mp h with h | h
    · exact ⟨.delete, h⟩
    · exact ⟨.archive, h⟩

/-- What comes of definitions and a payload together, both of which can be read. -/
theorem exists_results {α : Type} {f : Loaded → Resource → α} {x : α} {contentType : Option String}
    {payload : Bytes}
    (h : ((Loaded.empty.addAll calls).toOption.bind fun l =>
      (Resource.decode contentType payload).toOption.map (f l)) = some x) :
    ∃ l r, Loaded.empty.addAll calls = .ok l ∧ Resource.decode contentType payload = .ok r ∧
      f l r = x := by
  cases hl : Loaded.empty.addAll calls with
  | error e =>
    rw [hl] at h
    cases h
  | ok l =>
    cases hd : Resource.decode contentType payload with
    | error e =>
      rw [hl, hd] at h
      cases h
    | ok r =>
      rw [hl, hd] at h
      exact ⟨l, r, rfl, rfl, Option.some.inj h⟩

/-! ### The selected type -/

/-- Whether a definition selects a resource: the kind is the same text as that of the resource, and
the `apiVersion` has the same plain form, which it is itself unless it has several slashes or begins
with one. -/
structure Selects (d : Definition) (r : Resource) (apiVersion : String) : Prop where
  kind : r.object.stringAt? ["kind"] = some d.kind
  apiVersion_field : r.object.stringAt? ["apiVersion"] = some apiVersion
  plain_form : plainForm d.apiVersion.toList = plainForm apiVersion.toList
  plain : Plain d.apiVersion.toList → Plain apiVersion.toList → d.apiVersion = apiVersion

theorem selects_of_gvkOf_eq {d : Definition} {apiVersion kind : String}
    (hs : Stated r apiVersion kind) (hg : gvkOf d = r.identity.gvk) : Selects d r apiVersion := by
  obtain ⟨hp, rfl⟩ := ofApiVersion_eq_iff.mp (hg.trans hs.gvk)
  refine ⟨hs.kind_field, hs.apiVersion_field, hp, fun hd ha => ?_⟩
  rw [plainForm_of_plain hd, plainForm_of_plain ha] at hp
  exact String.toList_injective hp

/-- **A verdict on a resource is due to a definition that selects it.** -/
theorem selected_of_verdict (h : Loaded.empty.addAll calls = .ok l) {contentType : Option String}
    {payload : Bytes} (hd : Resource.decode contentType payload = .ok r)
    (hv : l.rules.mustDelete (some r) = true ∨ l.rules.mustArchive (some r) = true) :
    ∃ call ∈ calls, ∃ d ∈ call.2, ∃ apiVersion, Selects d r apiVersion := by
  obtain ⟨a, ha⟩ := exists_apply_of_verdict hv
  obtain ⟨call, hc, d, hm, hg⟩ := exists_definition_of_apply h ha
  obtain ⟨apiVersion, kind, hs⟩ := stated_of_decode hd
  exact ⟨call, hc, d, hm, apiVersion, selects_of_gvkOf_eq hs hg⟩

/-- A pod of the given `apiVersion`, in indented notation. -/
def podOf (apiVersion : String) : Bytes :=
  utf8Bytes ("apiVersion: " ++ apiVersion ++ "\nkind: Pod\nmetadata:\n  name: p\n  namespace: ns\n")

/-- Archives pods in the namespace `ns`, with a slash too many in the `apiVersion`. -/
def slashed : List (Scope × List Definition) := [(.namespaced "ns", [⟨"/v1", "Pod", "true", ""⟩])]

theorem selected_slashed : ∃ l r, Loaded.empty.addAll slashed = .ok l ∧
    Resource.decode (some "application/yaml") (podOf "v1") = .ok r ∧
      l.rules.mustArchive (some r) = true ∧
      ∃ call ∈ slashed, ∃ d ∈ call.2, ∃ apiVersion, Selects d r apiVersion := by
  have he : ((Loaded.empty.addAll slashed).toOption.bind fun l =>
      (Resource.decode (some "application/yaml") (podOf "v1")).toOption.map fun r =>
        l.rules.mustArchive (some r)) = some true := by decide +kernel
  obtain ⟨l, r, hl, hd, hv⟩ := exists_results he
  exact ⟨l, r, hl, hd, hv, selected_of_verdict hl hd (.inr hv)⟩

/-- Deletes pods of a malformed `apiVersion`. -/
def malformed : List (Scope × List Definition) := [(.everywhere, [⟨"a/b/c", "Pod", "", "true"⟩])]

/-- A pod of another malformed `apiVersion` is deleted, too. -/
theorem deleted_although_not_selected : ∃ l r, Loaded.empty.addAll malformed = .ok l ∧
    Resource.decode (some "application/yaml") (podOf "x/y/z") = .ok r ∧
      l.rules.mustDelete (some r) = true ∧
      ¬ ∃ call ∈ malformed, ∃ d ∈ call.2, r.object.stringAt? ["kind"] = some d.kind ∧
        r.object.stringAt? ["apiVersion"] = some d.apiVersion := by
  have he : ((Loaded.empty.addAll malformed).toOption.bind fun l =>
      (Resource.decode (some "application/yaml") (podOf "x/y/z")).toOption.map fun r =>
        (l.rules.mustDelete (some r), r.object.stringAt? ["apiVersion"])) =
            some (true, some "x/y/z") := by
    decide +kernel
  obtain ⟨l, r, hl, hd, hv⟩ := exists_results he
  obtain ⟨hv, ha⟩ := Prod.mk.inj hv
  refine ⟨l, r, hl, hd, hv, ?_⟩
  rintro ⟨call, hc, d, hm, -, hd⟩
  obtain rfl := List.mem_singleton.mp hc
  obtain rfl := List.mem_singleton.mp hm
  rw [ha] at hd
  exact absurd hd (by decide)

end ClusterArchive.Proofs.Policy.SelectedType
