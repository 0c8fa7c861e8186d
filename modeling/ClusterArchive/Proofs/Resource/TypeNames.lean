import ClusterArchive.Proofs.Archive.Rows
import ClusterArchive.Proofs.Policy.RuleTable
import ClusterArchive.Proofs.Resource.ApiVersion
import ClusterArchive.Proofs.Resource.Decoding
import ClusterArchive.Sink.Processing

/-! # Types by their names

A type is written as an `apiVersion` and a kind in the archive and in requests to the cluster. What
is written for a type that was read is the plain form of what was read
(`toList_apiVersion_ofApiVersion`), so a text survives exactly if it is plain. What is written is
read back as the type it was written for, unless there is a slash in group or version
(`ofApiVersion_apiVersion`); reading leaves none there, so all that is made of a resource names one
type (`types_read_back`). -/

namespace ClusterArchive.Proofs.Resource.TypeNames

open ClusterArchive.Archive ClusterArchive.Policy ClusterArchive.Sink
open ClusterArchive.Proofs.Archive.Rows ClusterArchive.Proofs.Policy.RuleTable
open ClusterArchive.Proofs.Resource.ApiVersion ClusterArchive.Proofs.Resource.Decoding

/-! ### Reading and writing -/

theorem toList_apiVersion (g : Gvk) :
    g.apiVersion.toList =
      if g.group.toList = [] then g.version.toList
        else g.group.toList ++ '/' :: g.version.toList := by
  unfold Gvk.apiVersion
  by_cases h : g.group = ""
  · simp [h]
  · simp [h]

theorem toList_apiVersion_ofApiVersion (apiVersion kind : String) :
    (Gvk.ofApiVersion apiVersion kind).apiVersion.toList = plainForm apiVersion.toList := by
  rw [toList_apiVersion, plainForm_of_splits (splits_ofApiVersion apiVersion kind)]

theorem plainForm_eq_self_iff {apiVersion : List Char} :
    plainForm apiVersion = apiVersion ↔ Plain apiVersion := by
  refine ⟨fun h => ?_, plainForm_of_plain⟩
  unfold plainForm at h
  split at h
  · simp [← h, Plain]
  · rename_i hc
    split at h
    · rename_i hh
      obtain ⟨rest, rfl⟩ := List.head?_eq_some_iff.mp hh
      have hl := congrArg List.length h
      simp at hl
    · rename_i hh
      exact ⟨Nat.lt_succ_iff.mp (Nat.not_le.mp hc), hh⟩

/-- A text survives reading and writing exactly if it is plain. -/
theorem apiVersion_ofApiVersion_eq_iff {apiVersion kind : String} :
    (Gvk.ofApiVersion apiVersion kind).apiVersion = apiVersion ↔ Plain apiVersion.toList := by
  rw [← String.toList_inj, toList_apiVersion_ofApiVersion, plainForm_eq_self_iff]

variable {g : Gvk}

theorem splits_apiVersion (hg : '/' ∉ g.group.toList) (hv : '/' ∉ g.version.toList) :
    Splits g.apiVersion.toList g.group.toList g.version.toList := by
  rw [toList_apiVersion]
  by_cases h : g.group.toList = []
  · rw [if_pos h, h]
    exact .core hv
  · rw [if_neg h]
    exact .grouped hg hv

/-- A type survives writing and reading if neither its group nor its version has a slash in it. -/
theorem ofApiVersion_apiVersion (hg : '/' ∉ g.group.toList) (hv : '/' ∉ g.version.toList) :
    Gvk.ofApiVersion g.apiVersion g.kind = g := by
  rw [ofApiVersion_of_splits (splits_apiVersion hg hv), String.ofList_toList, String.ofList_toList]

theorem ofApiVersion_again (apiVersion kind : String) :
    Gvk.ofApiVersion (Gvk.ofApiVersion apiVersion kind).apiVersion kind =
      .ofApiVersion apiVersion kind := by
  have h := ofApiVersion_apiVersion (not_mem_group_ofApiVersion apiVersion kind)
    (not_mem_version_ofApiVersion apiVersion kind)
  rwa [kind_ofApiVersion] at h

/-- How the type read off an `apiVersion` and a kind is written and read back. -/
structure ReadBack (apiVersion kind : String) : Prop where
  group : '/' ∉ (Gvk.ofApiVersion apiVersion kind).group.toList
  version : '/' ∉ (Gvk.ofApiVersion apiVersion kind).version.toList
  again : Gvk.ofApiVersion (Gvk.ofApiVersion apiVersion kind).apiVersion kind =
    .ofApiVersion apiVersion kind
  unchanged : (Gvk.ofApiVersion apiVersion kind).apiVersion = apiVersion ↔ Plain apiVersion.toList

theorem readBack (apiVersion kind : String) : ReadBack apiVersion kind where
  group := not_mem_group_ofApiVersion apiVersion kind
  version := not_mem_version_ofApiVersion apiVersion kind
  again := ofApiVersion_again apiVersion kind
  unchanged := apiVersion_ofApiVersion_eq_iff

/-! ### What is made of a resource -/

variable {r : Resource}

/-- When the type `t` is what all that is made of a resource names. -/
structure Denotes (r : Resource) (t : Gvk) : Prop where
  /-- Rules count for the resource by what they have under two keys of the type. -/
  keys : ∀ rules rules' : Rules,
    (∀ scope, (scope = .everywhere ∨ scope = .namespaced r.identity.namespace_) →
    rules.get? ⟨scope, t⟩ = rules'.get? ⟨scope, t⟩) → rules.apply r = rules'.apply r
  /-- The `apiVersion` of the row, whichever row was there before. -/
  column : ∀ (s : Store) (raw : Bytes) (now : Nat), ∃ row,
    (s.write r raw now).get? (archiveKey r) = some row ∧ Gvk.ofApiVersion row.apiVersion t.kind = t
  row : ∀ (raw : Bytes) (now : Nat),
    Gvk.ofApiVersion (Row.of r raw now).apiVersion (Row.of r raw now).kind = t
  target : (DeleteCall.of r).target.gvk = t
  request : Gvk.ofApiVersion (DeleteCall.of r).target.apiResource.apiVersion
    (DeleteCall.of r).target.apiResource.kind = t

theorem denotes_of_stated {apiVersion kind : String} (hs : Stated r apiVersion kind) :
    Denotes r (.ofApiVersion apiVersion kind) := by
  have ha : Gvk.ofApiVersion r.identity.gvk.apiVersion r.identity.gvk.kind =
      .ofApiVersion apiVersion kind := by
    rw [hs.gvk, kind_ofApiVersion, ofApiVersion_again]
  rw [← hs.gvk] at ha ⊢
  refine ⟨fun _ _ => apply_congr, fun s raw now => ?_, fun _ _ => ha, rfl, ha⟩
  obtain ⟨row, hg, hw⟩ := get?_write s r raw now
  exact ⟨row, hg, hw.apiVersion ▸ ha⟩

/-- **Types are read back**: what is written for the type read off a text is read as the type again,
and is the text itself exactly if that is plain; what is written for any type without slashes is
read as the type; and all that is made of a resource names the type read off its `apiVersion` and
its kind. -/
theorem types_read_back :
    (∀ apiVersion kind, ReadBack apiVersion kind) ∧
      (∀ g : Gvk, '/' ∉ g.group.toList → '/' ∉ g.version.toList →
        Gvk.ofApiVersion g.apiVersion g.kind = g) ∧
      ∀ (v : Json.Value) (r : Resource), Resource.ofValue v = .ok r →
        ∃ apiVersion kind, Stated r apiVersion kind ∧
          Denotes r (.ofApiVersion apiVersion kind) := by
  refine ⟨readBack, fun _ => ofApiVersion_apiVersion, fun v r h => ?_⟩
  obtain ⟨apiVersion, kind, hs⟩ := stated_of_ofValue h
  exact ⟨apiVersion, kind, hs, denotes_of_stated hs⟩

/-- A deployment that writes its group and version with one slash. -/
def deployment : Json.Value :=
  .object [("apiVersion", .string "apps/v1"), ("kind", .string "Deployment"),
    ("metadata", .object [("name", .string "d")])]

/-- The deployment's type is its `apiVersion` and kind, and back. -/
theorem read_back_deployment :
    Gvk.ofApiVersion (Gvk.apiVersion ⟨"apps", "v1", "Deployment"⟩) "Deployment" =
      ⟨"apps", "v1", "Deployment"⟩ ∧
      ∃ r apiVersion kind, Resource.ofValue deployment = .ok r ∧ Stated r apiVersion kind ∧
        Denotes r (.ofApiVersion apiVersion kind) := by
  have hd : Resource.ofValue deployment =
      .ok ⟨deployment, ⟨"", "d", "", ⟨"apps", "v1", "Deployment"⟩, ""⟩⟩ := rfl
  obtain ⟨-, hg, hr⟩ := types_read_back
  obtain ⟨apiVersion, kind, hs⟩ := hr _ _ hd
  exact ⟨hg ⟨"apps", "v1", "Deployment"⟩ (by decide) (by decide), _, apiVersion, kind, hd, hs⟩

end ClusterArchive.Proofs.Resource.TypeNames
