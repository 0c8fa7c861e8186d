import ClusterArchive.Proofs.Archive.KeyParts

/-! # Archive keys separate objects

Where kinds, namespaces, names and uids have no slashes, two resources are archived under one key
exactly if they are one object (`archiveKey_eq_iff`). That a key determines what it is made of is
shown in `KeyParts`; conversely one object has one key (`archiveKey_congr`). Keys made of uids share
no text with the others: a uid is one piece between slashes, a type with a namespace and a name are
at least four, empty ones included. -/

namespace ClusterArchive.Proofs.Archive.Separation

open ClusterArchive.Proofs.Archive.KeyParts ClusterArchive.Proofs.Resource.Decoding

/-- Whether what a resource calls itself has no slash in it. The `apiVersion` may have some. -/
structure PlainNames (i : Identity) : Prop where
  kind : '/' ∉ i.gvk.kind.toList
  namespace_ : '/' ∉ i.namespace_.toList
  name : '/' ∉ i.name.toList
  uid : '/' ∉ i.uid.toList

variable {a b : Resource} {v w : Json.Value}

theorem PlainNames.slashless (h : PlainNames a.identity) (ha : Resource.ofValue v = .ok a) :
    Slashless a.identity := by
  obtain ⟨apiVersion, kind, hs⟩ := stated_of_ofValue ha
  exact slashless_of_stated hs h.kind h.namespace_ h.name h.uid

theorem archiveKey_of_uid (h : a.identity.uid ≠ "") : archiveKey a = a.identity.uid :=
  if_neg fun he => h (String.isEmpty_iff.mp he)

theorem archiveKey_of_no_uid (h : a.identity.uid = "") :
    archiveKey a = a.identity.gvk.text ++ "/" ++ a.identity.namespace_ ++ "/" ++ a.identity.name :=
  if_pos (String.isEmpty_iff.mpr h)

/-- One object has one key. -/
theorem archiveKey_congr (h : OneObject a.identity b.identity) : archiveKey a = archiveKey b := by
  cases h with
  | uid ha h =>
    have hb : b.identity.uid ≠ "" := h ▸ ha
    rw [archiveKey_of_uid ha, archiveKey_of_uid hb, h]
  | named ha hb hg hns hn => rw [archiveKey_of_no_uid ha, archiveKey_of_no_uid hb, hg, hns, hn]

/-- **Archive keys separate objects**: two resources without slashes in their names have one key
exactly if they have one uid, or none and the same type, namespace and name; the key of a resource
with a uid is never that of one without. -/
theorem archiveKey_eq_iff (ha : Resource.ofValue v = .ok a) (hb : Resource.ofValue w = .ok b)
    (na : PlainNames a.identity) (nb : PlainNames b.identity) :
    (archiveKey a = archiveKey b ↔ OneObject a.identity b.identity) ∧
      (a.identity.uid ≠ "" → b.identity.uid = "" → archiveKey a ≠ archiveKey b) := by
  have hsep : archiveKey a = archiveKey b → OneObject a.identity b.identity :=
    oneObject_of_archiveKey_eq (na.slashless ha) (nb.slashless hb)
  refine ⟨⟨hsep, archiveKey_congr⟩, fun hua hub hk => ?_⟩
  cases hsep hk with
  | uid _ h => exact hua (h.trans hub)
  | named hn => exact hua hn

/-- A pod without namespace and uid, of the given `apiVersion`. -/
def bare (apiVersion : String) : Json.Value :=
  .object [("apiVersion", .string apiVersion), ("kind", .string "Pod"),
    ("metadata", .object [("name", .string "p")])]

/-- What identifies it if it is of the core group. -/
def bareIdentity : Identity := ⟨"", "p", "", ⟨"", "v1", "Pod"⟩, ""⟩

theorem oneKey_leadingSlash : ∃ a b, Resource.ofValue (bare "/v1") = .ok a ∧
    Resource.ofValue (bare "v1") = .ok b ∧ PlainNames a.identity ∧ PlainNames b.identity ∧
    (archiveKey a = archiveKey b ↔ OneObject a.identity b.identity) ∧
    (a.identity.uid ≠ "" → b.identity.uid = "" → archiveKey a ≠ archiveKey b) := by
  have ha : Resource.ofValue (bare "/v1") = .ok ⟨bare "/v1", bareIdentity⟩ := rfl
  have hb : Resource.ofValue (bare "v1") = .ok ⟨bare "v1", bareIdentity⟩ := rfl
  have hn : PlainNames bareIdentity := by constructor <;> decide
  exact ⟨_, _, ha, hb, hn, hn, archiveKey_eq_iff ha hb hn hn⟩

end ClusterArchive.Proofs.Archive.Separation
