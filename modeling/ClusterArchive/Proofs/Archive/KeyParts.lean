import ClusterArchive.Archive.Key
import ClusterArchive.Proofs.Resource.ApiVersion
import ClusterArchive.Proofs.Resource.Decoding

/-! # Archive keys and their parts

Where no name has a slash in it, the pieces of an archive key between slashes are the uid alone, or
version, kind, namespace and name, with the group in front if there is one (`pieces_archiveKey`).
The number of pieces tells the three forms apart, so a key determines what it was made of
(`oneObject_of_archiveKey_eq`). -/

namespace ClusterArchive.Proofs.Archive.KeyParts

open ClusterArchive.Proofs.Text.Cutting
open ClusterArchive.Proofs.Resource.ApiVersion ClusterArchive.Proofs.Resource.Decoding

/-- Whether no name that a key is made of has a slash in it. -/
structure Slashless (i : Identity) : Prop where
  group : '/' ∉ i.gvk.group.toList
  version : '/' ∉ i.gvk.version.toList
  kind : '/' ∉ i.gvk.kind.toList
  namespace_ : '/' ∉ i.namespace_.toList
  name : '/' ∉ i.name.toList
  uid : '/' ∉ i.uid.toList

/-- What a key is made of. -/
def parts (i : Identity) : List String :=
  if i.uid.isEmpty then
    (if i.gvk.group.isEmpty then [] else [i.gvk.group]) ++
      [i.gvk.version, i.gvk.kind, i.namespace_, i.name]
  else [i.uid]

theorem pieces_archiveKey {r : Resource} (h : Slashless r.identity) :
    Text.pieces '/' (archiveKey r).toList = (parts r.identity).map String.toList := by
  unfold archiveKey parts
  split
  · unfold Gvk.text Gvk.apiVersion
    split
    · simp only [String.append_assoc]
      rw [pieces_append_slash h.version, pieces_append_slash h.kind,
        pieces_append_slash h.namespace_, pieces_of_not_mem h.name]
      rfl
    · simp only [String.append_assoc]
      rw [pieces_append_slash h.group, pieces_append_slash h.version, pieces_append_slash h.kind,
        pieces_append_slash h.namespace_, pieces_of_not_mem h.name]
      rfl
  · exact pieces_of_not_mem h.uid

theorem parts_of_uid {i : Identity} (h : i.uid ≠ "") : parts i = [i.uid] :=
  if_neg fun he => h (String.isEmpty_iff.mp he)

theorem parts_of_no_uid {i : Identity} (h : i.uid = "") :
    parts i = (if i.gvk.group.isEmpty then [] else [i.gvk.group]) ++
      [i.gvk.version, i.gvk.kind, i.namespace_, i.name] :=
  if_pos (String.isEmpty_iff.mpr h)

/-- Without uids, the parts of a key are a type, a namespace and a name, all of which they
determine. -/
theorem eq_of_parts_eq {i j : Identity} (hi : i.uid = "") (hj : j.uid = "")
    (h : parts i = parts j) :
    i.gvk = j.gvk ∧ i.namespace_ = j.namespace_ ∧ i.name = j.name := by
  obtain ⟨ns, name, uid, ⟨group, version, kind⟩, rv⟩ := i
  obtain ⟨ns', name', uid', ⟨group', version', kind'⟩, rv'⟩ := j
  rw [parts_of_no_uid hi, parts_of_no_uid hj] at h
  dsimp only at h ⊢
  cases hg : group.isEmpty with
  | true =>
    cases hg' : group'.isEmpty with
    | true =>
      rw [String.isEmpty_iff.mp hg, String.isEmpty_iff.mp hg'] at h ⊢
      simpa [and_assoc] using h
    | false => simp [hg, hg'] at h
  | false =>
    cases hg' : group'.isEmpty with
    | true => simp [hg, hg'] at h
    | false => simpa [hg, hg', and_assoc] using h

/-- The parts with a uid are one, those without are at least four. -/
theorem parts_ne {i j : Identity} (hi : i.uid ≠ "") (hj : j.uid = "") : parts i ≠ parts j := by
  rw [parts_of_uid hi, parts_of_no_uid hj]
  split <;> simp

/-- Whether two identities are those of one object as far as keys tell: they have one uid, or none
and the same type, namespace and name. -/
inductive OneObject (i j : Identity) : Prop
  | uid (hi : i.uid ≠ "") (h : i.uid = j.uid)
  | named (hi : i.uid = "") (hj : j.uid = "") (gvk : i.gvk = j.gvk)
    (namespace_ : i.namespace_ = j.namespace_) (name : i.name = j.name)

/-- Two resources with one key are one object. -/
theorem oneObject_of_archiveKey_eq {a b : Resource} (ha : Slashless a.identity)
    (hb : Slashless b.identity) (h : archiveKey a = archiveKey b) :
    OneObject a.identity b.identity := by
  have hp : parts a.identity = parts b.identity := by
    refine List.map_inj_right (fun _ _ => String.toList_inj.mp) |>.mp ?_
    rw [← pieces_archiveKey ha, ← pieces_archiveKey hb, h]
  by_cases hua : a.identity.uid = ""
  · by_cases hub : b.identity.uid = ""
    · obtain ⟨hg, hns, hn⟩ := eq_of_parts_eq hua hub hp
      exact .named hua hub hg hns hn
    · exact absurd hp.symm (parts_ne hub hua)
  · by_cases hub : b.identity.uid = ""
    · exact absurd hp (parts_ne hua hub)
    · rw [parts_of_uid hua, parts_of_uid hub] at hp
      exact .uid hua (List.singleton_inj.mp hp)

/-- Group and version of a decoded resource have no slash in them. -/
theorem slashless_of_stated {r : Resource} {apiVersion kind : String}
    (hs : Stated r apiVersion kind) (hk : '/' ∉ r.identity.gvk.kind.toList)
    (hns : '/' ∉ r.identity.namespace_.toList) (hn : '/' ∉ r.identity.name.toList)
    (hu : '/' ∉ r.identity.uid.toList) : Slashless r.identity where
  group := hs.gvk ▸ not_mem_group_ofApiVersion apiVersion kind
  version := hs.gvk ▸ not_mem_version_ofApiVersion apiVersion kind
  kind := hk
  namespace_ := hns
  name := hn
  uid := hu

end ClusterArchive.Proofs.Archive.KeyParts
