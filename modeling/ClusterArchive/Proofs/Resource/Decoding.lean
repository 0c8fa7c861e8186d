import ClusterArchive.Proofs.Json.Characters
import ClusterArchive.Proofs.Text.Encoding
import ClusterArchive.Resource.View

/-! # What decoding says of a payload

A payload that a resource is decoded from is well-formed text, whichever notation it is in
(`scalars_of_decode`), so reading it lossily loses nothing (`utf8Bytes_lossy_of_decode`). A resource
states its `apiVersion`, kind and name as texts, empty ones included, and its type is read off them
(`stated_of_decode`). -/

namespace ClusterArchive.Proofs.Resource.Decoding

open ClusterArchive.Proofs.Text.Encoding ClusterArchive.Proofs.Json.Characters

variable {contentType : Option String} {payload : Bytes} {r : Resource}

/-- What is decoded is the resource that some value is, and the payload is characters throughout. -/
theorem exists_value_of_decode (h : Resource.decode contentType payload = .ok r) :
    ∃ v, Resource.ofValue v = .ok r ∧ ∃ text : List Char, Utf8.scalars payload = text.map some := by
  unfold Resource.decode at h
  split at h
  · split at h
    · rename_i v hv
      obtain ⟨text, ht, -⟩ := Option.bind_eq_some_iff.mp hv
      exact ⟨v, h, text, scalars_of_decode? ht⟩
    · cases h
  · split at h
    · rename_i v hv
      exact ⟨v, h, characters_of_read? hv⟩
    · cases h

theorem scalars_of_decode (h : Resource.decode contentType payload = .ok r) :
    ∃ text : List Char, Utf8.scalars payload = text.map some := by
  obtain ⟨-, -, ht⟩ := exists_value_of_decode h
  exact ht

theorem utf8Bytes_lossy_of_decode (h : Resource.decode contentType payload = .ok r) :
    utf8Bytes (String.ofList (Utf8.lossy payload)) = payload := by
  obtain ⟨text, ht⟩ := scalars_of_decode h
  exact encode_lossy ht

/-- What a resource says of itself: its `apiVersion`, kind and name are texts, and it is identified
by them and by its namespace, if it has one. -/
structure Stated (r : Resource) (apiVersion kind : String) : Prop where
  apiVersion_field : r.object.stringAt? ["apiVersion"] = some apiVersion
  kind_field : r.object.stringAt? ["kind"] = some kind
  name_field : r.object.stringAt? ["metadata", "name"] = some r.identity.name
  namespace_field : (r.object.stringAt? ["metadata", "namespace"]).getD "" = r.identity.namespace_
  gvk : r.identity.gvk = .ofApiVersion apiVersion kind

theorem stringAt?_of_required {path : List String} {object : Json.Value} {s : String}
    (h : Resource.required path object = .ok s) : object.stringAt? path = some s := by
  unfold Resource.required at h
  split at h
  · rename_i hs
    cases h
    exact hs
  · cases h

theorem stated_of_ofValue {v : Json.Value} (h : Resource.ofValue v = .ok r) :
    ∃ apiVersion kind, Stated r apiVersion kind := by
  unfold Resource.ofValue at h
  split at h
  · cases h
  split at h
  · cases h
  rename_i apiVersion ha
  split at h
  · cases h
  rename_i kind hk
  split at h
  · cases h
  · rename_i name hn
    cases h
    exact ⟨apiVersion, kind, stringAt?_of_required ha, stringAt?_of_required hk,
      stringAt?_of_required hn,
      rfl, rfl⟩

theorem stated_of_decode (h : Resource.decode contentType payload = .ok r) :
    ∃ apiVersion kind, Stated r apiVersion kind := by
  obtain ⟨v, hv, -⟩ := exists_value_of_decode h
  exact stated_of_ofValue hv

end ClusterArchive.Proofs.Resource.Decoding
