import ClusterArchive.Archive.Store
import ClusterArchive.Proofs.Keyed

/-! # Rows after a write

A write is seen through `get?`: under the key written there is the old row renewed, or the new row
if there was none; under any other key nothing changes (`get?_upsert`). The keys keep their order,
and a new key comes last (`keys_upsert`), so no row is ever lost. -/

namespace ClusterArchive.Proofs.Archive.Rows

open ClusterArchive.Archive ClusterArchive.Proofs.Keyed

/-- The keys of the rows. -/
def keys (s : Store) : List String := s.map Row.key

theorem length_keys (s : Store) : (keys s).length = s.count := List.length_map _

theorem upsert_eq_put (new : Row) : ∀ s : Store, s.upsert new = put Row.key Row.renew new s
  | [] => rfl
  | row :: s => by
    unfold Store.upsert put
    rw [upsert_eq_put new s]

theorem key_renew (old new : Row) (h : old.key = new.key) : (old.renew new).key = new.key := h

theorem get?_upsert (s : Store) (new : Row) (key : String) :
    (s.upsert new).get? key =
      if new.key = key then some (((s.get? key).map (·.renew new)).getD new) else s.get? key := by
  rw [upsert_eq_put]
  exact find?_put key_renew new key s

theorem keys_upsert (s : Store) (new : Row) :
    keys (s.upsert new) = if new.key ∈ keys s then keys s else keys s ++ [new.key] := by
  rw [upsert_eq_put]
  exact map_key_put key_renew new s

theorem mem_keys_upsert {s : Store} {new : Row} {key : String} :
    key ∈ keys (s.upsert new) ↔ key = new.key ∨ key ∈ keys s := by
  rw [upsert_eq_put]
  exact mem_map_key_put key_renew

theorem nodup_keys_upsert {s : Store} {new : Row} (h : (keys s).Nodup) :
    (keys (s.upsert new)).Nodup := by
  rw [upsert_eq_put]
  exact nodup_map_key_put key_renew h

theorem key_of_get? {s : Store} {key : String} {row : Row} (h : s.get? key = some row) :
    row.key = key := by
  simpa using List.find?_some h

theorem mem_of_get? {s : Store} {key : String} {row : Row} (h : s.get? key = some row) : row ∈ s :=
  List.mem_of_find?_eq_some h

/-- Where the keys differ, the rows with a key are the one that is found, if there is one. -/
theorem filter_key_eq (s : Store) (key : String) (h : (keys s).Nodup) :
    s.filter (·.key == key) = (s.get? key).toList := by
  induction s with
  | nil => rfl
  | cons row s ih =>
    obtain ⟨hn, hd⟩ := List.nodup_cons.mp h
    unfold Store.get? at ih ⊢
    by_cases hk : row.key = key
    · -- no later row has the key
      have he : s.filter (·.key == key) = [] := by
        refine List.filter_eq_nil_iff.mpr fun row' hm he => hn ?_
        rw [hk, ← eq_of_beq he]
        exact List.mem_map_of_mem hm
      simp [hk, he]
    · simpa [hk] using ih hd

theorem get?_of_mem {s : Store} {row : Row} (h : (keys s).Nodup) (hm : row ∈ s) :
    s.get? row.key = some row := by
  have hf : row ∈ s.filter (·.key == row.key) := List.mem_filter.mpr ⟨hm, beq_self_eq_true _⟩
  rw [filter_key_eq s row.key h] at hf
  exact Option.mem_toList.mp hf

/-! ### Writing a resource -/

variable {s : Store} {r : Resource} {raw : Bytes} {now : Nat}

/-- The text that is kept of a payload. -/
def textOf (raw : Bytes) : String := String.ofList (Utf8.lossy raw)

/-- What a row has of the last write under its key, whether it was new then or not. -/
structure Written (r : Resource) (raw : Bytes) (now : Nat) (row : Row) : Prop where
  apiVersion : row.apiVersion = r.identity.gvk.apiVersion
  resourceVersion : row.resourceVersion = r.identity.resourceVersion
  updated : row.updated = now
  data : row.data = textOf raw

theorem get?_write (s : Store) (r : Resource) (raw : Bytes) (now : Nat) :
    ∃ row, (s.write r raw now).get? (archiveKey r) = some row ∧ Written r raw now row := by
  refine ⟨_, (get?_upsert s (.of r raw now) _).trans (if_pos rfl), ?_⟩
  cases s.get? (archiveKey r) <;> exact ⟨rfl, rfl, rfl, rfl⟩

theorem get?_write_of_ne {key : String} (h : archiveKey r ≠ key) :
    (s.write r raw now).get? key = s.get? key := (get?_upsert s _ key).trans (if_neg h)

theorem keys_subset_write : keys s ⊆ keys (s.write r raw now) := by
  rw [Store.write, keys_upsert]
  split
  · exact fun _ h => h
  · exact fun _ h => List.mem_append_left _ h

theorem count_le_write : s.count ≤ (s.write r raw now).count := by
  rw [← length_keys, ← length_keys, Store.write, keys_upsert]
  split
  · exact Nat.le_refl _
  · simp

end ClusterArchive.Proofs.Archive.Rows
