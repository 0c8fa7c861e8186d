import Mathlib.Data.List.Basic

/-! # Lists with keys

Archive rows and rules are both lists of entries with a key. `put` replaces the first entry that has
the key of a new one by both of them merged, and appends the new one if there is none; rows and
rules differ only in what merging means. What a look-up finds afterwards is `find?_put`, what
becomes of the keys is `map_key_put`. -/

namespace ClusterArchive.Proofs.Keyed

variable {α κ : Type} [DecidableEq κ] {key : α → κ} {merge : α → α → α}

/-- Puts an entry into a list with keys. -/
def put (key : α → κ) (merge : α → α → α) (new : α) : List α → List α
  | [] => [new]
  | x :: xs => if key x = key new then merge x new :: xs else x :: put key merge new xs

theorem find?_key_cons (k : κ) (x : α) (xs : List α) :
    (x :: xs).find? (key · == k) = if key x = k then some x else xs.find? (key · == k) := by
  rw [List.find?_cons]
  by_cases h : key x = k
  · simp [h]
  · rw [if_neg h, beq_false_of_ne h]

theorem find?_put (hm : ∀ x y, key x = key y → key (merge x y) = key y) (new : α) (k : κ) :
    ∀ xs : List α, (put key merge new xs).find? (key · == k) =
      if key new = k then some (((xs.find? (key · == k)).map (merge · new)).getD new)
      else xs.find? (key · == k)
  | [] => find?_key_cons k new []
  | x :: xs => by
    unfold put
    by_cases hx : key x = key new
    · rw [if_pos hx, find?_key_cons, find?_key_cons, hm x new hx, hx]
      split <;> rfl
    · rw [if_neg hx, find?_key_cons, find?_key_cons, find?_put hm new k xs]
      by_cases hk : key x = k
      · rw [if_pos hk, if_pos hk, if_neg fun h => hx (hk.trans h.symm)]
      · rw [if_neg hk, if_neg hk]

theorem map_key_put (hm : ∀ x y, key x = key y → key (merge x y) = key y) (new : α) : ∀ xs : List α,
    (put key merge new xs).map key =
      if key new ∈ xs.map key then xs.map key else xs.map key ++ [key new]
  | [] => by simp [put]
  | x :: xs => by
    unfold put
    by_cases hx : key x = key new
    · simp [hx, hm x new hx]
    · rw [if_neg hx, List.map_cons, map_key_put hm new xs, List.map_cons]
      simp only [List.mem_cons, Ne.symm hx, false_or]
      split <;> rfl

theorem mem_map_key_put (hm : ∀ x y, key x = key y → key (merge x y) = key y) {new : α}
    {xs : List α} {k : κ} :
    k ∈ (put key merge new xs).map key ↔ k = key new ∨ k ∈ xs.map key := by
  rw [map_key_put hm]
  split
  · rename_i hk
    exact ⟨Or.inr, fun h => h.elim (fun e => e ▸ hk) id⟩
  · rw [List.mem_append, List.mem_singleton, or_comm]

theorem nodup_map_key_put (hm : ∀ x y, key x = key y → key (merge x y) = key y) {new : α}
    {xs : List α} (h : (xs.map key).Nodup) : ((put key merge new xs).map key).Nodup := by
  rw [map_key_put hm]
  split
  · exact h
  · rename_i hk
    refine List.nodup_append.mpr ⟨h, by simp, fun a ha b hb => ?_⟩
    rw [List.mem_singleton.mp hb]
    exact fun e => hk (e ▸ ha)

end ClusterArchive.Proofs.Keyed
