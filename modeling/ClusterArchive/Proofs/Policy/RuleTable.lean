import ClusterArchive.Policy.Rules
import ClusterArchive.Proofs.Keyed

/-! # Rules as a table

Rules are seen through `get?`: an insertion changes the predicate of its key and of no other
(`get?_insert`). The keys stay different from each other (`nodup_keys_insert`), so the number of
rules is the number of keys. What rules say of a resource is what the predicates found under its two
keys say (`apply_iff`). -/

namespace ClusterArchive.Proofs.Policy.RuleTable

open ClusterArchive.Policy ClusterArchive.Proofs.Keyed

/-- The keys of rules. -/
def keys (rules : Rules) : List Key := rules.map Prod.fst

theorem insert_eq_put (k : Key) (p : Predicate) : ∀ rules : Rules,
    rules.insert k p = put Prod.fst (fun _ new => new) (k, p) rules
  | [] => rfl
  | (l, q) :: rules => by
    unfold Rules.insert put
    rw [insert_eq_put k p rules]

theorem get?_insert (k : Key) (p : Predicate) (rules : Rules) (k' : Key) :
    (rules.insert k p).get? k' = if k = k' then some p else rules.get? k' := by
  unfold Rules.get?
  rw [insert_eq_put, find?_put (fun _ _ _ => rfl)]
  by_cases h : k = k'
  · rw [if_pos h, if_pos h]
    cases rules.find? (·.1 == k') <;> rfl
  · rw [if_neg h, if_neg h]

theorem mem_keys_insert {k : Key} {p : Predicate} {rules : Rules} {k' : Key} :
    k' ∈ keys (rules.insert k p) ↔ k' = k ∨ k' ∈ keys rules := by
  rw [insert_eq_put]
  exact mem_map_key_put fun _ _ _ => rfl

theorem nodup_keys_insert {k : Key} {p : Predicate} {rules : Rules} (h : (keys rules).Nodup) :
    (keys (rules.insert k p)).Nodup := by
  rw [insert_eq_put]
  exact nodup_map_key_put (fun _ _ _ => rfl) h

/-- A predicate holds if it evaluates to the Boolean `true`; failures and other values do not
count. -/
theorem holds_iff {p : Predicate} {r : Resource} :
    p.holds r = true ↔ p.body.eval (Predicate.scope r) = .ok (.bool true) := by
  unfold Predicate.holds
  split
  · rename_i b hb
    rw [hb]
    simp
  · rename_i hb
    simp only [Bool.false_eq_true, false_iff]
    exact hb true

theorem holdFor_iff {rules : Rules} {k : Key} {r : Resource} :
    rules.holdFor k r = true ↔
      ∃ p, rules.get? k = some p ∧ p.body.eval (Predicate.scope r) = .ok (.bool true) := by
  simp only [Rules.holdFor, Option.any_eq_true, holds_iff]

/-- Rules apply to a resource if the rule of the cluster or of its namespace holds. -/
theorem apply_iff {rules : Rules} {r : Resource} :
    rules.apply r = true ↔
      ∃ scope, (scope = .everywhere ∨ scope = .namespaced r.identity.namespace_) ∧
      ∃ p, rules.get? ⟨scope, r.identity.gvk⟩ = some p ∧
        p.body.eval (Predicate.scope r) = .ok (.bool true) := by
  simp only [Rules.apply, Bool.or_eq_true, holdFor_iff]
  constructor
  · rintro (h | h)
    · exact ⟨.everywhere, Or.inl rfl, h⟩
    · exact ⟨.namespaced r.identity.namespace_, Or.inr rfl, h⟩
  · rintro ⟨scope, rfl | rfl, h⟩
    · exact Or.inl h
    · exact Or.inr h

/-- What rules have under the two keys of a resource decides. -/
theorem apply_congr {rules rules' : Rules} {r : Resource}
    (h : ∀ scope, (scope = .everywhere ∨ scope = .namespaced r.identity.namespace_) →
      rules.get? ⟨scope, r.identity.gvk⟩ = rules'.get? ⟨scope, r.identity.gvk⟩) :
    rules.apply r = rules'.apply r := by
  rw [Bool.eq_iff_iff, apply_iff, apply_iff]
  refine exists_congr fun scope => and_congr_right fun hs => ?_
  rw [h scope hs]

end ClusterArchive.Proofs.Policy.RuleTable
