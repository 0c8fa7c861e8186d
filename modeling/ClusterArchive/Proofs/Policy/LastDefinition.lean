import ClusterArchive.Policy.Loading
import ClusterArchive.Proofs.Policy.RuleTable
import Mathlib.Data.Finset.Card

/-! # The last definition decides

Definitions are added one after another, and for each action a later condition takes the place of an
earlier one under the same key. The rules of an action are therefore a fold over the flat list of
all definitions (`exists_addAll`), in which a definition counts only if its condition is not blank
and compiles (`usable?`). What such a fold finds under a key is the last definition that counts
(`get?_table`), and its keys are those of all definitions that count (`keys_table`). So the verdict
on a resource is that of the last definitions for its type, cluster and namespace
(`last_definition_decides`). -/

namespace ClusterArchive.Proofs.Policy.LastDefinition

open ClusterArchive.Policy ClusterArchive.Proofs.Policy.RuleTable

/-! ### Definitions and conditions -/

/-- The condition of a definition for an action. -/
def condition (d : Definition) : Action → String
  | .archive => d.archiveWhen
  | .delete => d.deleteWhen

/-- The type that a definition selects. -/
def gvkOf (d : Definition) : Gvk := .ofApiVersion d.apiVersion d.kind

/-- Whether reading a condition halts at a literal without a value; a blank condition is not
read. -/
def Halts (condition : String) : Prop :=
  Text.allBlank condition.toList = false ∧ ∃ h, Predicate.compile condition = .error h

/-- The predicate of a condition, if it is not blank and compiles. -/
def usable? (condition : String) : Option Predicate :=
  if Text.allBlank condition.toList then none
  else
    match Predicate.compile condition with
    | .ok (.ok p) => some p
    | _ => none

/-- A definition in its scope. -/
abbrev Scoped := Scope × Definition

/-- The key of a definition. -/
def keyOf (x : Scoped) : Key := ⟨x.1, gvkOf x.2⟩

/-- All definitions, each with its scope, in the order in which they are added. -/
def flatten (calls : List (Scope × List Definition)) : List Scoped :=
  calls.flatMap fun call => call.2.map (call.1, ·)

/-- The predicate that a definition gives for an action. -/
def predicate? (a : Action) (x : Scoped) : Option Predicate := usable? (condition x.2 a)

/-! ### The rules of an action -/

/-- The rules for an action. -/
def rulesFor (s : RuleSet) : Action → Rules
  | .archive => s.archive
  | .delete => s.delete

/-- Rules with one more predicate, if there is one. -/
def putRule (rules : Rules) (k : Key) : Option Predicate → Rules
  | some p => rules.insert k p
  | none => rules

/-- The rules for an action that definitions make, added to earlier rules. -/
def table (a : Action) (rules : Rules) (xs : List Scoped) : Rules :=
  xs.foldl (fun rules x => putRule rules (keyOf x) (predicate? a x)) rules

theorem rulesFor_insert (s : RuleSet) (a a' : Action) (k : Key) (p : Predicate) :
    rulesFor (s.insert a k p) a' =
      if a' = a then (rulesFor s a').insert k p else rulesFor s a' := by
  cases a <;> cases a' <;> rfl

theorem exists_addCondition {c : String} (hc : ¬ Halts c) (l : Loaded) (k : Key) (a : Action) :
    ∃ l', l.addCondition k a c = .ok l' ∧
      ∀ a', rulesFor l'.rules a' =
        if a' = a then putRule (rulesFor l.rules a') k (usable? c) else rulesFor l.rules a' := by
  unfold Loaded.addCondition usable?
  cases hb : Text.allBlank c.toList with
  | true => exact ⟨l, rfl, fun a' => by simp [putRule]⟩
  | false =>
    cases hp : Predicate.compile c with
    | error h => exact absurd ⟨hb, h, hp⟩ hc
    | ok result =>
      cases result with
      | error e => exact ⟨_, rfl, fun a' => by simp [putRule, Loaded.report]⟩
      | ok p => exact ⟨_, rfl, fun a' => rulesFor_insert l.rules a a' k p⟩

theorem exists_addDefinition {d : Definition} (hd : ∀ a, ¬ Halts (condition d a)) (l : Loaded)
    (scope : Scope) :
    ∃ l', l.addDefinition scope d = .ok l' ∧
      ∀ a, rulesFor l'.rules a =
        putRule (rulesFor l.rules a) (keyOf (scope, d)) (predicate? a (scope, d)) := by
  obtain ⟨l₁, h₁, hr₁⟩ := exists_addCondition (hd .archive) l (keyOf (scope, d)) .archive
  obtain ⟨l₂, h₂, hr₂⟩ := exists_addCondition (hd .delete) l₁ (keyOf (scope, d)) .delete
  refine ⟨l₂, ?_, fun a => ?_⟩
  · unfold Loaded.addDefinition
    exact (congrArg (· >>= _) h₁).trans h₂
  · cases a with
    | archive => rw [hr₂, if_neg (by decide), hr₁, if_pos rfl]; rfl
    | delete => rw [hr₂, if_pos rfl, hr₁, if_neg (by decide)]; rfl

theorem exists_add (scope : Scope) : ∀ {ds : List Definition} (l : Loaded),
    (∀ d ∈ ds, ∀ a, ¬ Halts (condition d a)) →
      ∃ l', l.add scope ds = .ok l' ∧
        ∀ a, rulesFor l'.rules a = table a (rulesFor l.rules a) (ds.map (scope, ·))
  | [], l, _ => ⟨l, rfl, fun _ => rfl⟩
  | d :: ds, l, h => by
    obtain ⟨l₁, h₁, hr₁⟩ := exists_addDefinition (h d List.mem_cons_self) l scope
    obtain ⟨l₂, h₂, hr₂⟩ := exists_add scope l₁ fun d' hd' => h d' (List.mem_cons_of_mem d hd')
    refine ⟨l₂, (congrArg (· >>= _) h₁).trans h₂, fun a => ?_⟩
    rw [hr₂, hr₁]
    rfl

/-- Adding definitions succeeds unless reading one of them halts, and the rules of each action are
the table of all definitions. -/
theorem exists_addAll : ∀ {calls : List (Scope × List Definition)} (l : Loaded),
    (∀ call ∈ calls, ∀ d ∈ call.2, ∀ a, ¬ Halts (condition d a)) →
      ∃ l', l.addAll calls = .ok l' ∧
        ∀ a, rulesFor l'.rules a = table a (rulesFor l.rules a) (flatten calls)
  | [], l, _ => ⟨l, rfl, fun _ => rfl⟩
  | (scope, ds) :: calls, l, h => by
    obtain ⟨l₁, h₁, hr₁⟩ := exists_add scope l (h (scope, ds) List.mem_cons_self)
    obtain ⟨l₂, h₂, hr₂⟩ := exists_addAll l₁ fun call hc => h call (List.mem_cons_of_mem _ hc)
    refine ⟨l₂, (congrArg (· >>= _) h₁).trans h₂, fun a => ?_⟩
    rw [hr₂, hr₁, table, table, ← List.foldl_append]
    rfl

/-! ### What a table holds -/

/-- Among definitions, the last one with a key that gives a predicate for an action gives `p`. -/
def LastGives (a : Action) (k : Key) (xs : List Scoped) (p : Predicate) : Prop :=
  ∃ before x after, xs = before ++ x :: after ∧ keyOf x = k ∧ predicate? a x = some p ∧
    ∀ y ∈ after, keyOf y = k → predicate? a y = none

theorem get?_putRule (rules : Rules) (k k' : Key) (o : Option Predicate) :
    (putRule rules k o).get? k' = if k = k' then o.or (rules.get? k') else rules.get? k' := by
  cases o with
  | none => simp [putRule]
  | some p => rw [putRule, get?_insert, Option.some_or]

theorem lastGives_cons {a : Action} {k : Key} {x : Scoped} {xs : List Scoped} {p : Predicate} :
    LastGives a k (x :: xs) p ↔ LastGives a k xs p ∨
      (keyOf x = k ∧ predicate? a x = some p ∧ ∀ y ∈ xs, keyOf y = k → predicate? a y = none) := by
  constructor
  · rintro ⟨before, y, after, hxs, hy⟩
    rcases before with _ | ⟨z, before⟩
    · obtain ⟨rfl, rfl⟩ := List.cons.inj hxs
      exact Or.inr hy
    · exact Or.inl ⟨before, y, after, (List.cons.inj hxs).2, hy⟩
  · rintro (⟨before, y, after, rfl, hy⟩ | hx)
    · exact ⟨x :: before, y, after, rfl, hy⟩
    · exact ⟨[], x, xs, rfl, hx⟩

/-- What is found under a key is what the last definition gives, or what was there before if none
gives anything. -/
theorem get?_table (a : Action) (k : Key) (p : Predicate) : ∀ (xs : List Scoped) (rules : Rules),
    (table a rules xs).get? k = some p ↔ LastGives a k xs p ∨
      (rules.get? k = some p ∧ ∀ y ∈ xs, keyOf y = k → predicate? a y = none)
  | [], rules => by simp [table, LastGives]
  | x :: xs, rules => by
    change (table a (putRule rules (keyOf x) (predicate? a x)) xs).get? k = some p ↔ _
    rw [get?_table a k p xs, lastGives_cons, or_assoc, get?_putRule]
    refine or_congr_right ?_
    simp only [List.forall_mem_cons]
    by_cases hk : keyOf x = k
    · rw [if_pos hk]
      cases hx : predicate? a x with
      | none => simp [hk]
      | some q => simp [hk]
    · rw [if_neg hk]
      simp [hk]

/-- What is found among the rules of definitions alone is what the last one gives. -/
theorem get?_table_nil {a : Action} {k : Key} {xs : List Scoped} {p : Predicate} :
    (table a [] xs).get? k = some p ↔ LastGives a k xs p := by
  rw [get?_table]
  exact or_iff_left fun h => nomatch h.1

/-- If a definition gives a predicate, there is a last one that does. -/
theorem exists_lastGives {a : Action} {k : Key} {xs : List Scoped}
    (h : ∃ x ∈ xs, keyOf x = k ∧ predicate? a x ≠ none) : ∃ p, LastGives a k xs p := by
  induction xs with
  | nil =>
    obtain ⟨x, hx, -⟩ := h
    cases hx
  | cons y ys ih =>
    by_cases hl : ∃ x ∈ ys, keyOf x = k ∧ predicate? a x ≠ none
    · obtain ⟨p, hp⟩ := ih hl
      exact ⟨p, lastGives_cons.mpr (.inl hp)⟩
    · -- the first one is the last
      have hn : ∀ x ∈ ys, keyOf x = k → predicate? a x = none := by
        intro x hx hk
        by_contra hp
        exact hl ⟨x, hx, hk, hp⟩
      obtain ⟨x, hx, hk, hp⟩ := h
      obtain ⟨p, hp⟩ := Option.ne_none_iff_exists'.mp hp
      rcases List.mem_cons.mp hx with rfl | hx
      · exact ⟨p, lastGives_cons.mpr (.inr ⟨hk, hp, hn⟩)⟩
      · rw [hn x hx hk] at hp
        cases hp

/-- The keys of the definitions that give a predicate for an action. -/
def usedKeys (a : Action) (xs : List Scoped) : Finset Key :=
  ((xs.filter fun x => (predicate? a x).isSome).map keyOf).toFinset

theorem keys_putRule {rules : Rules} (k : Key) (o : Option Predicate) (h : (keys rules).Nodup) :
    (keys (putRule rules k o)).Nodup ∧
      ∀ k', k' ∈ keys (putRule rules k o) ↔ (k' = k ∧ o.isSome) ∨ k' ∈ keys rules := by
  cases o with
  | none => exact ⟨h, fun k' => by simp [putRule]⟩
  | some p => exact ⟨nodup_keys_insert h, fun k' => by simp [putRule, mem_keys_insert]⟩

theorem keys_table (a : Action) : ∀ (xs : List Scoped) {rules : Rules}, (keys rules).Nodup →
    (keys (table a rules xs)).Nodup ∧
      ∀ k, k ∈ keys (table a rules xs) ↔ k ∈ usedKeys a xs ∨ k ∈ keys rules
  | [], rules, h => ⟨h, fun k => by simp [table, usedKeys]⟩
  | x :: xs, rules, h => by
    obtain ⟨hd, hm⟩ := keys_putRule (keyOf x) (predicate? a x) h
    obtain ⟨hd', hm'⟩ := keys_table a xs hd
    refine ⟨hd', fun k => ?_⟩
    change k ∈ keys (table a (putRule rules (keyOf x) (predicate? a x)) xs) ↔ _
    rw [hm', hm, ← or_assoc]
    refine or_congr_left ?_
    unfold usedKeys
    cases hx : predicate? a x with
    | none => simp [hx]
    | some p =>
      rw [List.filter_cons_of_pos (by rw [hx]; rfl), List.map_cons, List.toFinset_cons,
        Finset.mem_insert, or_comm]
      simp

theorem length_table (a : Action) (xs : List Scoped) :
    (table a [] xs).length = (usedKeys a xs).card := by
  obtain ⟨hd, hm⟩ := keys_table a xs (show (keys []).Nodup from List.nodup_nil)
  have he : (keys (table a [] xs)).toFinset = usedKeys a xs := by
    ext k
    rw [List.mem_toFinset, hm k]
    simp [keys]
  rw [← he, List.toFinset_card_of_nodup hd, keys, List.length_map]

/-! ### Verdicts -/

/-- Among definitions, for the cluster or for the namespace of the resource, the last one for its
type with a usable condition for the action has a condition that evaluates to the Boolean `true`. -/
def Fires (a : Action) (xs : List Scoped) (r : Resource) : Prop :=
  ∃ scope, (scope = .everywhere ∨ scope = .namespaced r.identity.namespace_) ∧
    ∃ before d after p, xs = before ++ (scope, d) :: after ∧ gvkOf d = r.identity.gvk ∧
      usable? (condition d a) = some p ∧
      (∀ y ∈ after, y.1 = scope → gvkOf y.2 = r.identity.gvk → usable? (condition y.2 a) = none) ∧
      p.body.eval (Predicate.scope r) = .ok (.bool true)

theorem apply_table_iff {a : Action} {xs : List Scoped} {r : Resource} :
    (table a [] xs).apply r = true ↔ Fires a xs r := by
  rw [apply_iff]
  refine exists_congr fun scope => and_congr_right fun _ => ?_
  constructor
  · rintro ⟨p, hp, ht⟩
    obtain ⟨before, ⟨scope', d⟩, after, hxs, hk, hu, hl⟩ := get?_table_nil.mp hp
    obtain ⟨rfl, hg⟩ := Key.mk.inj hk
    exact ⟨before, d, after, p, hxs, hg, hu,
      fun y hy hs hg' => hl y hy (Key.mk.injEq .. ▸ ⟨hs, hg'⟩), ht⟩
  · rintro ⟨before, d, after, p, hxs, hg, hu, hl, ht⟩
    refine ⟨p, get?_table_nil.mpr ⟨before, (scope, d), after, hxs, ?_, hu, ?_⟩, ht⟩
    · exact congrArg (Key.mk scope) hg
    · exact fun y hy hk => hl y hy (Key.mk.inj hk).1 (Key.mk.inj hk).2

/-- What the rules made of definitions say, and how many there are. -/
structure DecidedByLast (xs : List Scoped) (s : RuleSet) : Prop where
  delete : ∀ r, s.mustDelete (some r) = true ↔ Fires .delete xs r
  archive : ∀ r, s.mustArchive (some r) = true ↔ s.mustDelete (some r) = true ∨ Fires .archive xs r
  nothing : s.mustDelete none = false ∧ s.mustArchive none = false
  archiveCount : s.archive.length = (usedKeys .archive xs).card
  deleteCount : s.delete.length = (usedKeys .delete xs).card

/-- **The last definition decides**: definitions of which none halts the reading can all be added,
and the verdicts of the rules are those of the last usable definitions. -/
theorem last_definition_decides {calls : List (Scope × List Definition)}
    (h : ∀ call ∈ calls, ∀ d ∈ call.2, ∀ a, ¬ Halts (condition d a)) :
    ∃ l, Loaded.empty.addAll calls = .ok l ∧ DecidedByLast (flatten calls) l.rules := by
  obtain ⟨l, hl, hr⟩ := exists_addAll .empty h
  have ha : l.rules.archive = table .archive [] (flatten calls) := hr .archive
  have hd : l.rules.delete = table .delete [] (flatten calls) := hr .delete
  refine ⟨l, hl, ?_, ?_, ⟨rfl, rfl⟩, ?_, ?_⟩
  · intro r
    rw [RuleSet.mustDelete, Option.any_some, hd, apply_table_iff]
  · intro r
    rw [RuleSet.mustArchive, Option.any_some, Bool.or_eq_true, ha, apply_table_iff]
  · rw [ha, length_table]
  · rw [hd, length_table]

theorem not_halts_of_isOk {c : String} (h : (Predicate.compile c).isOk = true) : ¬ Halts c := by
  rintro ⟨-, e, he⟩
  rw [he] at h
  cases h

/-- A pod is kept by the first definition; the second one does not compile for archiving. -/
def redefined : List (Scope × List Definition) :=
  [(.everywhere, [⟨"v1", "Pod", "true", ""⟩]), (.everywhere, [⟨"v1", "Pod", "1 +", "false"⟩])]

/-- A pod. -/
def pod : Resource :=
  ⟨.object [("apiVersion", .string "v1"), ("kind", .string "Pod"),
      ("metadata", .object [("name", .string "p")])],
    ⟨"", "p", "", ⟨"", "v1", "Pod"⟩, ""⟩⟩

theorem decidedByLast_redefined :
    (∀ call ∈ redefined, ∀ d ∈ call.2, ∀ a, ¬ Halts (condition d a)) ∧
      ∃ l, Loaded.empty.addAll redefined = .ok l ∧ DecidedByLast (flatten redefined) l.rules ∧
        l.rules.mustArchive (some pod) = true ∧ l.rules.mustDelete (some pod) = false := by
  have h : ∀ call ∈ redefined, ∀ d ∈ call.2, ∀ a, ¬ Halts (condition d a) := by
    intro call hc d hd a
    refine not_halts_of_isOk ?_
    simp only [redefined, List.mem_cons, List.not_mem_nil, or_false] at hc
    rcases hc with rfl | rfl
    · obtain rfl := List.mem_singleton.mp hd
      cases a <;> decide +kernel
    · obtain rfl := List.mem_singleton.mp hd
      cases a <;> decide +kernel
  obtain ⟨l, hl, hd⟩ := last_definition_decides h
  have hv : ∃ l', Loaded.empty.addAll redefined = .ok l' ∧
      l'.rules.mustArchive (some pod) = true ∧ l'.rules.mustDelete (some pod) = false :=
    ⟨_, rfl, rfl, rfl⟩
  obtain ⟨l', hl', hv⟩ := hv
  obtain rfl : l = l' := Except.ok.inj (hl.symm.trans hl')
  exact ⟨h, l, hl, hd, hv⟩

end ClusterArchive.Proofs.Policy.LastDefinition
