import ClusterArchive.Predicate
import Mathlib.Data.List.Nodup
import Mathlib.Logic.Relation

/-! # What the type check accepts

What stands in an expression stands there under the variables that the calls around it bind, and
perhaps where a truth value is called for: a `Spot`. `below` are the spots directly in an
expression, `StandsIn` all that can be reached from the whole one, and an expression is `Acceptable`
if nothing that stands in it offends.

The check goes through an expression with the bound variables in hand and settles scopes and kinds
at once. Both come apart: the kind that it finds is one that the expression has by itself, wherever
it stands (`yields_ownKind`), and it finds one if and only if the expression is in order at its
place and all that is directly in it suits its own (`succeeds_kind_iff`). Down the whole expression
that makes `compile_accepts_iff`. -/

namespace ClusterArchive.Proofs.Expr.Acceptance

open ClusterArchive.Expr

/-! ### Functions by name -/

/-- The functions that answer a question. -/
def testNames : List String :=
  ["has", "contains", "startsWith", "endsWith", "matches", "all", "exists", "exists_one"]

/-- The functions with other values. -/
def valueNames : List String :=
  ["size", "string", "int", "uint", "double", "bytes", "max", "map", "filter", "duration",
    "timestamp", "getFullYear", "getMonth", "getDayOfYear", "getDayOfMonth", "getDate",
    "getDayOfWeek", "getHours", "getMinutes", "getSeconds", "getMilliseconds"]

/-- The functions that bind a variable. -/
def bindingNames : List String := ["all", "exists", "exists_one", "map", "filter"]

/-- What is found by name in a list of different names. -/
theorem any_find?_fst {β : Type} (p : β → Bool) (name : String) : ∀ {l : List (String × β)},
    (l.map Prod.fst).Nodup →
      (((l.find? (·.1 == name)).map (·.2)).any p = true ↔
        name ∈ (l.filter fun x => p x.2).map Prod.fst)
  | [], _ => by simp
  | (n, b) :: l, h => by
    obtain ⟨hn, hd⟩ := List.nodup_cons.mp h
    by_cases he : n = name
    · subst he
      have hl : n ∉ (l.filter fun x => p x.2).map Prod.fst := fun hm =>
        hn (List.map_subset _ (List.filter_subset_self _) hm)
      cases hp : p b
      · simpa [hp] using hl
      · simp [hp]
    · have hi := any_find?_fst p name hd
      rw [List.find?_cons_of_neg (by simpa using he), hi]
      cases hp : p b <;> simp [hp, Ne.symm he]

theorem nodup_names : (Builtin.names.map Prod.fst).Nodup := by decide

theorem isTest_iff {f : String} : isTest f = true ↔ f ∈ testNames :=
  (any_find?_fst Builtin.isTest f nodup_names).trans (List.Perm.mem_iff (by decide))

theorem bindsVariable_iff {f : String} : bindsVariable f = true ↔ f ∈ bindingNames :=
  (any_find?_fst Builtin.binds f nodup_names).trans (List.Perm.mem_iff (by decide))

theorem isDeclared_iff {f : String} : isDeclared f = true ↔ f ∈ testNames ∨ f ∈ valueNames := by
  have hs : (Builtin.ofName? f).isSome = (Builtin.ofName? f).any fun _ => true := by
    cases Builtin.ofName? f <;> rfl
  unfold isDeclared
  rw [Bool.or_eq_true, hs, Builtin.ofName?, any_find?_fst _ f nodup_names, List.contains_iff_mem,
    ← List.mem_append, ← List.mem_append]
  exact List.Perm.mem_iff (by decide)

/-! ### Kinds -/

/-- The kind that an expression has by itself, wherever it stands. -/
def ownKind : Expr → Kind
  | .literal (.bool _) => .truth
  | .literal _ => .other
  | .variable name => if name ∈ sectionNames then .other else .unknown
  | .list _ | .map _ => .other
  | .attribute _ _ | .index _ _ => .unknown
  | .construct _ _ => .unknown
  | .call f _ | .method _ f _ => if f ∈ testNames then .truth else .other
  | .signed .not _ | .signed .truth _ => .truth
  | .signed .negate _ | .signed .keep _ => .other
  | .arithmetic _ _ _ => .other
  | .relation _ _ _ | .both _ _ | .either _ _ => .truth
  | .conditional _ yes no => (ownKind yes).join (ownKind no)

/-- Whether an expression is certain to be no truth value. -/
def NoTruth (e : Expr) : Prop := ownKind e = .other

theorem join_eq_other_iff {k l : Kind} : k.join l = .other ↔ k = .other ∧ l = .other := by
  cases k <;> cases l <;> simp [Kind.join]

/-! ### Spots -/

/-- An expression where it stands: the variables that the calls around it bind, and whether a truth
value is called for. -/
structure Spot where
  bound : List String
  expr : Expr
  truth : Bool

/-- The variable that a call binds, if it binds one, and what may use it: its first operand is then
no expression but the name of the variable. -/
def binding? (f : String) : List Expr → Option (String × Expr)
  | [.variable x, body] => if f ∈ bindingNames then some (x, body) else none
  | _ => none

theorem binding?_eq_some_iff {f x : String} {args : List Expr} {body : Expr} :
    binding? f args = some (x, body) ↔ args = [.variable x, body] ∧ f ∈ bindingNames := by
  unfold binding?
  split
  · by_cases hf : f ∈ bindingNames <;> simp [hf]
  · rename_i hn
    simp only [reduceCtorEq, false_iff, not_and]
    intro he
    exact absurd he (hn x body)

/-- The operands of a call. All that may use a bound variable calls for a truth value, but for
`map`. -/
def operands (bound : List String) (f : String) (args : List Expr) : List Spot :=
  match binding? f args with
  | some (x, body) => [⟨x :: bound, body, f ≠ "map"⟩]
  | none => args.map (⟨bound, ·, false⟩)

/-- What stands directly in an expression. -/
def below (bound : List String) : Expr → List Spot
  | .literal _ | .variable _ => []
  | .list items => items.map (⟨bound, ·, false⟩)
  | .map entries => entries.flatMap fun x => [⟨bound, x.1, false⟩, ⟨bound, x.2, false⟩]
  | .attribute target _ => [⟨bound, target, false⟩]
  | .index target position => [⟨bound, target, false⟩, ⟨bound, position, false⟩]
  | .construct target fields => ⟨bound, target, false⟩ :: fields.map (⟨bound, ·.2, false⟩)
  | .call f args => operands bound f args
  | .method target f args => ⟨bound, target, false⟩ :: operands bound f args
  | .signed .not e | .signed .truth e => [⟨bound, e, true⟩]
  | .signed .negate e | .signed .keep e => [⟨bound, e, false⟩]
  | .arithmetic _ left right | .relation _ left right =>
    [⟨bound, left, false⟩, ⟨bound, right, false⟩]
  | .both left right | .either left right => [⟨bound, left, true⟩, ⟨bound, right, true⟩]
  | .conditional condition yes no =>
    [⟨bound, condition, true⟩, ⟨bound, yes, false⟩, ⟨bound, no, false⟩]

/-- Whether a spot is directly in another. -/
def Directly (s t : Spot) : Prop := t ∈ below s.bound s.expr

/-- Whether a spot is somewhere in an expression, of which as a whole a truth value is called
for. -/
def StandsIn (e : Expr) (s : Spot) : Prop := Relation.ReflTransGen Directly ⟨[], e, true⟩ s

/-- The function that an expression calls. -/
def called? : Expr → Option String
  | .call f _ | .method _ f _ => some f
  | _ => none

/-- Whether nothing that stands in an expression offends. -/
structure Acceptable (e : Expr) : Prop where
  inScope : ∀ s x, StandsIn e s → s.expr = .variable x → x ∈ sectionNames ∨ x ∈ s.bound
  declared : ∀ s f, StandsIn e s → called? s.expr = some f → f ∈ testNames ∨ f ∈ valueNames
  constructions : ∀ s target fields, StandsIn e s → s.expr ≠ .construct target fields
  truths : ∀ s, StandsIn e s → s.truth = true → ¬ NoTruth s.expr

/-! ### Results of the check -/

section Results

variable {ε α β : Type}

/-- Whether a result can be no value but one. -/
def Yields (c : α) (x : Except ε α) : Prop := ∀ a, x = .ok a → a = c

/-- Whether a result is a value. -/
def Succeeds (x : Except ε α) : Prop := ∃ a, x = .ok a

theorem Yields.pure (c : α) : Yields c (Pure.pure c : Except ε α) := fun _ h => by
  cases h
  rfl

theorem Yields.error (c : α) (err : ε) : Yields c (.error err) := fun _ h => by cases h

theorem Yields.bind {c : β} {x : Except ε α} {f : α → Except ε β}
    (h : ∀ a, x = .ok a → Yields c (f a)) :
    Yields c (x >>= f) := by
  cases x with
  | error err => exact .error c err
  | ok a => exact h a rfl

@[simp] theorem succeeds_ok (a : α) : Succeeds (.ok a : Except ε α) := ⟨a, rfl⟩

@[simp] theorem succeeds_pure (a : α) : Succeeds (Pure.pure a : Except ε α) := ⟨a, rfl⟩

@[simp] theorem not_succeeds_error (err : ε) : ¬ Succeeds (.error err : Except ε α) :=
  fun ⟨_, h⟩ => by cases h

@[simp] theorem succeeds_bind {x : Except ε α} {f : α → Except ε β} :
    Succeeds (x >>= f) ↔ ∃ a, x = .ok a ∧ Succeeds (f a) := by
  cases x with
  | error err => exact ⟨fun h => absurd h (not_succeeds_error err), fun ⟨_, h, _⟩ => by cases h⟩
  | ok a => exact ⟨fun h => ⟨a, rfl, h⟩, fun ⟨_, h, hf⟩ => by cases h; exact hf⟩

theorem succeeds_bind_pure {x : Except ε α} {b : β} :
    Succeeds (x >>= fun _ => pure b) ↔ Succeeds x := by
  simp only [succeeds_bind, succeeds_pure, and_true]
  rfl

end Results

/-! ### What the check does with one expression -/

variable {bound : List String} {e : Expr} {k : Kind}

theorem kindOfCall_eq (f : String) : kindOfCall f = if f ∈ testNames then .truth else .other := by
  simp only [kindOfCall, isTest_iff]

theorem yields_kindOfVariable (x : String) :
    Yields (ownKind (.variable x)) (kindOfVariable bound x) := by
  intro k h
  unfold kindOfVariable at h
  unfold ownKind
  by_cases hs : x ∈ sectionNames
  · simpa [hs, eq_comm] using h
  · by_cases hb : x ∈ bound <;> simp_all

theorem succeeds_kindOfVariable {x : String} :
    Succeeds (kindOfVariable bound x) ↔ x ∈ sectionNames ∨ x ∈ bound := by
  unfold kindOfVariable
  by_cases hs : x ∈ sectionNames
  · simp [hs]
  · by_cases hb : x ∈ bound <;> simp [hs, hb]

theorem yields_kindOfBinding (f : String) (l : Kind) :
    Yields (kindOfCall f) (kindOfBinding f l) := by
  unfold kindOfBinding
  split
  · rename_i hf
    subst hf
    exact .pure _
  · split
    · exact .error _ _
    · exact .pure _

/-- The kind of a call is that of its function. -/
theorem yields_operandKinds (f : String) (args : List Expr) :
    Yields (kindOfCall f) (operandKinds bound f args) := by
  unfold operandKinds
  split
  · split
    · exact .bind fun l _ => yields_kindOfBinding f l
    · exact .bind fun _ _ => .bind fun _ _ => .pure _
  · exact .pure _
  · exact .bind fun _ _ => .bind fun _ _ => .pure _

/-- The kind that the check finds does not depend on the place. -/
theorem yields_ownKind : ∀ (e : Expr) (bound : List String), Yields (ownKind e) (kind bound e)
  | .literal l, bound => by cases l <;> exact .pure _
  | .variable x, bound => yields_kindOfVariable x
  | .list items, bound => by
    rw [kind]
    exact .bind fun _ _ => .pure _
  | .map entries, bound => by
    rw [kind]
    exact .bind fun _ _ => .pure _
  | .attribute target name, bound => by
    rw [kind]
    exact .bind fun _ _ => .pure _
  | .index target position, bound => by
    rw [kind]
    exact .bind fun _ _ => .bind fun _ _ => .pure _
  | .construct target fields, bound => by
    rw [kind]
    exact .bind fun _ _ => .error _ _
  | .call f args, bound => by
    rw [kind, ownKind, ← kindOfCall_eq]
    split
    · exact yields_operandKinds f args
    · exact .error _ _
  | .method target f args, bound => by
    rw [kind, ownKind, ← kindOfCall_eq]
    split
    · exact .bind fun _ _ => yields_operandKinds f args
    · exact .error _ _
  | .signed s e, bound => by
    rw [kind]
    cases s with
    | not | truth => exact .bind fun _ _ => .bind fun _ _ => .pure _
    | negate | keep => exact .bind fun _ _ => .pure _
  | .arithmetic op left right, bound => by
    rw [kind]
    exact .bind fun _ _ => .bind fun _ _ => .pure _
  | .relation op left right, bound => by
    rw [kind]
    exact .bind fun _ _ => .bind fun _ _ => .pure _
  | .both left right, bound => by
    rw [kind]
    exact .bind fun _ _ => .bind fun _ _ => .bind fun _ _ => .bind fun _ _ => .pure _
  | .either left right, bound => by
    rw [kind]
    exact .bind fun _ _ => .bind fun _ _ => .bind fun _ _ => .bind fun _ _ => .pure _
  | .conditional condition yes no, bound => by
    rw [kind, ownKind]
    refine .bind fun _ _ => .bind fun _ _ => .bind fun a ha => .bind fun b hb => ?_
    rw [yields_ownKind yes bound a ha, yields_ownKind no bound b hb]
    exact .pure _

/-- Whether an expression by itself is in order at a place. -/
def InOrder (bound : List String) : Expr → Prop
  | .variable x => x ∈ sectionNames ∨ x ∈ bound
  | .call f _ | .method _ f _ => f ∈ testNames ∨ f ∈ valueNames
  | .construct _ _ => False
  | _ => True

/-- Whether the check finds a kind that is allowed at a spot. -/
def Suits (s : Spot) : Prop := ∃ k, kind s.bound s.expr = .ok k ∧ (s.truth = true → k ≠ .other)

theorem suits_false : Suits ⟨bound, e, false⟩ ↔ Succeeds (kind bound e) := by
  simp [Suits, Succeeds]

theorem suits_true : Suits ⟨bound, e, true⟩ ↔ ∃ k, kind bound e = .ok k ∧ k ≠ .other := by
  simp [Suits]

@[simp] theorem succeeds_orNeeds (place : Place) : Succeeds (k.orNeeds place) ↔ k ≠ .other := by
  unfold Kind.orNeeds
  split <;> simp [*]

/-- The check goes on whatever kind it found. -/
theorem succeeds_kind_bind {α : Type} {rest : Kind → Except TypeError α} {P : Prop}
    (h : ∀ k, Succeeds (rest k) ↔ P) :
    Succeeds (kind bound e >>= rest) ↔ Suits ⟨bound, e, false⟩ ∧ P := by
  rw [succeeds_bind, suits_false, Succeeds, ← exists_and_right]
  simp only [h]

/-- A truth value is called for, and then the check goes on. -/
theorem succeeds_kind_orNeeds {α : Type} {place : Place} {rest : Kind → Except TypeError α}
    {P : Prop} (h : ∀ k, Succeeds (rest k) ↔ P) :
    Succeeds (kind bound e >>= fun k => k.orNeeds place >>= fun _ => rest k) ↔
      Suits ⟨bound, e, true⟩ ∧ P := by
  have hn : ∀ k : Kind, (∃ u, k.orNeeds place = .ok u ∧ P) ↔ k ≠ .other ∧ P := fun k => by
    rw [exists_and_right, ← succeeds_orNeeds place, Succeeds]
  simp only [succeeds_bind, h, hn, suits_true, ← and_assoc, exists_and_right]

theorem succeeds_kinds : ∀ {es : List Expr},
    Succeeds (kinds bound es) ↔ ∀ s ∈ es.map (⟨bound, ·, false⟩), Suits s
  | [] => by simp [kinds]
  | e :: es => by
    rw [kinds, List.map_cons, List.forall_mem_cons]
    exact succeeds_kind_bind fun _ => succeeds_kinds

theorem succeeds_entryKinds : ∀ {es : List (Expr × Expr)},
    Succeeds (entryKinds bound es) ↔
      ∀ s ∈ es.flatMap fun x => [⟨bound, x.1, false⟩, ⟨bound, x.2, false⟩], Suits s
  | [] => by simp [entryKinds]
  | (k, v) :: es => by
    rw [entryKinds, List.flatMap_cons, List.cons_append, List.cons_append, List.nil_append,
      List.forall_mem_cons, List.forall_mem_cons]
    exact succeeds_kind_bind fun _ => succeeds_kind_bind fun _ => succeeds_entryKinds

theorem succeeds_kindOfBinding {f : String} :
    Succeeds (kindOfBinding f k) ↔ (f ≠ "map" → k ≠ .other) := by
  unfold kindOfBinding
  by_cases hf : f = "map"
  · simp [hf]
  · by_cases hk : k = .other <;> simp [hf, hk, Kind.orNeeds]

theorem operandKinds_of_binding {f x : String} {args : List Expr} {body : Expr}
    (h : binding? f args = some (x, body)) :
    operandKinds bound f args = kind (x :: bound) body >>= kindOfBinding f := by
  obtain ⟨rfl, hf⟩ := binding?_eq_some_iff.mp h
  rw [operandKinds, if_pos (bindsVariable_iff.mpr hf)]

theorem operandKinds_of_no_binding {f : String} {args : List Expr} (h : binding? f args = none) :
    operandKinds bound f args = kinds bound args >>= fun _ => pure (kindOfCall f) := by
  unfold operandKinds
  split
  · rename_i x body
    have hf : ¬ bindsVariable f = true := fun hf => by simp [binding?, bindsVariable_iff.mp hf] at h
    rw [if_neg hf, kinds, kind, kinds, kinds]
    simp only [bind_assoc]
    rfl
  · rfl
  · rw [kinds, bind_assoc]

theorem succeeds_operandKinds {f : String} {args : List Expr} :
    Succeeds (operandKinds bound f args) ↔ ∀ s ∈ operands bound f args, Suits s := by
  unfold operands
  cases hb : binding? f args with
  | some b => simp [operandKinds_of_binding hb, succeeds_bind, succeeds_kindOfBinding, Suits]
  | none => rw [operandKinds_of_no_binding hb, succeeds_bind_pure, succeeds_kinds]

/-- The check finds a kind if and only if the expression is in order and what is directly in it
suits its place. -/
theorem succeeds_kind_iff :
    Succeeds (kind bound e) ↔ InOrder bound e ∧ ∀ s ∈ below bound e, Suits s := by
  cases e with
  | literal l => cases l <;> simp [kind, InOrder, below]
  | «variable» x => simp [kind, InOrder, below, succeeds_kindOfVariable]
  | list items => simp only [kind, succeeds_bind_pure, succeeds_kinds, InOrder, below, true_and]
  | map entries =>
    simp only [kind, succeeds_bind_pure, succeeds_entryKinds, InOrder, below, true_and]
  | «attribute» target name =>
    simp only [kind, succeeds_bind_pure, ← suits_false, InOrder, below, true_and,
      List.forall_mem_singleton]
  | construct target fields => simp [kind, InOrder]
  | call f args =>
    simp only [kind, InOrder, below, ← isDeclared_iff, ← succeeds_operandKinds]
    split <;> simp [*]
  | method target f args =>
    simp only [kind, InOrder, below, ← isDeclared_iff, List.forall_mem_cons,
      ← succeeds_operandKinds]
    split
    · simp only [*, true_and]
      exact succeeds_kind_bind fun _ => .rfl
    · simp [*]
  | signed s e =>
    cases s with
    | not | truth =>
      simp only [kind, InOrder, below, true_and, List.forall_mem_cons]
      exact succeeds_kind_orNeeds fun _ => by simp
    | negate | keep =>
      simp only [kind, InOrder, below, true_and, List.forall_mem_cons]
      exact succeeds_kind_bind fun _ => by simp
  | index target position | arithmetic op left right | relation op left right =>
    simp only [kind, InOrder, below, true_and, List.forall_mem_cons]
    exact succeeds_kind_bind fun _ => succeeds_kind_bind fun _ => by simp
  | both left right | either left right =>
    simp only [kind, InOrder, below, true_and, List.forall_mem_cons]
    exact succeeds_kind_orNeeds fun _ => succeeds_kind_orNeeds fun _ => by simp
  | conditional condition yes no =>
    simp only [kind, InOrder, below, true_and, List.forall_mem_cons]
    exact succeeds_kind_orNeeds fun _ => succeeds_kind_bind fun _ =>
      succeeds_kind_bind fun _ => by simp

/-! ### What the check does with a whole expression -/

/-- Whether an expression offends nowhere but perhaps in its parts. -/
def Sound (s : Spot) : Prop := InOrder s.bound s.expr ∧ (s.truth = true → ¬ NoTruth s.expr)

theorem suits_iff_sound {s : Spot} : Suits s ↔ Sound s ∧ ∀ t, Directly s t → Suits t := by
  have hk : Suits s ↔ Succeeds (kind s.bound s.expr) ∧ (s.truth = true → ¬ NoTruth s.expr) := by
    constructor
    · rintro ⟨k, hk, ht⟩
      rw [yields_ownKind _ _ k hk] at ht
      exact ⟨⟨k, hk⟩, ht⟩
    · rintro ⟨⟨k, hk⟩, ht⟩
      refine ⟨k, hk, ?_⟩
      rwa [yields_ownKind _ _ k hk]
  rw [hk, succeeds_kind_iff, Sound, and_right_comm]
  rfl

theorem mem_of_binding {f x : String} {args : List Expr} {body : Expr}
    (h : binding? f args = some (x, body)) :
    body ∈ args := by
  obtain ⟨rfl, -⟩ := binding?_eq_some_iff.mp h
  exact List.mem_cons_of_mem _ (List.mem_singleton_self body)

theorem mem_of_operands {f : String} {args : List Expr} {s : Spot} (h : s ∈ operands bound f args) :
    s.expr ∈ args := by
  unfold operands at h
  cases hb : binding? f args with
  | some b =>
    rw [hb] at h
    cases List.mem_singleton.mp h
    exact mem_of_binding hb
  | none =>
    rw [hb] at h
    obtain ⟨a, ha, rfl⟩ := List.mem_map.mp h
    exact ha

/-- What stands in an expression is smaller. -/
theorem sizeOf_lt_of_mem_below {s : Spot} (h : s ∈ below bound e) : sizeOf s.expr < sizeOf e := by
  cases e with
  | literal value | «variable» name => cases h
  | list items =>
    obtain ⟨a, ha, rfl⟩ := List.mem_map.mp h
    have := List.sizeOf_lt_of_mem ha
    simp only [list.sizeOf_spec]
    omega
  | map entries =>
    obtain ⟨⟨k, v⟩, ha, hs⟩ := List.mem_flatMap.mp h
    have hp := List.sizeOf_lt_of_mem ha
    simp only [List.mem_cons, List.not_mem_nil, or_false] at hs
    simp only [map.sizeOf_spec, Prod.mk.sizeOf_spec] at hp ⊢
    rcases hs with rfl | rfl <;> simp only <;> omega
  | construct target fields =>
    rw [construct.sizeOf_spec]
    obtain rfl | h := List.mem_cons.mp h
    · simp only
      omega
    · obtain ⟨⟨k, v⟩, ha, rfl⟩ := List.mem_map.mp h
      have hp := List.sizeOf_lt_of_mem ha
      simp only [Prod.mk.sizeOf_spec] at hp ⊢
      omega
  | call f args =>
    have := List.sizeOf_lt_of_mem (mem_of_operands h)
    rw [call.sizeOf_spec]
    omega
  | method target f args =>
    rw [method.sizeOf_spec]
    obtain rfl | h := List.mem_cons.mp h
    · simp only
      omega
    · have := List.sizeOf_lt_of_mem (mem_of_operands h)
      omega
  | signed s e =>
    cases s <;> cases List.mem_singleton.mp h <;> simp only [signed.sizeOf_spec] <;> omega
  | «attribute» target name =>
    cases List.mem_singleton.mp h
    simp only [attribute.sizeOf_spec]
    omega
  | index a b | arithmetic op a b | relation op a b | both a b | either a b | conditional c a b =>
    simp only [below, List.mem_cons, List.not_mem_nil, or_false] at h
    rcases h with rfl | rfl | rfl <;>
      simp only [index.sizeOf_spec, arithmetic.sizeOf_spec, relation.sizeOf_spec, both.sizeOf_spec,
        either.sizeOf_spec, conditional.sizeOf_spec] <;>
      omega

/-- A spot suits its place if and only if all that stands there is sound. -/
theorem suits_iff (s : Spot) : Suits s ↔ ∀ t, Relation.ReflTransGen Directly s t → Sound t := by
  rw [suits_iff_sound]
  constructor
  · rintro ⟨hs, hd⟩ t ht
    obtain rfl | ⟨u, hu, ht⟩ := ht.cases_head
    · exact hs
    · exact (suits_iff u).mp (hd u hu) t ht
  · intro h
    exact ⟨h s .refl, fun u hu => (suits_iff u).mpr fun t ht => h t (.head hu ht)⟩
termination_by sizeOf s.expr
decreasing_by all_goals exact sizeOf_lt_of_mem_below hu

theorem declared_of_inOrder {f : String} (hi : InOrder bound e) (hc : called? e = some f) :
    f ∈ testNames ∨ f ∈ valueNames := by
  cases e with
  | call g args | method target g args =>
    cases hc
    exact hi
  | _ => cases hc

theorem acceptable_iff {e : Expr} : Acceptable e ↔ ∀ s, StandsIn e s → Sound s := by
  constructor
  · intro h s hs
    refine ⟨?_, h.truths s hs⟩
    cases he : s.expr with
    | «variable» x => exact h.inScope s x hs he
    | call f args | method target f args => exact h.declared s f hs (by rw [he, called?])
    | construct target fields => exact h.constructions s target fields hs he
    | _ => trivial
  · intro h
    constructor
    · intro s x hs he
      simpa only [he, InOrder] using (h s hs).1
    · exact fun s f hs he => declared_of_inOrder (h s hs).1 he
    · intro s target fields hs he
      simpa only [he, InOrder] using (h s hs).1
    · exact fun s hs => (h s hs).2

theorem check_iff {e : Expr} : check e = .ok () ↔ Suits ⟨[], e, true⟩ := by
  rw [suits_true, check]
  cases kind [] e with
  | error err => simp [bind, Except.bind]
  | ok k => by_cases hk : k = .other <;> simp [hk, bind, Except.bind, pure, Except.pure]

theorem compile_eq {source : String} (h : Expr.read source.toList = .ok e) :
    Predicate.compile source =
      .ok (match check e with
        | .ok _ => .ok ⟨source, e⟩
        | .error reason => .error (.illTyped source reason)) := by
  unfold Predicate.compile
  rw [h]
  dsimp only
  cases check e <;> rfl

theorem exists_compile_iff {source : String} (h : Expr.read source.toList = .ok e) :
    (∃ p, Predicate.compile source = .ok (.ok p)) ↔ check e = .ok () := by
  cases hc : check e <;> simp [compile_eq h, hc]

/-- What is accepted has been read and checked. -/
theorem read_and_check_of_compile {source : String} {p : Predicate}
    (h : Predicate.compile source = .ok (.ok p)) :
    Expr.read source.toList = .ok p.body ∧ check p.body = .ok () := by
  cases hr : Expr.read source.toList with
  | error e =>
    unfold Predicate.compile at h
    rw [hr] at h
    cases e <;> cases h
  | ok e =>
    rw [compile_eq hr] at h
    cases hc : check e with
    | error reason =>
      rw [hc] at h
      cases h
    | ok _ =>
      rw [hc] at h
      cases h
      exact ⟨rfl, hc⟩

/-- A text that can be read is accepted as a predicate if and only if nothing that stands in its
expression offends. -/
theorem compile_accepts_iff {source : String} {e : Expr} (h : Expr.read source.toList = .ok e) :
    (∃ p, Predicate.compile source = .ok (.ok p)) ↔ Acceptable e := by
  rw [exists_compile_iff h, check_iff, suits_iff, acceptable_iff]
  rfl

/-- That all items are ready, as the given variable has it. -/
def allReady (x : String) : Expr :=
  .method (.attribute (.variable "spec") "items") "all"
    [.variable "x", .attribute (.variable x) "ready"]

/-- A variable may stand in the body of the call that binds it and in no other place. -/
theorem acceptable_boundVariable :
    Expr.read "spec.items.all(x, x.ready)".toList = .ok (allReady "x") ∧
      (∃ p, Predicate.compile "spec.items.all(x, x.ready)" = .ok (.ok p)) ∧
      Acceptable (allReady "x") ∧
      Expr.read "spec.items.all(x, y.ready)".toList = .ok (allReady "y") ∧
      (¬ ∃ p, Predicate.compile "spec.items.all(x, y.ready)" = .ok (.ok p)) ∧
      ¬ Acceptable (allReady "y") := by
  have hx : Expr.read "spec.items.all(x, x.ready)".toList = .ok (allReady "x") := rfl
  have hy : Expr.read "spec.items.all(x, y.ready)".toList = .ok (allReady "y") := rfl
  have hc : ∃ p, Predicate.compile "spec.items.all(x, x.ready)" = .ok (.ok p) :=
    ⟨_, compile_eq hx⟩
  have hn : ¬ ∃ p, Predicate.compile "spec.items.all(x, y.ready)" = .ok (.ok p) := by
    rintro ⟨p, hp⟩
    rw [compile_eq hy] at hp
    cases hp
  exact ⟨hx, hc, (compile_accepts_iff hx).mp hc, hy, hn, mt (compile_accepts_iff hy).mpr hn⟩

end ClusterArchive.Proofs.Expr.Acceptance
