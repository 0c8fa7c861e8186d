import ClusterArchive.Proofs.Expr.Acceptance
import Mathlib.Data.List.Forall2

/-! # Names of bound variables

An expression is `Renamed` if the variable that one call in it binds has another name, at the call
and wherever the call binds it, and that name was not in use there. Each spot of the expression then
`Becomes` one of the renamed expression and the other way around, and what is directly in the one
becomes what is directly in the other (`Becomes.below`). It stays in scope (`Becomes.inOrder_iff`),
but it may change its kind: the check knows a variable with the name of a section as that section
wherever it stands, and so as no truth value, while it knows nothing of a variable with another name
(`noTruth_rename`). Hence an expression that is accepted still is when it is renamed, and one that
is refused still is unless the call bound the name of a section (`accepted_renamed`). -/

namespace ClusterArchive.Proofs.Expr.Renaming

open ClusterArchive.Expr ClusterArchive.Proofs.Expr.Acceptance

/-! ### Renaming a variable -/

mutual

/-- Whether a name stands anywhere in an expression as a variable, those included that calls
bind. -/
def mentions (y : String) : Expr → Bool
  | .literal _ => false
  | .variable z => z == y
  | .list items => mentionsAny y items
  | .map entries => mentionsEntry y entries
  | .attribute target _ => mentions y target
  | .index target position => mentions y target || mentions y position
  | .construct target fields => mentions y target || mentionsField y fields
  | .call _ args => mentionsAny y args
  | .method target _ args => mentions y target || mentionsAny y args
  | .signed _ e => mentions y e
  | .arithmetic _ left right | .relation _ left right | .both left right | .either left right =>
    mentions y left || mentions y right
  | .conditional condition yes no => mentions y condition || mentions y yes || mentions y no

/-- The same for expressions of a list. -/
def mentionsAny (y : String) : List Expr → Bool
  | [] => false
  | e :: rest => mentions y e || mentionsAny y rest

/-- The same for the entries of a map. -/
def mentionsEntry (y : String) : List (Expr × Expr) → Bool
  | [] => false
  | (k, v) :: rest => mentions y k || mentions y v || mentionsEntry y rest

/-- The same for the fields of a construction. -/
def mentionsField (y : String) : List (String × Expr) → Bool
  | [] => false
  | (_, v) :: rest => mentions y v || mentionsField y rest

end

mutual

/-- An expression with another name for a variable, but for where a call in it binds the variable
anew. -/
def rename (x y : String) : Expr → Expr
  | .literal l => .literal l
  | .variable z => .variable (if z = x then y else z)
  | .list items => .list (renameAll x y items)
  | .map entries => .map (renameEntries x y entries)
  | .attribute target name => .attribute (rename x y target) name
  | .index target position => .index (rename x y target) (rename x y position)
  | .construct target fields => .construct (rename x y target) (renameFields x y fields)
  | .call f args => .call f (renameOperands x y f args)
  | .method target f args => .method (rename x y target) f (renameOperands x y f args)
  | .signed sign e => .signed sign (rename x y e)
  | .arithmetic op left right => .arithmetic op (rename x y left) (rename x y right)
  | .relation op left right => .relation op (rename x y left) (rename x y right)
  | .both left right => .both (rename x y left) (rename x y right)
  | .either left right => .either (rename x y left) (rename x y right)
  | .conditional condition yes no =>
    .conditional (rename x y condition) (rename x y yes) (rename x y no)

/-- The operands of a call with another name for a variable: a variable that the call binds keeps
its name, and if it is the same, so does its body. -/
def renameOperands (x y f : String) : List Expr → List Expr
  | [.variable z, body] =>
    if f ∈ bindingNames then [.variable z, if z = x then body else rename x y body]
    else [.variable (if z = x then y else z), rename x y body]
  | [] => []
  | e :: rest => rename x y e :: renameAll x y rest

/-- The expressions of a list with another name for a variable. -/
def renameAll (x y : String) : List Expr → List Expr
  | [] => []
  | e :: rest => rename x y e :: renameAll x y rest

/-- The entries of a map with another name for a variable. -/
def renameEntries (x y : String) : List (Expr × Expr) → List (Expr × Expr)
  | [] => []
  | (k, v) :: rest => (rename x y k, rename x y v) :: renameEntries x y rest

/-- The fields of a construction with another name for a variable. -/
def renameFields (x y : String) : List (String × Expr) → List (String × Expr)
  | [] => []
  | (n, v) :: rest => (n, rename x y v) :: renameFields x y rest

end

/-- Whether an expression is another one in which a call that binds a variable `x` binds `y`
instead, which its body did not mention. -/
inductive Renamed (x y : String) : Expr → Expr → Prop
  | call {f : String} {body : Expr} (hf : f ∈ bindingNames) (hy : mentions y body = false) :
    Renamed x y (.call f [.variable x, body]) (.call f [.variable y, rename x y body])
  | method {target : Expr} {f : String} {body : Expr} (hf : f ∈ bindingNames)
    (hy : mentions y body = false) :
    Renamed x y (.method target f [.variable x, body])
    (.method target f [.variable y, rename x y body])
  | item {before after : List Expr} {e e' : Expr} (h : Renamed x y e e') :
    Renamed x y (.list (before ++ e :: after)) (.list (before ++ e' :: after))
  | key {before after : List (Expr × Expr)} {v e e' : Expr} (h : Renamed x y e e') :
    Renamed x y (.map (before ++ (e, v) :: after)) (.map (before ++ (e', v) :: after))
  | entry {before after : List (Expr × Expr)} {k e e' : Expr} (h : Renamed x y e e') :
    Renamed x y (.map (before ++ (k, e) :: after)) (.map (before ++ (k, e') :: after))
  | subject {name : String} {e e' : Expr} (h : Renamed x y e e') :
    Renamed x y (.attribute e name) (.attribute e' name)
  | indexed {position e e' : Expr} (h : Renamed x y e e') :
    Renamed x y (.index e position) (.index e' position)
  | position {target e e' : Expr} (h : Renamed x y e e') :
    Renamed x y (.index target e) (.index target e')
  | constructed {fields : List (String × Expr)} {e e' : Expr} (h : Renamed x y e e') :
    Renamed x y (.construct e fields) (.construct e' fields)
  | field {target : Expr} {before after : List (String × Expr)} {n : String} {e e' : Expr}
    (h : Renamed x y e e') :
    Renamed x y (.construct target (before ++ (n, e) :: after))
    (.construct target (before ++ (n, e') :: after))
  | argument {f : String} {before after : List Expr} {e e' : Expr} (h : Renamed x y e e') :
    Renamed x y (.call f (before ++ e :: after)) (.call f (before ++ e' :: after))
  | target {f : String} {args : List Expr} {e e' : Expr} (h : Renamed x y e e') :
    Renamed x y (.method e f args) (.method e' f args)
  | operand {target : Expr} {f : String} {before after : List Expr} {e e' : Expr}
    (h : Renamed x y e e') :
    Renamed x y (.method target f (before ++ e :: after)) (.method target f (before ++ e' :: after))
  | signed {sign : Sign} {e e' : Expr} (h : Renamed x y e e') :
    Renamed x y (.signed sign e) (.signed sign e')
  | arithmeticLeft {op : Arithmetic} {right e e' : Expr} (h : Renamed x y e e') :
    Renamed x y (.arithmetic op e right) (.arithmetic op e' right)
  | arithmeticRight {op : Arithmetic} {left e e' : Expr} (h : Renamed x y e e') :
    Renamed x y (.arithmetic op left e) (.arithmetic op left e')
  | relationLeft {op : Relation} {right e e' : Expr} (h : Renamed x y e e') :
    Renamed x y (.relation op e right) (.relation op e' right)
  | relationRight {op : Relation} {left e e' : Expr} (h : Renamed x y e e') :
    Renamed x y (.relation op left e) (.relation op left e')
  | bothLeft {right e e' : Expr} (h : Renamed x y e e') :
    Renamed x y (.both e right) (.both e' right)
  | bothRight {left e e' : Expr} (h : Renamed x y e e') : Renamed x y (.both left e) (.both left e')
  | eitherLeft {right e e' : Expr} (h : Renamed x y e e') :
    Renamed x y (.either e right) (.either e' right)
  | eitherRight {left e e' : Expr} (h : Renamed x y e e') :
    Renamed x y (.either left e) (.either left e')
  | condition {yes no e e' : Expr} (h : Renamed x y e e') :
    Renamed x y (.conditional e yes no) (.conditional e' yes no)
  | yes {condition no e e' : Expr} (h : Renamed x y e e') :
    Renamed x y (.conditional condition e no) (.conditional condition e' no)
  | no {condition yes e e' : Expr} (h : Renamed x y e e') :
    Renamed x y (.conditional condition yes e) (.conditional condition yes e')

variable {x y : String}

/-! ### Lists of expressions -/

theorem mentionsAny_eq : ∀ es : List Expr, mentionsAny y es = es.any (mentions y)
  | [] => rfl
  | e :: es => congrArg (mentions y e || ·) (mentionsAny_eq es)

theorem mentionsEntry_eq : ∀ es : List (Expr × Expr),
    mentionsEntry y es = es.any fun p => mentions y p.1 || mentions y p.2
  | [] => rfl
  | (k, v) :: es => congrArg ((mentions y k || mentions y v) || ·) (mentionsEntry_eq es)

theorem mentionsField_eq :
    ∀ es : List (String × Expr), mentionsField y es = es.any fun p => mentions y p.2
  | [] => rfl
  | (_, v) :: es => congrArg (mentions y v || ·) (mentionsField_eq es)

theorem renameAll_eq : ∀ es : List Expr, renameAll x y es = es.map (rename x y)
  | [] => rfl
  | e :: es => congrArg (rename x y e :: ·) (renameAll_eq es)

theorem renameEntries_eq : ∀ es : List (Expr × Expr),
    renameEntries x y es = es.map fun p => (rename x y p.1, rename x y p.2)
  | [] => rfl
  | (k, v) :: es => congrArg ((rename x y k, rename x y v) :: ·) (renameEntries_eq es)

theorem renameFields_eq : ∀ es : List (String × Expr),
    renameFields x y es = es.map fun p => (p.1, rename x y p.2)
  | [] => rfl
  | (n, v) :: es => congrArg ((n, rename x y v) :: ·) (renameFields_eq es)

/-! ### Operands of a call -/

theorem renameOperands_of_binding {f z : String} {args : List Expr} {body : Expr}
    (h : binding? f args = some (z, body)) :
    renameOperands x y f args = [.variable z, if z = x then body else rename x y body] := by
  obtain ⟨rfl, hf⟩ := binding?_eq_some_iff.mp h
  rw [renameOperands, if_pos hf]

theorem renameOperands_of_no_binding {f : String} {args : List Expr} (h : binding? f args = none) :
    renameOperands x y f args = args.map (rename x y) := by
  unfold renameOperands
  split
  · rename_i z body
    have hf : f ∉ bindingNames := fun hf => by
      rw [binding?_eq_some_iff.mpr ⟨rfl, hf⟩] at h
      cases h
    rw [if_neg hf]
    rfl
  · rfl
  · rw [renameAll_eq, List.map_cons]

theorem exists_variable_of_rename {e : Expr} {z : String} (h : rename x y e = .variable z) :
    ∃ w, e = .variable w := by
  cases e with
  | «variable» w => exact ⟨w, rfl⟩
  | _ => cases h

/-- A call binds a variable after the renaming only if it did so before. -/
theorem binding?_rename {f : String} {args : List Expr} (h : binding? f args = none) :
    binding? f (args.map (rename x y)) = none := by
  cases hb : binding? f (args.map (rename x y)) with
  | none => rfl
  | some p =>
    obtain ⟨hm, hf⟩ := binding?_eq_some_iff.mp hb
    obtain ⟨a, rest, rfl, ha, hr⟩ := List.map_eq_cons_iff.mp hm
    obtain ⟨body, rest, rfl, -, hr⟩ := List.map_eq_cons_iff.mp hr
    obtain rfl := List.map_eq_nil_iff.mp hr
    obtain ⟨w, rfl⟩ := exists_variable_of_rename ha
    rw [binding?_eq_some_iff.mpr ⟨rfl, hf⟩] at h
    cases h

/-! ### Spots before and after -/

/-- Whether two lists of bound variables are one but for the variable that is renamed. -/
structure Swapped (x y : String) (b b' : List String) : Prop where
  old : x ∈ b
  new : y ∈ b'
  others : ∀ z, z ≠ x → z ≠ y → (z ∈ b ↔ z ∈ b')

theorem Swapped.cons {b b' : List String} (h : Swapped x y b b') (z : String) :
    Swapped x y (z :: b) (z :: b') where
  old := List.mem_cons_of_mem z h.old
  new := List.mem_cons_of_mem z h.new
  others w hx hy := by rw [List.mem_cons, List.mem_cons, h.others w hx hy]

/-- What a spot becomes by a renaming: it stays, it is around the renamed call, it is where the call
binds the variable, or it is where another call binds the variable anew. -/
inductive Becomes (x y : String) : Spot → Spot → Prop
  | same (s : Spot) : Becomes x y s s
  | around {b : List String} {e e' : Expr} {t : Bool} (h : Renamed x y e e') :
    Becomes x y ⟨b, e, t⟩ ⟨b, e', t⟩
  | within {b b' : List String} {e : Expr} {t : Bool} (hb : Swapped x y b b')
    (hy : mentions y e = false) :
    Becomes x y ⟨b, e, t⟩ ⟨b', rename x y e, t⟩
  | beyond {b b' : List String} {e : Expr} {t : Bool} (hb : ∀ z, z ≠ y → (z ∈ b ↔ z ∈ b'))
    (hy : mentions y e = false) : Becomes x y ⟨b, e, t⟩ ⟨b', e, t⟩

section Lists

variable {α : Type} {R : Spot → Spot → Prop}

theorem forall₂_map {l : List α} {g g' : α → Spot} (h : ∀ a ∈ l, R (g a) (g' a)) :
    List.Forall₂ R (l.map g) (l.map g') :=
  List.forall₂_map_left_iff.mpr (List.forall₂_map_right_iff.mpr (List.forall₂_same.mpr h))

theorem forall₂_pairs (g g' : Expr → Spot) : ∀ {l : List (Expr × Expr)},
    (∀ p ∈ l, R (g p.1) (g' p.1) ∧ R (g p.2) (g' p.2)) →
      List.Forall₂ R (l.flatMap fun p => [g p.1, g p.2]) (l.flatMap fun p => [g' p.1, g' p.2])
  | [], _ => .nil
  | p :: l, h => by
    obtain ⟨hk, hv⟩ := h p List.mem_cons_self
    exact .cons hk (.cons hv (forall₂_pairs g g' fun q hq => h q (List.mem_cons_of_mem p hq)))

/-- Lists that differ in one place. -/
theorem forall₂_replace (hr : ∀ s, R s s) {s t : Spot} (h : R s t) :
    ∀ before after : List Spot, List.Forall₂ R (before ++ s :: after) (before ++ t :: after)
  | [], _ => .cons h (List.forall₂_same.mpr fun a _ => hr a)
  | a :: before, after => .cons (hr a) (forall₂_replace hr h before after)

theorem exists_left_of_mem {l l' : List Spot} (h : List.Forall₂ R l l') {t : Spot} (ht : t ∈ l') :
    ∃ s ∈ l, R s t := by
  induction h with
  | nil => cases ht
  | @cons a b l l' hab _ ih =>
    rcases List.mem_cons.mp ht with rfl | ht
    · exact ⟨a, List.mem_cons_self, hab⟩
    · obtain ⟨s, hs, hr⟩ := ih ht
      exact ⟨s, List.mem_cons_of_mem a hs, hr⟩

end Lists

/-! ### What stands directly in an expression -/

variable {b b' : List String} {e e' : Expr} {f : String} {args : List Expr}

/-- The name is not among the operands of a call, nor is it the variable that the call binds. -/
theorem mentions_of_binding {z : String} {body : Expr} (h : binding? f args = some (z, body))
    (hy : mentionsAny y args = false) : z ≠ y ∧ mentions y body = false := by
  obtain ⟨rfl, -⟩ := binding?_eq_some_iff.mp h
  simpa [mentionsAny, mentions] using hy

theorem not_mentions_of_mem {a : Expr} (hy : mentionsAny y args = false) (ha : a ∈ args) :
    mentions y a = false := by
  rw [mentionsAny_eq] at hy
  simpa using List.any_eq_false.mp hy a ha

theorem operands_beyond (hb : ∀ z, z ≠ y → (z ∈ b ↔ z ∈ b')) (hy : mentionsAny y args = false) :
    List.Forall₂ (Becomes x y) (Acceptance.operands b f args) (Acceptance.operands b' f args) := by
  unfold Acceptance.operands
  cases hbd : binding? f args with
  | some p =>
    obtain ⟨-, hbody⟩ := mentions_of_binding hbd hy
    refine .cons (.beyond (fun w hw => ?_) hbody) .nil
    rw [List.mem_cons, List.mem_cons, hb w hw]
  | none => exact forall₂_map fun a ha => .beyond hb (not_mentions_of_mem hy ha)

theorem below_beyond (hb : ∀ z, z ≠ y → (z ∈ b ↔ z ∈ b')) (hy : mentions y e = false) :
    List.Forall₂ (Becomes x y) (below b e) (below b' e) := by
  cases e with
  | literal l | «variable» z => exact .nil
  | list items =>
    rw [mentions] at hy
    exact forall₂_map fun a ha => .beyond hb (not_mentions_of_mem hy ha)
  | map entries =>
    rw [mentions, mentionsEntry_eq] at hy
    refine forall₂_pairs (⟨b, ·, false⟩) (⟨b', ·, false⟩) fun p hp => ?_
    have hp := List.any_eq_false.mp hy p hp
    simp only [Bool.or_eq_true, not_or, Bool.not_eq_true] at hp
    exact ⟨.beyond hb hp.1, .beyond hb hp.2⟩
  | construct target fields =>
    rw [mentions, mentionsField_eq, Bool.or_eq_false_iff] at hy
    refine .cons (.beyond hb hy.1) (forall₂_map fun p hp => .beyond hb ?_)
    simpa using List.any_eq_false.mp hy.2 p hp
  | call f args => exact operands_beyond hb hy
  | method target f args =>
    rw [mentions, Bool.or_eq_false_iff] at hy
    exact .cons (.beyond hb hy.1) (operands_beyond hb hy.2)
  | signed sign e => cases sign <;> exact .cons (.beyond hb hy) .nil
  | «attribute» target name => exact .cons (.beyond hb hy) .nil
  | index left right | arithmetic op left right | relation op left right | both left right
  | either left right =>
    rw [mentions, Bool.or_eq_false_iff] at hy
    exact .cons (.beyond hb hy.1) (.cons (.beyond hb hy.2) .nil)
  | conditional condition yes no =>
    rw [mentions, Bool.or_eq_false_iff, Bool.or_eq_false_iff] at hy
    exact .cons (.beyond hb hy.1.1) (.cons (.beyond hb hy.1.2) (.cons (.beyond hb hy.2) .nil))

theorem operands_within (hb : Swapped x y b b') (hy : mentionsAny y args = false) :
    List.Forall₂ (Becomes x y) (Acceptance.operands b f args)
      (Acceptance.operands b' f (renameOperands x y f args)) := by
  unfold Acceptance.operands
  cases hbd : binding? f args with
  | some p =>
    obtain ⟨z, body⟩ := p
    obtain ⟨-, hf⟩ := binding?_eq_some_iff.mp hbd
    obtain ⟨hz, hbody⟩ := mentions_of_binding hbd hy
    rw [renameOperands_of_binding hbd, binding?_eq_some_iff.mpr ⟨rfl, hf⟩]
    by_cases hx : z = x
    · -- the call binds the variable anew, so its body stays as it is
      subst hx
      rw [if_pos rfl]
      refine .cons (.beyond (fun w hw => ?_) hbody) .nil
      rw [List.mem_cons, List.mem_cons]
      by_cases hwz : w = z
      · simp [hwz]
      · rw [hb.others w hwz hw]
    · rw [if_neg hx]
      exact .cons (.within (hb.cons z) hbody) .nil
  | none =>
    rw [renameOperands_of_no_binding hbd, binding?_rename hbd, List.map_map]
    exact forall₂_map fun a ha => .within hb (not_mentions_of_mem hy ha)

theorem below_within (hb : Swapped x y b b') (hy : mentions y e = false) :
    List.Forall₂ (Becomes x y) (below b e) (below b' (rename x y e)) := by
  cases e with
  | literal l | «variable» z => exact .nil
  | list items =>
    rw [mentions] at hy
    rw [rename, renameAll_eq, below, below, List.map_map]
    exact forall₂_map fun a ha => .within hb (not_mentions_of_mem hy ha)
  | map entries =>
    rw [mentions, mentionsEntry_eq] at hy
    rw [rename, renameEntries_eq, below, below, List.flatMap_map]
    refine forall₂_pairs (⟨b, ·, false⟩) (⟨b', rename x y ·, false⟩) fun p hp => ?_
    have hp := List.any_eq_false.mp hy p hp
    simp only [Bool.or_eq_true, not_or, Bool.not_eq_true] at hp
    exact ⟨.within hb hp.1, .within hb hp.2⟩
  | construct target fields =>
    rw [mentions, mentionsField_eq, Bool.or_eq_false_iff] at hy
    rw [rename, renameFields_eq, below, below, List.map_map]
    refine .cons (.within hb hy.1) (forall₂_map fun p hp => .within hb ?_)
    simpa using List.any_eq_false.mp hy.2 p hp
  | call f args => exact operands_within hb hy
  | method target f args =>
    rw [mentions, Bool.or_eq_false_iff] at hy
    exact .cons (.within hb hy.1) (operands_within hb hy.2)
  | signed sign e => cases sign <;> exact .cons (.within hb hy) .nil
  | «attribute» target name => exact .cons (.within hb hy) .nil
  | index left right | arithmetic op left right | relation op left right | both left right
  | either left right =>
    rw [mentions, Bool.or_eq_false_iff] at hy
    exact .cons (.within hb hy.1) (.cons (.within hb hy.2) .nil)
  | conditional condition yes no =>
    rw [mentions, Bool.or_eq_false_iff, Bool.or_eq_false_iff] at hy
    exact .cons (.within hb hy.1.1) (.cons (.within hb hy.1.2) (.cons (.within hb hy.2) .nil))

theorem Renamed.not_variable (h : Renamed x y e e') :
    (∀ z, e ≠ .variable z) ∧ ∀ z, e' ≠ .variable z := by
  cases h <;> simp

/-- An operand that is no variable can only be the body of a call that binds one. -/
theorem eq_of_append_eq_pair {before after : List Expr} {z : String} {body : Expr}
    (hn : ∀ w, e ≠ .variable w) (h : before ++ e :: after = [.variable z, body]) :
    before = [.variable z] ∧ e = body ∧ after = [] := by
  cases before with
  | nil => exact absurd (List.cons.inj h).1 (hn z)
  | cons a before =>
    obtain ⟨rfl, hr⟩ := List.cons.inj h
    cases before with
    | nil =>
      obtain ⟨rfl, rfl⟩ := List.cons.inj hr
      exact ⟨rfl, rfl, rfl⟩
    | cons c before =>
      have ht := (List.cons.inj hr).2
      simp at ht

/-- Replacing an operand that is no variable changes nothing about what a call binds. -/
theorem binding?_replace {before after : List Expr} (hn : ∀ z, e ≠ .variable z)
    (hn' : ∀ z, e' ≠ .variable z) :
    (∃ z, binding? f (before ++ e :: after) = some (z, e) ∧
      binding? f (before ++ e' :: after) = some (z, e')) ∨
      (binding? f (before ++ e :: after) = none ∧ binding? f (before ++ e' :: after) = none) := by
  by_cases hs : (∃ z, before = [.variable z]) ∧ after = [] ∧ f ∈ bindingNames
  · obtain ⟨⟨z, rfl⟩, rfl, hf⟩ := hs
    exact .inl ⟨z, binding?_eq_some_iff.mpr ⟨rfl, hf⟩, binding?_eq_some_iff.mpr ⟨rfl, hf⟩⟩
  · have hnone : ∀ a : Expr, (∀ z, a ≠ .variable z) → binding? f (before ++ a :: after) = none := by
      intro a ha
      cases hb : binding? f (before ++ a :: after) with
      | none => rfl
      | some p =>
        obtain ⟨he, hf⟩ := binding?_eq_some_iff.mp hb
        obtain ⟨hbf, -, haf⟩ := eq_of_append_eq_pair ha he
        exact absurd ⟨⟨p.1, hbf⟩, haf, hf⟩ hs
    exact .inr ⟨hnone e hn, hnone e' hn'⟩

theorem operands_around {before after : List Expr} (h : Renamed x y e e') :
    List.Forall₂ (Becomes x y) (Acceptance.operands b f (before ++ e :: after))
      (Acceptance.operands b f (before ++ e' :: after)) := by
  obtain ⟨hn, hn'⟩ := h.not_variable
  unfold Acceptance.operands
  rcases binding?_replace hn hn' with ⟨z, hb, hb'⟩ | ⟨hb, hb'⟩
  · rw [hb, hb']
    exact .cons (.around h) .nil
  · rw [hb, hb', List.map_append, List.map_append, List.map_cons, List.map_cons]
    exact forall₂_replace .same (.around h) _ _

theorem operands_renamed {body : Expr} (hf : f ∈ bindingNames) (hy : mentions y body = false) :
    List.Forall₂ (Becomes x y) (Acceptance.operands b f [.variable x, body])
      (Acceptance.operands b f [.variable y, rename x y body]) := by
  have hs : Swapped x y (x :: b) (y :: b) :=
    ⟨List.mem_cons_self, List.mem_cons_self, fun z hx hy => by simp [hx, hy]⟩
  unfold Acceptance.operands
  rw [binding?_eq_some_iff.mpr ⟨rfl, hf⟩, binding?_eq_some_iff.mpr ⟨rfl, hf⟩]
  exact .cons (.within hs hy) .nil

theorem below_around (h : Renamed x y e e') :
    List.Forall₂ (Becomes x y) (below b e) (below b e') := by
  cases h with
  | call hf hy => exact operands_renamed hf hy
  | method hf hy => exact .cons (.same _) (operands_renamed hf hy)
  | item h =>
    rw [below, below, List.map_append, List.map_append, List.map_cons, List.map_cons]
    exact forall₂_replace .same (.around h) _ _
  | key h =>
    rw [below, below, List.flatMap_append, List.flatMap_append, List.flatMap_cons,
      List.flatMap_cons]
    exact forall₂_replace .same (.around h) _ _
  | entry h =>
    rw [below, below, List.flatMap_append, List.flatMap_append, List.flatMap_cons,
      List.flatMap_cons]
    exact List.rel_append (List.forall₂_same.mpr fun s _ => .same s)
      (.cons (.same _) (forall₂_replace .same (.around h) [] _))
  | field h =>
    rw [below, below, List.map_append, List.map_append, List.map_cons, List.map_cons]
    exact .cons (.same _) (forall₂_replace .same (.around h) _ _)
  | argument h => exact operands_around h
  | target h => exact .cons (.around h) (List.forall₂_same.mpr fun s _ => .same s)
  | operand h => exact .cons (.same _) (operands_around h)
  | constructed h => exact .cons (.around h) (List.forall₂_same.mpr fun s _ => .same s)
  | @signed sign _ _ h => cases sign <;> exact .cons (.around h) .nil
  | subject h => exact .cons (.around h) .nil
  | indexed h | arithmeticLeft h | relationLeft h | bothLeft h | eitherLeft h =>
    exact .cons (.around h) (.cons (.same _) .nil)
  | position h | arithmeticRight h | relationRight h | bothRight h | eitherRight h =>
    exact .cons (.same _) (.cons (.around h) .nil)
  | condition h => exact .cons (.around h) (.cons (.same _) (.cons (.same _) .nil))
  | yes h => exact .cons (.same _) (.cons (.around h) (.cons (.same _) .nil))
  | no h => exact .cons (.same _) (.cons (.same _) (.cons (.around h) .nil))

theorem Becomes.below {s t : Spot} (h : Becomes x y s t) :
    List.Forall₂ (Becomes x y) (below s.bound s.expr) (below t.bound t.expr) := by
  cases h with
  | same => exact List.forall₂_same.mpr fun u _ => .same u
  | around h => exact below_around h
  | within hb hy => exact below_within hb hy
  | beyond hb hy => exact below_beyond hb hy

/-! ### Spots that are sound -/

/-- The kind of an expression does not depend on the name of a variable that a call in it binds. -/
theorem ownKind_of_renamed (h : Renamed x y e e') : ownKind e = ownKind e' := by
  induction h with
  | @signed sign _ _ _ _ => cases sign <;> rfl
  | yes _ ih | no _ ih => rw [ownKind, ownKind, ih]
  | _ => rfl

/-- Only a variable with the name of a section is certain to be no truth value. -/
theorem noTruth_rename : ∀ {e : Expr}, (y ∉ sectionNames → NoTruth (rename x y e) → NoTruth e) ∧
    (x ∉ sectionNames → NoTruth e → NoTruth (rename x y e))
  | .variable z => by
    unfold NoTruth rename
    by_cases hz : z = x
    · simp +contextual [hz, ownKind]
    · simp [hz]
  | .conditional condition yes no => by
    obtain ⟨hyes, hyes'⟩ := noTruth_rename (e := yes)
    obtain ⟨hno, hno'⟩ := noTruth_rename (e := no)
    constructor
    · intro hy h
      obtain ⟨hl, hr⟩ := join_eq_other_iff.mp h
      exact join_eq_other_iff.mpr ⟨hyes hy hl, hno hy hr⟩
    · intro hx h
      obtain ⟨hl, hr⟩ := join_eq_other_iff.mp h
      exact join_eq_other_iff.mpr ⟨hyes' hx hl, hno' hx hr⟩
  | .signed sign e => by cases sign <;> exact ⟨fun _ h => h, fun _ h => h⟩
  | .literal _ | .list _ | .map _ | .attribute _ _ | .index _ _ | .construct _ _ | .call _ _
  | .method _ _ _
  | .arithmetic _ _ _ | .relation _ _ _ | .both _ _ | .either _ _ => ⟨fun _ h => h, fun _ h => h⟩

theorem inOrder_within (hb : Swapped x y b b') (hy : mentions y e = false) :
    InOrder b e ↔ InOrder b' (rename x y e) := by
  cases e with
  | «variable» z =>
    have hzy : z ≠ y := by simpa [mentions] using hy
    rw [rename, InOrder, InOrder]
    by_cases hz : z = x
    · rw [if_pos hz, hz]
      exact iff_of_true (.inr hb.old) (.inr hb.new)
    · rw [if_neg hz, hb.others z hz hzy]
  | _ => rfl

theorem inOrder_beyond (hb : ∀ z, z ≠ y → (z ∈ b ↔ z ∈ b')) (hy : mentions y e = false) :
    InOrder b e ↔ InOrder b' e := by
  cases e with
  | «variable» z =>
    have hzy : z ≠ y := by simpa [mentions] using hy
    rw [InOrder, InOrder, hb z hzy]
  | _ => rfl

section Becomes

variable {s t : Spot}

theorem Becomes.inOrder_iff (h : Becomes x y s t) :
    InOrder s.bound s.expr ↔ InOrder t.bound t.expr := by
  cases h with
  | same => rfl
  | around h => cases h <;> rfl
  | within hb hy => exact inOrder_within hb hy
  | beyond hb hy => exact inOrder_beyond hb hy

theorem Becomes.truth_eq (h : Becomes x y s t) : s.truth = t.truth := by cases h <;> rfl

theorem Becomes.noTruth (h : Becomes x y s t) :
    (y ∉ sectionNames → NoTruth t.expr → NoTruth s.expr) ∧
      (x ∉ sectionNames → NoTruth s.expr → NoTruth t.expr) := by
  cases h with
  | same | beyond => exact ⟨fun _ h => h, fun _ h => h⟩
  | around h =>
    exact ⟨fun _ => (ownKind_of_renamed h).trans, fun _ => (ownKind_of_renamed h).symm.trans⟩
  | within => exact noTruth_rename

theorem Becomes.sound_after (hy : y ∉ sectionNames) (h : Becomes x y s t) (hs : Sound s) :
    Sound t :=
  ⟨h.inOrder_iff.mp hs.1, fun ht hn => hs.2 (h.truth_eq.trans ht) (h.noTruth.1 hy hn)⟩

theorem Becomes.sound_before (hx : x ∉ sectionNames) (h : Becomes x y s t) (ht : Sound t) :
    Sound s :=
  ⟨h.inOrder_iff.mpr ht.1, fun hs hn => ht.2 (h.truth_eq.symm.trans hs) (h.noTruth.2 hx hn)⟩

/-- If a relation of spots goes along with what is directly in them, soundness passes from all that
stands in the one to all that stands in the other. -/
theorem suits_of_forall₂ {R : Spot → Spot → Prop}
    (hd : ∀ {s t}, R s t →
      List.Forall₂ R (Acceptance.below s.bound s.expr) (Acceptance.below t.bound t.expr))
    (hs : ∀ {s t}, R s t → Sound s → Sound t) (h : R s t) (hsuits : Suits s) : Suits t := by
  rw [suits_iff] at hsuits ⊢
  intro u hu
  have hr : ∃ r, Relation.ReflTransGen Directly s r ∧ R r u := by
    induction hu with
    | refl => exact ⟨s, .refl, h⟩
    | tail _ hdu ih =>
      obtain ⟨r, hr, hru⟩ := ih
      obtain ⟨q, hq, hqu⟩ := exists_left_of_mem (hd hru) hdu
      exact ⟨q, hr.tail hq, hqu⟩
  obtain ⟨r, hr, hru⟩ := hr
  exact hs hru (hsuits r hr)

theorem Becomes.suits_after (hy : y ∉ sectionNames) (h : Becomes x y s t) (hs : Suits s) :
    Suits t :=
  suits_of_forall₂ Becomes.below (Becomes.sound_after hy) h hs

theorem Becomes.suits_before (hx : x ∉ sectionNames) (h : Becomes x y s t) (ht : Suits t) :
    Suits s :=
  suits_of_forall₂ (R := flip (Becomes x y)) (fun h => h.below.flip)
    (fun h => h.sound_before hx) h ht

end Becomes

/-! ### Acceptance -/

/-- If a call binds a variable with another name, which is not the name of a section, an expression
that was accepted still is; one that was refused still is, unless the call bound the name of a
section before. -/
theorem accepted_renamed {source source' : String} (hr : Renamed x y e e') (hy : y ∉ sectionNames)
    (h : Expr.read source.toList = .ok e) (h' : Expr.read source'.toList = .ok e') :
    ((∃ p, Predicate.compile source = .ok (.ok p)) → ∃ p, Predicate.compile source' = .ok (.ok p)) ∧
      (x ∉ sectionNames →
        ((∃ p, Predicate.compile source = .ok (.ok p)) ↔
          ∃ p, Predicate.compile source' = .ok (.ok p))) := by
  have hb : Becomes x y ⟨[], e, true⟩ ⟨[], e', true⟩ := .around hr
  rw [exists_compile_iff h, exists_compile_iff h', check_iff, check_iff]
  exact ⟨hb.suits_after hy, fun hx => ⟨hb.suits_after hy, hb.suits_before hx⟩⟩

/-- The variable that the inner call binds anew keeps its name. -/
theorem accepted_shadowing :
    Renamed "x" "y"
        (.method (.attribute (.variable "spec") "items") "all" [.variable "x",
          .both (.attribute (.variable "x") "ok")
            (.method (.attribute (.variable "x") "parts") "exists"
              [.variable "x", .attribute (.variable "x") "ok"])])
        (.method (.attribute (.variable "spec") "items") "all" [.variable "y",
          .both (.attribute (.variable "y") "ok")
            (.method (.attribute (.variable "y") "parts") "exists"
              [.variable "x", .attribute (.variable "x") "ok"])]) ∧
      "x" ∉ sectionNames ∧ "y" ∉ sectionNames ∧
      ((∃ p, Predicate.compile "spec.items.all(x, x.ok && x.parts.exists(x, x.ok))" = .ok (.ok p)) ↔
        ∃ p, Predicate.compile "spec.items.all(y, y.ok && y.parts.exists(x, x.ok))" =
          .ok (.ok p)) := by
  have hr : Renamed "x" "y"
      (.method (.attribute (.variable "spec") "items") "all" [.variable "x",
        .both (.attribute (.variable "x") "ok")
          (.method (.attribute (.variable "x") "parts") "exists"
            [.variable "x", .attribute (.variable "x") "ok"])])
      (.method (.attribute (.variable "spec") "items") "all" [.variable "y",
        .both (.attribute (.variable "y") "ok")
          (.method (.attribute (.variable "y") "parts") "exists"
            [.variable "x", .attribute (.variable "x") "ok"])]) := .method (by decide) (by decide)
  have hx : "x" ∉ sectionNames := by decide
  have hy : "y" ∉ sectionNames := by decide
  exact ⟨hr, hx, hy, (accepted_renamed hr hy rfl rfl).2 hx⟩

/-- A variable with the name of a section is taken for the section, also in the body of the call
that binds it. -/
theorem refused_sectionVariable :
    Renamed "spec" "x"
        (.method (.list [.literal (.bool true)]) "exists" [.variable "spec", .variable "spec"])
        (.method (.list [.literal (.bool true)]) "exists" [.variable "x", .variable "x"]) ∧
      "x" ∉ sectionNames ∧
      Predicate.compile "[true].exists(spec, spec)" =
        .ok (.error (.illTyped "[true].exists(spec, spec)" (.needsTruth (.body "exists")))) ∧
      ∃ p, Predicate.compile "[true].exists(x, x)" = .ok (.ok p) := by
  have hs : Expr.read "[true].exists(spec, spec)".toList =
      .ok (.method (.list [.literal (.bool true)]) "exists"
        [.variable "spec", .variable "spec"]) := rfl
  have hx : Expr.read "[true].exists(x, x)".toList =
      .ok (.method (.list [.literal (.bool true)]) "exists" [.variable "x", .variable "x"]) := rfl
  exact ⟨.method (by decide) (by decide), by decide, compile_eq hs, _, compile_eq hx⟩

end ClusterArchive.Proofs.Expr.Renaming
