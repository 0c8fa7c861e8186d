import ClusterArchive.Proofs.Expr.Acceptance
import ClusterArchive.Proofs.Resource.Decoding

/-! # What the type check refuses

An expression that is refused because it is certain to be no truth value has the value of one that
stands in it behind all conditionals, its `outcome`, and that one is certain to be no truth value as
well (`noTruth_outcome`). Evaluation bears the check out: literals, lists, maps, arithmetic and
calls of functions that answer no question have values of other kinds (`noBool_eval`). Two sorts of
expression are left. A section counts as certain, but a resource may give it any value
(`refused_section`), and `max` gives back one of its operands. So a refused expression that does not
come to a call of `max` has a truth value exactly if it comes to a section that is one
(`truth_of_refused_iff`). -/

namespace ClusterArchive.Proofs.Expr.Refusals

open ClusterArchive.Expr ClusterArchive.Proofs.Expr.Acceptance
  ClusterArchive.Proofs.Resource.Decoding

variable {bound : List String} {e t : Expr} {s : Scope}

/-! ### The reason of a refusal -/

section Spared

variable {α β : Type}

/-- Whether a result is no refusal for want of a truth value. -/
def Spared (x : Except TypeError α) : Prop := x ≠ .error .noTruth

theorem Spared.pure (a : α) : Spared (Pure.pure a) := fun h => by cases h

theorem Spared.bind {x : Except TypeError α} {f : α → Except TypeError β} (h : Spared x)
    (hf : ∀ a, Spared (f a)) : Spared (x >>= f) := by
  cases x with
  | error err =>
    intro he
    cases he
    exact h rfl
  | ok a => exact hf a

end Spared

theorem spared_undeclared {α : Type} (name : String) :
    Spared (.error (.undeclared name) : Except TypeError α) :=
  fun h => by cases h

theorem spared_orNeeds (k : Kind) (place : Place) : Spared (k.orNeeds place) := by
  unfold Kind.orNeeds
  split
  · exact fun h => by cases h
  · exact .pure _

theorem spared_kindOfVariable (x : String) : Spared (kindOfVariable bound x) := by
  unfold kindOfVariable
  split
  · exact .pure _
  · split
    · exact .pure _
    · exact spared_undeclared x

theorem spared_kindOfBinding (f : String) (k : Kind) : Spared (kindOfBinding f k) := by
  unfold kindOfBinding
  split
  · exact .pure _
  · split
    · rename_i err he
      exact fun h => spared_orNeeds k _ (by cases h; exact he)
    · exact .pure _

theorem spared_kinds :
    ∀ {es : List Expr}, (∀ e ∈ es, Spared (kind bound e)) → Spared (kinds bound es)
  | [], _ => .pure _
  | e :: es, h => by
    rw [kinds]
    exact (h e List.mem_cons_self).bind fun _ => spared_kinds fun a ha =>
      h a (List.mem_cons_of_mem e ha)

theorem spared_entryKinds : ∀ {es : List (Expr × Expr)},
    (∀ x ∈ es, Spared (kind bound x.1) ∧ Spared (kind bound x.2)) → Spared (entryKinds bound es)
  | [], _ => .pure _
  | (k, v) :: es, h => by
    obtain ⟨hk, hv⟩ := h (k, v) List.mem_cons_self
    rw [entryKinds]
    exact hk.bind fun _ => hv.bind fun _ => spared_entryKinds fun x hx =>
      h x (List.mem_cons_of_mem _ hx)

theorem spared_fieldKinds : ∀ {es : List (String × Expr)}, (∀ x ∈ es, Spared (kind bound x.2)) →
    Spared (fieldKinds bound es)
  | [], _ => .pure _
  | (n, v) :: es, h => by
    rw [fieldKinds]
    exact (h (n, v) List.mem_cons_self).bind fun _ => spared_fieldKinds fun x hx =>
      h x (List.mem_cons_of_mem _ hx)

theorem spared_operandKinds {f : String} {args : List Expr}
    (h : ∀ u ∈ Acceptance.operands bound f args, Spared (kind u.bound u.expr)) :
    Spared (operandKinds bound f args) := by
  unfold Acceptance.operands at h
  cases hb : binding? f args with
  | some b =>
    rw [hb] at h
    rw [operandKinds_of_binding hb]
    exact (h _ (List.mem_singleton_self _)).bind fun k => spared_kindOfBinding f k
  | none =>
    rw [hb] at h
    rw [operandKinds_of_no_binding hb]
    exact (spared_kinds fun a ha => h _ (List.mem_map_of_mem ha)).bind fun _ => .pure _

/-- Within an expression no part is refused for want of a truth value unless one that stands
directly in it is. -/
theorem spared_of_below (h : ∀ u ∈ below bound e, Spared (kind u.bound u.expr)) :
    Spared (kind bound e) := by
  cases e with
  | literal l => cases l <;> exact .pure _
  | «variable» x => exact spared_kindOfVariable x
  | list items =>
    rw [kind]
    exact (spared_kinds fun a ha => h _ (List.mem_map_of_mem ha)).bind fun _ => .pure _
  | map entries =>
    rw [kind]
    refine (spared_entryKinds fun x hx => ?_).bind fun _ => .pure _
    exact ⟨h ⟨bound, x.1, false⟩ (List.mem_flatMap.mpr ⟨x, hx, by simp⟩),
      h ⟨bound, x.2, false⟩ (List.mem_flatMap.mpr ⟨x, hx, by simp⟩)⟩
  | «attribute» target name =>
    rw [kind]
    exact (h ⟨bound, target, false⟩ (by simp [below])).bind fun _ => .pure _
  | index target position =>
    rw [kind]
    exact (h ⟨bound, target, false⟩ (by simp [below])).bind fun _ =>
      (h ⟨bound, position, false⟩ (by simp [below])).bind fun _ => .pure _
  | construct target fields =>
    rw [kind]
    refine (spared_fieldKinds fun x hx => ?_).bind fun _ => fun he => by cases he
    exact h ⟨bound, x.2, false⟩ (List.mem_cons_of_mem _ (List.mem_map_of_mem hx))
  | call f args =>
    rw [kind]
    split
    · exact spared_operandKinds h
    · exact spared_undeclared f
  | method target f args =>
    rw [kind]
    split
    · exact (h _ List.mem_cons_self).bind fun _ => spared_operandKinds fun u hu =>
        h u (List.mem_cons_of_mem _ hu)
    · exact spared_undeclared f
  | signed sign e =>
    rw [kind]
    cases sign with
    | not | truth =>
      exact (h ⟨bound, e, true⟩ (by simp [below])).bind fun k =>
        (spared_orNeeds k _).bind fun _ => .pure _
    | negate | keep => exact (h ⟨bound, e, false⟩ (by simp [below])).bind fun _ => .pure _
  | arithmetic op left right | relation op left right =>
    rw [kind]
    exact (h ⟨bound, left, false⟩ (by simp [below])).bind fun _ =>
      (h ⟨bound, right, false⟩ (by simp [below])).bind fun _ => .pure _
  | both left right | either left right =>
    rw [kind]
    exact (h ⟨bound, left, true⟩ (by simp [below])).bind fun k => (spared_orNeeds k _).bind fun _ =>
      (h ⟨bound, right, true⟩ (by simp [below])).bind fun l =>
        (spared_orNeeds l _).bind fun _ => .pure _
  | conditional condition yes no =>
    rw [kind]
    exact (h ⟨bound, condition, true⟩ (by simp [below])).bind fun k =>
        (spared_orNeeds k _).bind fun _ =>
      (h ⟨bound, yes, false⟩ (by simp [below])).bind fun _ =>
        (h ⟨bound, no, false⟩ (by simp [below])).bind fun _ => .pure _

theorem spared_kind (bound : List String) (e : Expr) : Spared (kind bound e) :=
  spared_of_below fun u _ => spared_kind u.bound u.expr
termination_by sizeOf e
decreasing_by exact sizeOf_lt_of_mem_below ‹_›

/-- Only the whole expression is refused for want of a truth value, and only if it is certain to be
none. -/
theorem noTruth_of_refused (h : check e = .error .noTruth) : NoTruth e := by
  unfold check at h
  cases hk : kind [] e with
  | error err =>
    rw [hk] at h
    refine absurd ?_ (spared_kind [] e)
    cases h
    exact hk
  | ok k =>
    rw [hk] at h
    by_cases ho : k = .other
    · rw [NoTruth, ← yields_ownKind e [] k hk, ho]
    · simp [bind, Except.bind, ho, pure, Except.pure] at h

theorem check_of_compile {source : String} (h : Expr.read source.toList = .ok e)
    (hc : Predicate.compile source = .ok (.error (.illTyped source .noTruth))) :
    check e = .error .noTruth := by
  rw [compile_eq h] at hc
  cases he : check e with
  | ok u => simp [he] at hc
  | error reason => simpa [he] using hc

/-! ### Values that are no truth values -/

/-- Whether a result is no truth value. -/
def NoBool (x : Except Failure Value) : Prop := ∀ b, x ≠ .ok (.bool b)

theorem NoBool.error (e : Failure) : NoBool (.error e) := fun _ h => by cases h

theorem NoBool.bind {α : Type} {x : Except Failure α} {f : α → Except Failure Value}
    (h : ∀ a, NoBool (f a)) : NoBool (x >>= f) := by
  cases x with
  | error e => exact .error e
  | ok a => exact h a

section Operations

variable (v w : Value)

theorem noBool_ofInt (i : Int) : NoBool (Value.ofInt i) := by
  unfold Value.ofInt
  split <;> intro b h <;> cases h

theorem noBool_ofNat (i : Int) : NoBool (Value.ofNat i) := by
  unfold Value.ofNat
  split <;> intro b h <;> cases h

theorem noBool_ofDuration (n : Int) : NoBool (Value.ofDuration n) := by
  unfold Value.ofDuration
  split <;> intro b h <;> cases h

theorem noBool_ofLater (t : Timestamp) (d : Duration) : NoBool (Value.ofLater t d) := by
  unfold Value.ofLater
  split <;> intro b h <;> cases h

theorem noBool_onNumbers (op : Arithmetic) : NoBool (op.onNumbers v w) := by
  unfold Arithmetic.onNumbers
  split
  · split
    · exact .error _
    · split
      · exact noBool_ofInt _
      · exact .error _
  · split
    · exact noBool_ofNat _
    · exact .error _
  all_goals
    intro b h
    cases h

theorem noBool_arithmetic (op : Arithmetic) : NoBool (op.apply v w) := by
  unfold Arithmetic.apply
  split
  case h_4 | h_7 => exact noBool_ofDuration _
  case h_5 | h_6 | h_8 => exact noBool_ofLater _ _
  case h_10 => exact noBool_onNumbers v w op
  all_goals
    intro b h
    cases h

theorem noBool_sign {sign : Sign} (h : sign = .negate ∨ sign = .keep) : NoBool (sign.apply v) := by
  rcases h with rfl | rfl <;> cases v <;> first | exact noBool_ofInt _ | exact fun b h => by cases h

theorem noBool_toInt : NoBool (toInt v) := by
  unfold toInt
  split
  · split
    · exact noBool_ofInt _
    · exact .error _
  · split <;> intro b h <;> cases h
  · exact fun b h => by cases h
  · exact noBool_ofInt _
  · exact .error _

theorem noBool_toUint : NoBool (toUint v) := by
  unfold toUint
  split
  · split
    · exact .error _
    · split
      · exact noBool_ofNat _
      · exact .error _
  · split <;> intro b h <;> cases h
  · exact noBool_ofNat _
  · exact fun b h => by cases h
  · exact .error _

theorem noBool_toDouble : NoBool (toDouble v) := by
  unfold toDouble
  split
  · split <;> intro b h <;> cases h
  all_goals
    intro b h
    cases h

theorem noBool_toText : NoBool (toText v) := by
  unfold toText
  split
  case h_3 => split <;> intro b h <;> cases h
  all_goals
    intro b h
    cases h

theorem noBool_toDuration (text : String) : NoBool (toDuration text) := by
  unfold toDuration
  split <;> intro b h <;> cases h

theorem noBool_toTimestamp (text : String) : NoBool (toTimestamp text) := by
  unfold toTimestamp
  split <;> intro b h <;> cases h

theorem noBool_sizeOf : NoBool (sizeOf_ v) := by
  unfold sizeOf_
  split <;> intro b h <;> cases h

end Operations

/-! ### Functions that answer no question -/

theorem noBool_apply {f : Builtin} (ht : f.isTest = false) (hm : f ≠ .max) (target : Option Value)
    (ops : List Operand) : NoBool (f.apply s target ops) := by
  cases f with
  | has | contains | startsWith | endsWith | matches_ | all | exists_ | existsOne => cases ht
  | max => exact absurd rfl hm
  | size => exact .bind noBool_sizeOf
  | string => exact .bind fun r => noBool_toText r.1
  | bytes => exact .bind fun _ => .bind fun _ => fun b h => by cases h
  | double => exact .bind fun r => noBool_toDouble r.1
  | int => exact .bind fun r => noBool_toInt r.1
  | uint => exact .bind fun r => noBool_toUint r.1
  | duration => exact .bind fun _ => .bind noBool_toDuration
  | timestamp => exact .bind fun _ => .bind noBool_toTimestamp
  | map | filter => exact .bind fun _ => fun b h => by cases h

theorem eq_max_of_ofName? {f : String} (h : Builtin.ofName? f = some .max) : f = "max" := by
  obtain ⟨p, hp, hm⟩ := Option.map_eq_some_iff.mp h
  have hf : p.1 = f := by simpa using List.find?_some hp
  have hn : ∀ q ∈ Builtin.names, q.2 = .max → q.1 = "max" := by decide
  rw [← hf]
  exact hn p (List.mem_of_find?_eq_some hp) hm

theorem noBool_applyNamed {f : String} (hf : f ∉ testNames) (hm : f ≠ "max") (target : Option Value)
    (ops : List Operand) : NoBool (applyNamed f s target ops) := by
  unfold applyNamed
  split
  · rename_i b hb
    have ht : b.isTest = false := by
      rw [← isTest_iff, isTest, hb] at hf
      simpa using hf
    exact noBool_apply ht (fun he => hm (eq_max_of_ofName? (he ▸ hb))) target ops
  · exact .error _

/-! ### What a conditional comes to -/

/-- The expression behind all conditionals that an expression has the value of. -/
def outcome (s : Scope) : Expr → Except Failure Expr
  | .conditional condition yes no => do
    let c ← eval condition s
    if c.isTrue then outcome s yes else outcome s no
  | e => .ok e

theorem eval_eq_outcome (s : Scope) : ∀ e : Expr, eval e s = outcome s e >>= (eval · s)
  | .conditional condition yes no => by
    rw [eval, outcome]
    cases eval condition s with
    | error err => rfl
    | ok c =>
      cases hc : c.isTrue with
      | true => simpa [bind, Except.bind, hc] using eval_eq_outcome s yes
      | false => simpa [bind, Except.bind, hc] using eval_eq_outcome s no
  | .literal _ | .variable _ | .list _ | .map _ | .attribute _ _ | .index _ _
  | .construct _ _ | .call _ _
  | .method _ _ _ | .signed _ _ | .arithmetic _ _ _ | .relation _ _ _ | .both _ _ | .either _ _ =>
    rfl

/-- Whether an expression is no conditional. -/
def Unconditional (t : Expr) : Prop := ∀ condition yes no, t ≠ .conditional condition yes no

/-- What is certain to be no truth value comes to what is certain to be none. -/
theorem noTruth_outcome :
    ∀ {e : Expr}, NoTruth e → outcome s e = .ok t → NoTruth t ∧ Unconditional t
  | .conditional condition yes no, hn, h => by
    obtain ⟨hy, hno⟩ := join_eq_other_iff.mp hn
    rw [outcome] at h
    cases hc : eval condition s with
    | error err => simp [hc, bind, Except.bind] at h
    | ok c =>
      rw [hc] at h
      cases ht : c.isTrue with
      | true => exact noTruth_outcome hy (by simpa [bind, Except.bind, ht] using h)
      | false => exact noTruth_outcome hno (by simpa [bind, Except.bind, ht] using h)
  | .literal _, hn, h | .variable _, hn, h | .list _, hn, h | .map _, hn, h | .attribute _ _, hn, h
  | .index _ _, hn, h | .construct _ _, hn, h | .call _ _, hn, h | .method _ _ _, hn, h
  | .signed _ _, hn, h
  | .arithmetic _ _ _, hn, h | .relation _ _ _, hn, h | .both _ _, hn, h | .either _ _, hn, h => by
    cases h
    exact ⟨hn, fun _ _ _ he => by cases he⟩

/-- What is certain to be no truth value has none, but for sections and what `max` gives back. -/
theorem noBool_eval (hn : NoTruth t) (hu : Unconditional t) (hv : ∀ x, t ≠ .variable x)
    (hm : called? t ≠ some "max") : NoBool (eval t s) := by
  unfold NoTruth at hn
  cases t with
  | literal l =>
    cases l with
    | bool b => cases hn
    | null | int i | double x | string text | bytes b => exact fun b h => by cases h
  | «variable» x => exact absurd rfl (hv x)
  | list items => exact .bind fun _ => fun b h => by cases h
  | map entries => exact .bind fun _ => fun b h => by cases h
  | call f args =>
    rw [ownKind] at hn
    have hf : f ∉ testNames := fun hf => by rw [if_pos hf] at hn; cases hn
    exact noBool_applyNamed hf (fun he => hm (congrArg some he)) none _
  | method target f args =>
    rw [ownKind] at hn
    have hf : f ∉ testNames := fun hf => by rw [if_pos hf] at hn; cases hn
    rw [eval]
    split
    · exact .error _
    · exact .bind fun v => noBool_applyNamed hf (fun he => hm (congrArg some he)) (some v) _
  | signed sign e =>
    cases sign with
    | not | truth => cases hn
    | negate => exact .bind fun v => noBool_sign v (.inl rfl)
    | keep => exact .bind fun v => noBool_sign v (.inr rfl)
  | arithmetic op left right => exact .bind fun v => .bind fun w => noBool_arithmetic v w op
  | conditional condition yes no => exact absurd rfl (hu condition yes no)
  | «attribute» _ _ | index _ _ | construct _ _ | relation _ _ _ | both _ _ | either _ _ => cases hn

/-! ### Sections -/

variable {r : Resource} {x : String} {b : Bool}

theorem ofJson_eq_bool_iff {v : Json.Value} : Value.ofJson v = .bool b ↔ v = .bool b := by
  cases v with
  | number n =>
    cases n with
    | integer i => by_cases hi : i < 0 <;> simp [Value.ofJson, Value.ofNumber, hi]
    | double d => simp [Value.ofJson, Value.ofNumber]
  | null | bool _ | string _ | array _ | object _ => simp [Value.ofJson]

theorem get_section (h : x ∈ sectionNames) :
    (Predicate.scope r).get x = .ok (.ofJson ((r.section? x).getD (.object []))) := by
  rcases List.mem_cons.mp h with rfl | h
  · rfl
  rcases List.mem_cons.mp h with rfl | h
  · rfl
  obtain rfl := List.mem_singleton.mp h
  rfl

/-- A section is a truth value exactly if the resource gives it as one. -/
theorem eval_section_iff (h : x ∈ sectionNames) :
    eval (.variable x) (Predicate.scope r) = .ok (.bool b) ↔ r.section? x = some (.bool b) := by
  rw [eval, get_section h, Except.ok.injEq, ofJson_eq_bool_iff]
  cases r.section? x <;> simp

/-- The metadata of a resource name it, so they are no truth value. -/
theorem metadata_ne_bool {v : Json.Value} (h : Resource.ofValue v = .ok r) :
    r.section? "metadata" ≠ some (.bool b) := by
  obtain ⟨apiVersion, kind, hs⟩ := stated_of_ofValue h
  intro hb
  have hn := hs.name_field
  rw [Resource.section?] at hb
  rw [Json.Value.stringAt?, hb] at hn
  cases hn

/-! ### Refused expressions -/

/-- Whether the value of an expression for a resource is that of the given expression, which stands
in it behind all conditionals. -/
def ComesTo (e : Expr) (r : Resource) (t : Expr) : Prop := outcome (Predicate.scope r) e = .ok t

/-- A truth value that a refused expression has is that of a section or comes from `max`. -/
theorem truth_of_noTruth (hn : NoTruth e) (h : e.eval (Predicate.scope r) = .ok (.bool b)) :
    (∃ x, x ∈ sectionNames ∧ ComesTo e r (.variable x) ∧ r.section? x = some (.bool b)) ∨
      ∃ t, ComesTo e r t ∧ called? t = some "max" := by
  rw [eval_eq_outcome] at h
  cases ho : outcome (Predicate.scope r) e with
  | error err =>
    rw [ho] at h
    cases h
  | ok t =>
    rw [ho] at h
    have ht : eval t (Predicate.scope r) = .ok (.bool b) := h
    obtain ⟨hn, hu⟩ := noTruth_outcome hn ho
    by_cases hm : called? t = some "max"
    · exact .inr ⟨t, ho, hm⟩
    by_cases hv : ∃ x, t = .variable x
    · obtain ⟨x, rfl⟩ := hv
      have hx : x ∈ sectionNames := by
        by_contra hx
        rw [NoTruth, ownKind, if_neg hx] at hn
        cases hn
      exact .inl ⟨x, hx, ho, (eval_section_iff hx).mp ht⟩
    · exact absurd ht (noBool_eval hn hu (fun x he => hv ⟨x, he⟩) hm b)

/-- **What is refused for want of a truth value has none**, unless it comes to a section that is
one: such an expression, if for a resource it does not come to a call of `max`, has a truth value
exactly if it comes to `spec` or `status` and the resource gives that section this truth value. -/
theorem truth_of_refused_iff {source : String} {v : Json.Value}
    (h : Expr.read source.toList = .ok e)
    (hc : Predicate.compile source = .ok (.error (.illTyped source .noTruth)))
    (hr : Resource.ofValue v = .ok r) (hm : ∀ t, ComesTo e r t → called? t ≠ some "max")
    (b : Bool) :
    e.eval (Predicate.scope r) = .ok (.bool b) ↔
      ∃ x, (x = "spec" ∨ x = "status") ∧ ComesTo e r (.variable x) ∧
        r.section? x = some (.bool b) := by
  constructor
  · intro he
    rcases truth_of_noTruth (noTruth_of_refused (check_of_compile h hc)) he with
      ⟨x, hx, hx'⟩ | ⟨t, ht, hmax⟩
    · refine ⟨x, ?_, hx'⟩
      rcases List.mem_cons.mp hx with rfl | hx
      · exact absurd hx'.2 (metadata_ne_bool hr)
      · simpa using hx
    · exact absurd hmax (hm t ht)
  · rintro ⟨x, hx, ho, hs⟩
    have hx : x ∈ sectionNames := by rcases hx with rfl | rfl <;> decide
    rw [eval_eq_outcome, show outcome (Predicate.scope r) e = .ok (.variable x) from ho]
    exact (eval_section_iff hx).mpr hs

/-- A switch with the given specification and no status. -/
def switch (spec : Json.Value) : Json.Value :=
  .object [("apiVersion", .string "v1"), ("kind", .string "Switch"),
    ("metadata", .object [("name", .string "s")]), ("spec", spec)]

/-- What identifies it. -/
def switchIdentity : Identity := ⟨"", "s", "", ⟨"", "v1", "Switch"⟩, ""⟩

theorem truth_of_refused_conditional :
    ∃ e r, Expr.read "has(status.phase) ? size(spec) : spec".toList = .ok e ∧
    Predicate.compile "has(status.phase) ? size(spec) : spec" =
      .ok (.error (.illTyped "has(status.phase) ? size(spec) : spec" .noTruth)) ∧
    Resource.ofValue (switch (.bool true)) = .ok r ∧ (∀ t, ComesTo e r t → called? t ≠ some "max") ∧
    (e.eval (Predicate.scope r) = .ok (.bool true) ↔
      ∃ x, (x = "spec" ∨ x = "status") ∧ ComesTo e r (.variable x) ∧
        r.section? x = some (.bool true)) := by
  have h : Expr.read "has(status.phase) ? size(spec) : spec".toList =
      .ok (.conditional (.call "has" [.attribute (.variable "status") "phase"])
        (.call "size" [.variable "spec"]) (.variable "spec")) := rfl
  have hc : Predicate.compile "has(status.phase) ? size(spec) : spec" =
      .ok (.error (.illTyped "has(status.phase) ? size(spec) : spec" .noTruth)) := compile_eq h
  have hr : Resource.ofValue (switch (.bool true)) = .ok ⟨switch (.bool true), switchIdentity⟩ :=
    rfl
  have hm : ∀ t, ComesTo (.conditional (.call "has" [.attribute (.variable "status") "phase"])
      (.call "size" [.variable "spec"]) (.variable "spec"))
      ⟨switch (.bool true), switchIdentity⟩ t → called? t ≠ some "max" := fun t ht => by
    have ho : Except.ok (Expr.variable "spec") = Except.ok t := ht
    cases ho
    exact fun he => by cases he
  exact ⟨_, _, h, hc, hr, hm, truth_of_refused_iff h hc hr hm true⟩

/-- A section is refused, although a resource may give it the value `true`. -/
theorem refused_section : Predicate.compile "spec" = .ok (.error (.illTyped "spec" .noTruth)) ∧
    Expr.read "spec".toList = .ok (.variable "spec") ∧
    ∃ r, Resource.ofValue (switch (.bool true)) = .ok r ∧
      Expr.eval (.variable "spec") (Predicate.scope r) = .ok (.bool true) := by
  have h : Expr.read "spec".toList = .ok (.variable "spec") := rfl
  exact ⟨compile_eq h, h, ⟨switch (.bool true), switchIdentity⟩, rfl, rfl⟩

end ClusterArchive.Proofs.Expr.Refusals
