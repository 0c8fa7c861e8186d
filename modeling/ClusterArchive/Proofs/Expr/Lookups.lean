import ClusterArchive.Proofs.Expr.Acceptance

/-! # What evaluation looks up

Evaluation goes from an expression to those that stand in it. It keeps the scope but for the body of
a call that binds a variable, which it evaluates under a value of that variable: `Comes` is one such
step, `Reaches` any number of them. Every variable that evaluation looks up is reached, and if
evaluation fails for want of a variable, then it has reached that variable in a scope without it
(`lost_of_eval`).

In an accepted expression the variables in scope include those under which the check went through it
(`Covered`). One place is left: the first operand of a call without a target is the subject of the
call and is evaluated like any other, but the check takes it for the name that the call binds. So a
variable that is looked up is in scope or is such an operand (`in_scope_but_for_subjects`). The
latter happens (`unbound_subject`). -/

namespace ClusterArchive.Proofs.Expr.Lookups

open ClusterArchive.Expr ClusterArchive.Proofs.Expr.Acceptance

/-! ### Steps of evaluation -/

/-- The names in scope. -/
def names (s : Scope) : List String := s.map Prod.fst

/-- What stands in an expression and is evaluated in the scope of it. Of a call that binds a
variable this is the subject only. -/
def parts : Expr → List Expr
  | .literal _ | .variable _ => []
  | .list items => items
  | .map entries => entries.flatMap fun x => [x.1, x.2]
  | .attribute target _ | .construct target _ => [target]
  | .index target position => [target, position]
  | .call f args => if f ∈ bindingNames then args.take 1 else args
  | .method target f args => target :: if f ∈ bindingNames then [] else args
  | .signed _ e => [e]
  | .arithmetic _ left right | .relation _ left right | .both left right | .either left right =>
    [left, right]
  | .conditional condition yes no => [condition, yes, no]

/-- The variable that a call binds when it is evaluated, and its body: they stand behind the
subject, which is the target or else the first operand. -/
def body? : Expr → Option (String × Expr)
  | .call f (_ :: .variable x :: body :: _) | .method _ f (.variable x :: body :: _) =>
    if f ∈ bindingNames then some (x, body) else none
  | _ => none

/-- An expression and the scope in which it is evaluated. -/
structure Task where
  expr : Expr
  scope : Scope

/-- Whether the evaluation of one expression may go on with another. -/
inductive Comes : Task → Task → Prop
  | part {e t : Expr} {s : Scope} (h : t ∈ parts e) : Comes ⟨e, s⟩ ⟨t, s⟩
  | body {e t : Expr} {s : Scope} {x : String} (v : Value) (h : body? e = some (x, t)) :
    Comes ⟨e, s⟩ ⟨t, (x, v) :: s⟩

/-- Whether evaluation may get from one expression to another. -/
def Reaches : Task → Task → Prop := Relation.ReflTransGen Comes

/-- Whether evaluation may get to a variable that is not in scope there. -/
def Lost (a : Task) (x : String) : Prop := ∃ s, Reaches a ⟨.variable x, s⟩ ∧ x ∉ names s

theorem Lost.of_comes {a b : Task} (h : Comes a b) {x : String} : Lost b x → Lost a x :=
  fun ⟨s, hr, hx⟩ => ⟨s, .head h hr, hx⟩

/-! ### Failures for want of a variable -/

section Due

variable {P : String → Prop} {α β : Type} {s : Scope}

/-- Whether a result fails for want of a variable only if that variable is one of the given. -/
def Due (P : String → Prop) (r : Except Failure α) : Prop := ∀ x, r = .error (.unbound x) → P x

theorem Due.ok (a : α) : Due P (.ok a) := fun _ h => by cases h

theorem Due.failed : Due P (.error .failed : Except Failure α) := fun _ h => by cases h

theorem Due.noSuchKey (name : String) :
    Due P (.error (.noSuchKey name) : Except Failure α) := fun _ h => by
  cases h

theorem Due.bind {r : Except Failure α} {f : α → Except Failure β} (h : Due P r)
    (hf : ∀ a, r = .ok a → Due P (f a)) : Due P (r >>= f) := by
  cases r with
  | error e =>
    intro x hx
    cases hx
    exact h x rfl
  | ok a => exact hf a rfl

theorem Due.map {r : Except Failure α} {f : α → β} (h : Due P r) : Due P (r.map f) := by
  cases r with
  | error e =>
    intro x hx
    cases hx
    exact h x rfl
  | ok a => exact .ok (f a)

/-- A failure that is passed on. -/
theorem Due.again {e : Failure} (h : Due P (.error e : Except Failure α)) :
    Due P (.error e : Except Failure β) := fun x hx => by
  cases hx
  exact h x rfl

/-! ### Operations on values -/

theorem due_get {x : String} (h : x ∉ names s → P x) : Due P (s.get x) := by
  intro y hy
  unfold Scope.get at hy
  split at hy
  · cases hy
  · rename_i hn
    cases hy
    refine h fun hx => ?_
    obtain ⟨b, hb, rfl⟩ := List.mem_map.mp hx
    exact absurd (List.find?_eq_none.mp hn b hb) (by simp)

theorem due_fieldOf (v : Value) (name : String) : Due P (fieldOf v name) := by
  unfold fieldOf
  split
  · exact .ok _
  · split
    · exact .ok _
    · exact .noSuchKey _

theorem due_element (v w : Value) : Due P (v.element w) := by
  unfold Value.element
  split
  · exact .ok _
  · split
    · exact .failed
    · exact .ok _
  · split
    · exact .ok _
    · exact .failed
  · exact .failed

theorem due_ofInt (i : Int) : Due P (Value.ofInt i) := by
  unfold Value.ofInt
  split
  · exact .ok _
  · exact .failed

theorem due_ofNat (i : Int) : Due P (Value.ofNat i) := by
  unfold Value.ofNat
  split
  · exact .ok _
  · exact .failed

theorem due_ofDuration (n : Int) : Due P (Value.ofDuration n) := by
  unfold Value.ofDuration
  split
  · exact .ok _
  · exact .failed

theorem due_ofLater (t : Timestamp) (d : Duration) : Due P (Value.ofLater t d) := by
  unfold Value.ofLater
  split
  · exact .ok _
  · exact .failed

theorem due_sign (sign : Sign) (v : Value) : Due P (sign.apply v) := by
  unfold Sign.apply
  split
  · exact .ok _
  · exact .ok _
  · exact due_ofInt _
  all_goals first | exact .ok _ | exact .failed

theorem due_onNumbers (op : Arithmetic) (v w : Value) : Due P (op.onNumbers v w) := by
  unfold Arithmetic.onNumbers
  split
  · split
    · exact .failed
    · split
      · exact due_ofInt _
      · exact .failed
  · split
    · exact due_ofNat _
    · exact .failed
  all_goals first | exact .ok _ | exact .failed

theorem due_arithmetic (op : Arithmetic) (v w : Value) : Due P (op.apply v w) := by
  unfold Arithmetic.apply
  split
  case h_10 => exact due_onNumbers op v w
  all_goals first | exact .ok _ | exact due_ofDuration _ | exact due_ofLater _ _

theorem due_ordered (allowed : Ordering → Bool) (v w : Value) : Due P (ordered allowed v w) := by
  unfold ordered
  split
  · exact .ok _
  · exact .failed

theorem due_within (v w : Value) : Due P (within v w) := by
  unfold within
  split
  all_goals first | exact .ok _ | exact .failed

theorem due_relation (r : Relation) (v w : Value) : Due P (r.apply v w) := by
  unfold Relation.apply
  split
  all_goals first | exact due_ordered _ v w | exact .ok _ | exact due_within v w

/-! ### Functions on values -/

theorem due_asText (v : Value) : Due P (asText v) := by
  unfold asText
  split
  · exact .ok _
  · exact .failed

theorem due_toInt (v : Value) : Due P (toInt v) := by
  unfold toInt
  split
  · split
    · exact due_ofInt _
    · exact .failed
  · split
    · exact .failed
    · exact .ok _
  · exact .ok _
  · exact due_ofInt _
  · exact .failed

theorem due_toUint (v : Value) : Due P (toUint v) := by
  unfold toUint
  split
  · split
    · exact .failed
    · split
      · exact due_ofNat _
      · exact .failed
  · split
    · exact .failed
    · exact .ok _
  · exact due_ofNat _
  · exact .ok _
  · exact .failed

theorem due_toDouble (v : Value) : Due P (toDouble v) := by
  unfold toDouble
  split
  · split
    · exact .ok _
    · exact .failed
  all_goals first | exact .ok _ | exact .failed

theorem due_toText (v : Value) : Due P (toText v) := by
  unfold toText
  split
  case h_3 =>
    split
    · exact .ok _
    · exact .failed
  all_goals first | exact .ok _ | exact .failed

theorem due_toDuration (text : String) : Due P (toDuration text) := by
  unfold toDuration
  split
  · exact .ok _
  · exact .failed

theorem due_toTimestamp (text : String) : Due P (toTimestamp text) := by
  unfold toTimestamp
  split
  · exact .ok _
  · exact .failed

theorem due_sizeOf (v : Value) : Due P (sizeOf_ v) := by
  unfold sizeOf_
  split
  all_goals first | exact .ok _ | exact .failed

theorem due_containing (v w : Value) : Due P (containing v w) := by
  unfold containing
  split
  · exact .ok _
  · split
    · exact .ok _
    · exact .failed
  · exact .ok _
  · split
    · exact .failed
    · exact .ok _
  · exact .ok _

theorem due_matching (text pattern : String) : Due P (matching text pattern) := by
  unfold matching
  split
  · exact .ok _
  · exact .failed

theorem due_greatest : ∀ (v : Value) (vs : List Value), Due P (greatest v vs)
  | v, [] => .ok v
  | v, w :: vs => by
    unfold greatest
    split
    · exact due_greatest v vs
    · exact due_greatest w vs
    · exact .failed

theorem due_greatestOf (vs : List Value) : Due P (greatestOf vs) := by
  cases vs with
  | nil => exact .ok _
  | cons v vs => exact due_greatest v vs

theorem due_maxOf (vs : List Value) : Due P (maxOf vs) := by
  unfold maxOf
  split
  · exact due_greatestOf _
  · exact due_greatestOf _

theorem due_itemsOf (v : Value) : Due P (itemsOf v) := by
  unfold itemsOf
  split
  · exact .ok _
  · exact .ok _
  · exact .failed

theorem due_listItems (v : Value) : Due P (listItems v) := by
  unfold listItems
  split
  · exact .ok _
  · exact .failed

/-! ### Calls that bind a variable -/

section Items

variable {test : Value → Except Failure Value}

theorem due_allOf (h : ∀ v, Due P (test v)) : ∀ vs : List Value, Due P (allOf test vs)
  | [] => .ok _
  | v :: vs => by
    unfold allOf
    split
    · rename_i hv
      exact (hv ▸ h v).again
    · exact .ok _
    · exact due_allOf h vs

theorem due_anyOf (h : ∀ v, Due P (test v)) : ∀ vs : List Value, Due P (anyOf test vs)
  | [] => .ok _
  | v :: vs => by
    unfold anyOf
    split
    · rename_i hv
      exact (hv ▸ h v).again
    · exact .ok _
    · exact due_anyOf h vs

theorem due_oneOf (h : ∀ v, Due P (test v)) : ∀ (found : Bool) (vs : List Value),
    Due P (oneOf test found vs)
  | found, [] => .ok found
  | found, v :: vs => by
    unfold oneOf
    split
    · rename_i hv
      exact (hv ▸ h v).again
    · split
      · exact .ok _
      · exact due_oneOf h true vs
    · exact due_oneOf h found vs

theorem due_selected (h : ∀ v, Due P (test v)) : ∀ vs : List Value, Due P (selected test vs)
  | [] => .ok _
  | v :: vs => by
    unfold selected
    split
    · rename_i hv
      exact (hv ▸ h v).again
    · exact (due_selected h vs).map
    · exact due_selected h vs

theorem due_mapped (h : ∀ v, Due P (test v)) : ∀ vs : List Value, Due P (mapped test vs)
  | [] => .ok _
  | v :: vs => by
    unfold mapped
    split
    · rename_i hv
      exact (hv ▸ h v).again
    · exact (due_mapped h vs).map

end Items

/-! ### Operands -/

variable {target : Option Value} {ops : List Operand}

/-- The operand that is the subject of a call without a target. -/
def subjects (target : Option Value) (ops : List Operand) : List Operand :=
  if target.isSome then [] else ops.take 1

/-- The operands behind the subject. -/
def behind (target : Option Value) (ops : List Operand) : List Operand :=
  if target.isSome then ops else ops.drop 1

theorem due_subject (h : ∀ o ∈ subjects target ops, Due P (o.value s)) :
    Due P (subject s target ops) := by
  unfold subject
  split
  · exact .ok _
  · exact .failed
  · rename_i o rest
    have ho : Due P (o.value s) := h o (by simp [subjects])
    split
    · exact .ok _
    · exact .failed
    · rename_i hv
      exact (hv ▸ ho).again

theorem behind_of_subject {v : Value} {rest : List Operand}
    (h : subject s target ops = .ok (v, rest)) :
    rest = behind target ops := by
  unfold subject at h
  split at h
  · cases h
    rfl
  · cases h
  · split at h
    · cases h
      rfl
    · cases h
    · cases h

theorem due_first (h : ∀ o ∈ ops, Due P (o.value s)) : Due P (first s ops) := by
  cases ops with
  | nil => exact .failed
  | cons o ops => exact h o List.mem_cons_self

theorem subjects_subset : subjects target ops ⊆ ops := by
  unfold subjects
  split
  · exact List.nil_subset _
  · exact List.take_subset 1 ops

theorem behind_subset : behind target ops ⊆ ops := by
  unfold behind
  split
  · exact List.Subset.refl ops
  · exact List.drop_subset 1 ops

theorem due_values : ∀ {ops : List Operand}, (∀ o ∈ ops, Due P (o.value s)) →
    Due P (ops.mapM fun o => o.value s)
  | [], _ => .ok _
  | o :: ops, h => by
    rw [List.mapM_cons]
    exact (h o List.mem_cons_self).bind fun v _ =>
      (due_values fun o ho => h o (List.mem_cons_of_mem _ ho)).bind fun _ _ => .ok _

theorem due_onTexts {test : String → String → Except Failure Bool} (ht : ∀ a b, Due P (test a b))
    (h : ∀ o ∈ ops, Due P (o.value s)) : Due P (onTexts test s target ops) := by
  refine (due_subject fun o ho => h o (subjects_subset ho)).bind fun r hr => ?_
  have hf : Due P (first s r.2) :=
    due_first fun o ho => h o (behind_subset (behind_of_subject hr ▸ ho))
  exact (due_asText _).bind fun a _ => hf.bind fun w _ => (due_asText w).bind fun b _ =>
    (ht a b).bind fun _ _ => .ok _

theorem due_onItems {items : Value → Except Failure (List Value)}
    {run : (Value → Except Failure Value) → List Value → Except Failure α}
    (hi : ∀ v, Due P (items v)) (hr : ∀ body vs, (∀ v, Due P (body v)) → Due P (run body vs))
    (h : ∀ o ∈ subjects target ops, Due P (o.value s))
    (hb : ∀ x y body rest, behind target ops = ⟨some x, y⟩ :: body :: rest →
      ∀ v, Due P (body.value ((x, v) :: s))) :
    Due P (onItems items run s target ops) := by
  refine (due_subject h).bind fun r hr' => ?_
  have hrest := behind_of_subject hr'
  refine Due.bind (f := fun body => items r.1 >>= run body) ?_ fun body hbody =>
    (hi r.1).bind fun vs _ => hr body vs ?_
  · unfold binding
    split
    · exact .ok _
    · exact .failed
  · unfold binding at hbody
    split at hbody
    · rename_i x y o rest he
      cases hbody
      exact hb x y o rest (hrest ▸ he)
    · cases hbody

/-- A call fails for want of a variable only where one of its operands does: one that is evaluated
in the scope of the call, or the body of a call that binds a variable. -/
theorem due_apply (f : Builtin)
    (h : ∀ o ∈ if f.binds then subjects target ops else ops, Due P (o.value s))
    (hb : f.binds = true → ∀ x y body rest, behind target ops = ⟨some x, y⟩ :: body :: rest →
      ∀ v, Due P (body.value ((x, v) :: s))) :
    Due P (f.apply s target ops) := by
  cases f with
  | has =>
    unfold Builtin.apply
    dsimp only
    split
    · exact .ok _
    · exact .ok _
    · rename_i hf
      exact (hf ▸ due_first h).again
  | contains =>
    refine (due_subject fun o ho => h o (subjects_subset ho)).bind fun r hr => ?_
    have hf : Due P (first s r.2) :=
      due_first fun o ho => h o (behind_subset (behind_of_subject hr ▸ ho))
    exact hf.bind fun w _ => (due_containing r.1 w).bind fun _ _ => .ok _
  | startsWith | endsWith => exact due_onTexts (fun _ _ => .ok _) h
  | matches_ => exact due_onTexts due_matching h
  | size => exact (due_first h).bind fun v _ => due_sizeOf v
  | max => exact (due_values h).bind fun vs _ => due_maxOf vs
  | string =>
    exact (due_subject fun o ho => h o (subjects_subset ho)).bind fun r _ => due_toText r.1
  | double =>
    exact (due_subject fun o ho => h o (subjects_subset ho)).bind fun r _ => due_toDouble r.1
  | int => exact (due_subject fun o ho => h o (subjects_subset ho)).bind fun r _ => due_toInt r.1
  | uint => exact (due_subject fun o ho => h o (subjects_subset ho)).bind fun r _ => due_toUint r.1
  | bytes => exact (due_first h).bind fun v _ => (due_asText v).bind fun _ _ => .ok _
  | duration => exact (due_first h).bind fun v _ => (due_asText v).bind fun a _ => due_toDuration a
  | timestamp =>
    exact (due_first h).bind fun v _ => (due_asText v).bind fun a _ => due_toTimestamp a
  | all =>
    exact (due_onItems due_itemsOf (fun _ vs ht => due_allOf ht vs) h (hb rfl)).bind fun _ _ =>
      .ok _
  | exists_ =>
    exact (due_onItems due_itemsOf (fun _ vs ht => due_anyOf ht vs) h (hb rfl)).bind fun _ _ =>
      .ok _
  | existsOne =>
    exact (due_onItems due_itemsOf (fun _ vs ht => due_oneOf ht false vs) h (hb rfl)).bind
      fun _ _ => .ok _
  | map =>
    exact (due_onItems due_listItems (fun _ vs ht => due_mapped ht vs) h (hb rfl)).bind fun _ _ =>
      .ok _
  | filter =>
    exact (due_onItems due_listItems (fun _ vs ht => due_selected ht vs) h (hb rfl)).bind fun _ _ =>
      .ok _

/-! ### Evaluation -/

theorem due_evalItems :
    ∀ {items : List Expr}, (∀ e ∈ items, Due P (eval e s)) → Due P (evalItems items s)
  | [], _ => .ok _
  | e :: items, h => by
    rw [evalItems]
    exact (h e List.mem_cons_self).bind fun v _ =>
      (due_evalItems fun e he => h e (List.mem_cons_of_mem _ he)).bind fun _ _ => .ok _

theorem due_evalEntries : ∀ {entries : List (Expr × Expr)} {done : List (Key × Value)},
    (∀ e ∈ entries.flatMap fun x => [x.1, x.2], Due P (eval e s)) →
      Due P (evalEntries entries s done)
  | [], _, _ => .ok _
  | (k, v) :: entries, done, h => by
    rw [evalEntries]
    refine (h k (by simp)).bind fun w _ => ?_
    split
    · exact .failed
    · exact (h v (by simp)).bind fun _ _ => due_evalEntries fun e he => h e (by simp_all)

/-- An operand of a call that is being evaluated. -/
def operandOf (e : Expr) : Operand := ⟨variableName? e, eval e⟩

theorem operands_eq_map : ∀ args : List Expr, ClusterArchive.Expr.operands args = args.map operandOf
  | [] => rfl
  | e :: args => by
    rw [ClusterArchive.Expr.operands, operands_eq_map args]
    rfl

theorem eq_variable_of_name {e : Expr} {x : String} (h : variableName? e = some x) :
    e = .variable x := by
  unfold variableName? at h
  split at h
  · cases h
    rfl
  · cases h

theorem due_applyNamed (target : Option Value) {f : String} {args : List Expr}
    (h : ∀ e ∈ if f ∈ bindingNames then (if target.isSome then [] else args.take 1) else args,
      Due P (eval e s))
    (hb : f ∈ bindingNames → ∀ x body rest,
      (if target.isSome then args else args.drop 1) = .variable x :: body :: rest →
        ∀ v, Due P (eval body ((x, v) :: s))) :
    Due P (applyNamed f s target (ClusterArchive.Expr.operands args)) := by
  unfold applyNamed
  rw [operands_eq_map]
  split
  · rename_i b hf
    have hbinds : f ∈ bindingNames ↔ b.binds = true := by
      simp [← bindsVariable_iff, bindsVariable, hf]
    refine due_apply b (fun o ho => ?_) fun hbb x y o rest ho v => ?_
    · obtain ⟨e, he, rfl⟩ :
          ∃ e,
            e ∈ (if f ∈ bindingNames then (if target.isSome then [] else args.take 1) else args) ∧
            operandOf e = o := by
        rw [← List.mem_map]
        by_cases hn : f ∈ bindingNames
        · rw [if_pos (hbinds.mp hn)] at ho
          rw [if_pos hn]
          cases target
          · exact List.map_take ▸ ho
          · exact ho
        · rw [if_neg (mt hbinds.mpr hn)] at ho
          rwa [if_neg hn]
      exact h e he
    · obtain ⟨a, body, rest, ha, hx, rfl⟩ : ∃ a body rest,
          (if target.isSome then args else args.drop 1) = a :: body :: rest ∧
          variableName? a = some x ∧
            operandOf body = o := by
        have hm : (if target.isSome then args else args.drop 1).map operandOf =
            ⟨some x, y⟩ :: o :: rest := by
          rw [← ho]
          cases target <;> simp [behind]
        obtain ⟨a, l, hl, ha, hr⟩ := List.map_eq_cons_iff.mp hm
        obtain ⟨body, rest, rfl, hbody, -⟩ := List.map_eq_cons_iff.mp hr
        exact ⟨a, body, rest, hl, congrArg Operand.name? ha, hbody⟩
      rw [eq_variable_of_name hx] at ha
      exact hb (hbinds.mpr hbb) x body rest ha v
  · exact .failed

/-- Evaluation fails for want of a variable only where it comes to one that is not in scope. -/
theorem due_eval_of {e : Expr} (hx : ∀ x, e = .variable x → x ∉ names s → P x)
    (h : ∀ a, Comes ⟨e, s⟩ a → Due P (eval a.expr a.scope)) : Due P (eval e s) := by
  have hp : ∀ t ∈ parts e, Due P (eval t s) := fun t ht => h ⟨t, s⟩ (.part ht)
  have hb : ∀ x t, body? e = some (x, t) → ∀ v, Due P (eval t ((x, v) :: s)) :=
    fun x t ht v => h ⟨t, (x, v) :: s⟩ (.body v ht)
  clear h
  cases e with
  | literal l => exact .ok _
  | «variable» x => exact due_get (hx x rfl)
  | list items => exact (due_evalItems hp).bind fun _ _ => .ok _
  | map entries => exact (due_evalEntries hp).bind fun _ _ => .ok _
  | «attribute» target name =>
    exact (hp target (by simp [parts])).bind fun v _ => due_fieldOf v name
  | index target position =>
    exact (hp target (by simp [parts])).bind fun v _ =>
        (hp position (by simp [parts])).bind fun w _ =>
      due_element v w
  | construct target fields => exact (hp target (by simp [parts])).bind fun _ _ => .failed
  | call f args =>
    refine due_applyNamed none (by simpa [parts] using hp) fun hf x body rest ha v => ?_
    cases args with
    | nil => simp at ha
    | cons a args =>
      simp only [Option.isSome_none, Bool.false_eq_true, if_false, List.drop_succ_cons,
        List.drop_zero] at ha
      subst ha
      exact hb x body (by simp [body?, hf]) v
  | method target f args =>
    rw [eval]
    split
    · exact .failed
    refine (hp target (by simp [parts])).bind fun w _ => ?_
    refine due_applyNamed (some w) (fun e he => hp e ?_) fun hf x body rest ha v => ?_
    · simp only [Option.isSome_some, if_true] at he
      exact List.mem_cons_of_mem _ he
    · simp only [Option.isSome_some, if_true] at ha
      subst ha
      exact hb x body (by simp [body?, hf]) v
  | signed sign e => exact (hp e (by simp [parts])).bind fun v _ => due_sign sign v
  | arithmetic op left right =>
    exact (hp left (by simp [parts])).bind fun v _ => (hp right (by simp [parts])).bind fun w _ =>
      due_arithmetic op v w
  | relation r left right =>
    exact (hp left (by simp [parts])).bind fun v _ => (hp right (by simp [parts])).bind fun w _ =>
      (due_relation r v w).bind fun _ _ => .ok _
  | both left right =>
    exact (hp left (by simp [parts])).bind fun v _ =>
      (hp right (by simp [parts])).bind fun w _ => .ok _
  | either left right =>
    rw [eval]
    refine (hp left (by simp [parts])).bind fun v _ => ?_
    split
    · exact .ok _
    · exact hp right (by simp [parts])
  | conditional condition yes no =>
    rw [eval]
    refine (hp condition (by simp [parts])).bind fun v _ => ?_
    split
    · exact hp yes (by simp [parts])
    · exact hp no (by simp [parts])

end Due

/-! ### What stands in an expression and what is evaluated -/

variable {bound : List String} {e t : Expr} {a b : Task}

theorem binding?_of_not_mem {f : String} (hf : f ∉ bindingNames) (args : List Expr) :
    binding? f args = none := by
  unfold binding?
  split
  · exact if_neg hf
  · rfl

theorem spot_of_operand (bound : List String) {f : String} {args : List Expr}
    (hb : binding? f args = none) (h : t ∈ args) :
    ∃ u ∈ Acceptance.operands bound f args, u.expr = t ∧ u.bound = bound := by
  rw [Acceptance.operands, hb]
  exact ⟨_, List.mem_map.mpr ⟨t, h, rfl⟩, rfl, rfl⟩

/-- What is evaluated in the scope of an expression stands in it under the same bound variables,
unless it is the subject of a call that takes it for the name of a variable. -/
theorem spot_of_part (bound : List String) (h : t ∈ parts e) :
    (∃ u ∈ below bound e, u.expr = t ∧ u.bound = bound) ∨
      ∃ f x body, f ∈ bindingNames ∧ e = .call f [.variable x, body] ∧ t = .variable x := by
  cases e with
  | literal l | «variable» x => cases h
  | list items => exact .inl ⟨_, List.mem_map.mpr ⟨t, h, rfl⟩, rfl, rfl⟩
  | map entries =>
    obtain ⟨x, hx, ht⟩ := List.mem_flatMap.mp h
    refine .inl ⟨⟨bound, t, false⟩, List.mem_flatMap.mpr ⟨x, hx, ?_⟩, rfl, rfl⟩
    simpa using ht
  | call f args =>
    by_cases hf : f ∈ bindingNames
    · rw [parts, if_pos hf] at h
      cases hb : binding? f args with
      | none => exact .inl (spot_of_operand bound hb (List.mem_of_mem_take h))
      | some p =>
        unfold binding? at hb
        split at hb
        · rename_i x body
          exact .inr ⟨f, x, body, hf, rfl, by simpa using h⟩
        · cases hb
    · rw [parts, if_neg hf] at h
      exact .inl (spot_of_operand bound (binding?_of_not_mem hf args) h)
  | method target f args =>
    rcases List.mem_cons.mp h with rfl | h
    · exact .inl ⟨_, List.mem_cons_self, rfl, rfl⟩
    by_cases hf : f ∈ bindingNames
    · simp [hf] at h
    · rw [if_neg hf] at h
      obtain ⟨u, hu, he⟩ := spot_of_operand bound (binding?_of_not_mem hf args) h
      exact .inl ⟨u, List.mem_cons_of_mem _ hu, he⟩
  | signed sign e =>
    cases sign <;> cases List.mem_singleton.mp h <;>
      exact .inl ⟨_, List.mem_singleton_self _, rfl, rfl⟩
  | _ => simp_all [parts, below, eq_comm]

/-- The body of a call that is evaluated stands in it, the bound variable being the only new one. -/
theorem spot_of_body (bound : List String) {x : String} (h : body? e = some (x, t)) :
    ∃ u ∈ below bound e, u.expr = t ∧ u.bound ⊆ x :: bound := by
  unfold body? at h
  split at h
  · rename_i f a y body rest
    split at h
    · cases h
      have hb : binding? f (a :: .variable x :: t :: rest) = none := by
        unfold binding?
        split
        · simp_all
        · rfl
      obtain ⟨u, hu, he, hs⟩ := spot_of_operand bound hb (t := t) (by simp)
      exact ⟨u, hu, he, hs ▸ List.subset_cons_self x bound⟩
    · cases h
  · rename_i target f y body rest
    split at h
    · rename_i hf
      cases h
      cases rest with
      | nil =>
        refine ⟨⟨x :: bound, t, f ≠ "map"⟩, List.mem_cons_of_mem _ ?_, rfl, List.Subset.refl _⟩
        simp [Acceptance.operands, binding?, hf]
      | cons a rest =>
        have hb : binding? f (.variable x :: t :: a :: rest) = none := rfl
        obtain ⟨u, hu, he, hs⟩ :=
          spot_of_operand bound hb (List.mem_cons_of_mem _ List.mem_cons_self)
        exact ⟨u, List.mem_cons_of_mem _ hu, he, hs ▸ List.subset_cons_self x bound⟩
    · cases h
  · cases h

theorem sizeOf_lt_of_comes (h : Comes a b) : sizeOf b.expr < sizeOf a.expr := by
  cases h with
  | @part e t s h =>
    rcases spot_of_part [] h with ⟨u, hu, rfl, -⟩ | ⟨f, x, body, -, rfl, rfl⟩
    · exact sizeOf_lt_of_mem_below hu
    · have hm := List.sizeOf_lt_of_mem (List.mem_cons_self (a := Expr.variable x) (l := [body]))
      simp only [call.sizeOf_spec]
      omega
  | @body e t s x v h =>
    obtain ⟨u, hu, rfl, -⟩ := spot_of_body [] h
    exact sizeOf_lt_of_mem_below hu

/-- An evaluation that fails for want of a variable has come to that variable in a scope without
it. -/
theorem lost_of_eval (a : Task) : Due (Lost a) (eval a.expr a.scope) :=
  due_eval_of (fun x hx hn => ⟨a.scope, by rw [← hx]; exact .refl, hn⟩) fun b hb x hx =>
    (lost_of_eval b x hx).of_comes hb
termination_by sizeOf a.expr
decreasing_by exact sizeOf_lt_of_comes hb

/-! ### Scopes of an accepted expression -/

/-- Whether an expression passes the check under variables that are all in scope. -/
def Covered (a : Task) : Prop :=
  ∃ bound, Succeeds (kind bound a.expr) ∧ ∀ x, x ∈ sectionNames ∨ x ∈ bound → x ∈ names a.scope

theorem succeeds_of_below {u : Spot} (h : Succeeds (kind bound e)) (hu : u ∈ below bound e) :
    Succeeds (kind u.bound u.expr) := by
  obtain ⟨k, hk, -⟩ := (succeeds_kind_iff.mp h).2 u hu
  exact ⟨k, hk⟩

theorem Covered.mem {x : String} {s : Scope} (h : Covered ⟨.variable x, s⟩) : x ∈ names s := by
  obtain ⟨bound, hk, hs⟩ := h
  exact hs x (succeeds_kindOfVariable.mp (by simpa only [kind] using hk))

/-- One step of evaluation leads to what passes the check as well, or to the subject of a call that
takes it for the name of a variable. -/
theorem covered_of_comes (h : Covered a) (hc : Comes a b) :
    Covered b ∨ ∃ f x body, f ∈ bindingNames ∧ a.expr = .call f [.variable x, body] ∧
      b = ⟨.variable x, a.scope⟩ := by
  obtain ⟨bound, hk, hs⟩ := h
  cases hc with
  | part ht =>
    rcases spot_of_part bound ht with ⟨u, hu, rfl, hb⟩ | ⟨f, x, body, hf, he, rfl⟩
    · exact .inl ⟨u.bound, succeeds_of_below hk hu, by rwa [hb]⟩
    · exact .inr ⟨f, x, body, hf, he, rfl⟩
  | @body _ _ s x v ht =>
    obtain ⟨u, hu, rfl, hb⟩ := spot_of_body bound ht
    refine .inl ⟨u.bound, succeeds_of_below hk hu, fun y hy => ?_⟩
    rcases hy with hy | hy
    · exact List.mem_cons_of_mem x (hs y (.inl hy))
    · rcases List.mem_cons.mp (hb hy) with rfl | hy
      · exact List.mem_cons_self
      · exact List.mem_cons_of_mem x (hs y (.inr hy))

/-- Whether evaluation may get to a call without a target that takes its subject for the name of a
variable. -/
def IsSubject (a : Task) (x : String) (s : Scope) : Prop :=
  ∃ f body, f ∈ bindingNames ∧ Reaches a ⟨.call f [.variable x, body], s⟩

theorem covered_of_reaches (h : Covered a) (hr : Reaches a b) :
    Covered b ∨ ∃ x, b.expr = .variable x ∧ IsSubject a x b.scope := by
  induction hr with
  | refl => exact .inl h
  | @tail b c hb hc ih =>
    rcases ih with hv | ⟨x, hx, -⟩
    · rcases covered_of_comes hv hc with hv | ⟨f, x, body, hf, he, rfl⟩
      · exact .inl hv
      · exact .inr ⟨x, rfl, f, body, hf, he ▸ hb⟩
    · -- nothing is evaluated within a variable
      obtain ⟨e, s⟩ := b
      cases hx
      cases hc with
      | part ht => cases ht
      | body v ht => cases ht

/-- A predicate about a resource, about to be evaluated. -/
def taskOf (p : Predicate) (r : Resource) : Task := ⟨p.body, Predicate.scope r⟩

theorem names_scope (r : Resource) : names (Predicate.scope r) = sectionNames := rfl

theorem covered_taskOf {source : String} {p : Predicate}
    (h : Predicate.compile source = .ok (.ok p)) (r : Resource) : Covered (taskOf p r) := by
  obtain ⟨k, hk, -⟩ := check_iff.mp (read_and_check_of_compile h).2
  refine ⟨[], ⟨k, hk⟩, fun x hx => ?_⟩
  rw [taskOf, names_scope]
  simpa using hx

/-- **What is looked up is in scope but for subjects**: every variable that the evaluation of an
accepted expression may come to is in scope there, or it is the subject of a call without a target
that takes it for the name of a variable; and only such a subject can make evaluation fail for want
of a variable. -/
theorem in_scope_but_for_subjects {source : String} {p : Predicate}
    (h : Predicate.compile source = .ok (.ok p)) (r : Resource) :
    (∀ x s, Reaches (taskOf p r) ⟨.variable x, s⟩ → x ∈ names s ∨ IsSubject (taskOf p r) x s) ∧
      ∀ x, p.body.eval (Predicate.scope r) = .error (.unbound x) →
        ∃ s, x ∉ names s ∧ IsSubject (taskOf p r) x s := by
  have hs : ∀ x s, Reaches (taskOf p r) ⟨.variable x, s⟩ →
      x ∈ names s ∨ IsSubject (taskOf p r) x s := by
    intro x s hr
    rcases covered_of_reaches (covered_taskOf h r) hr with hv | ⟨y, hy, hi⟩
    · exact .inl hv.mem
    · cases hy
      exact .inr hi
  refine ⟨hs, fun x hx => ?_⟩
  obtain ⟨s, hr, hn⟩ := lost_of_eval (taskOf p r) x hx
  exact ⟨s, hn, (hs x s hr).resolve_left hn⟩

/-- A variable bound twice, the inner one over the items that the outer one names. -/
def shadowed : Predicate :=
  ⟨"spec.groups.all(x, x.items.exists(x, x.ready))",
    .method (.attribute (.variable "spec") "groups") "all"
      [.variable "x", .method (.attribute (.variable "x") "items") "exists"
        [.variable "x", .attribute (.variable "x") "ready"]]⟩

/-- An object with one group of one item. -/
def oneGroup : Resource :=
  ⟨.object [("spec",
    .object [("groups", .array [.object [("items", .array [.object [("ready", .bool true)]])]])])],
    ⟨"", "", "", ⟨"", "", ""⟩, ""⟩⟩

theorem inScope_shadowed : Predicate.compile shadowed.source = .ok (.ok shadowed) ∧
    (∀ x s, Reaches (taskOf shadowed oneGroup) ⟨.variable x, s⟩ →
      x ∈ names s ∨ IsSubject (taskOf shadowed oneGroup) x s) ∧
    ∀ x, shadowed.body.eval (Predicate.scope oneGroup) = .error (.unbound x) →
      ∃ s, x ∉ names s ∧ IsSubject (taskOf shadowed oneGroup) x s := by
  have hr : Expr.read shadowed.source.toList = .ok shadowed.body := rfl
  have h : Predicate.compile shadowed.source = .ok (.ok shadowed) := compile_eq hr
  exact ⟨h, in_scope_but_for_subjects h oneGroup⟩

/-- The check takes the first operand of a call without a target for the name of a variable;
evaluation looks it up, and it is not in scope. -/
theorem unbound_subject : ∃ p, Predicate.compile "exists(x, x)" = .ok (.ok p) ∧
    ∀ r, p.body.eval (Predicate.scope r) = .error (.unbound "x") := by
  have hr : Expr.read "exists(x, x)".toList = .ok (.call "exists" [.variable "x", .variable "x"]) :=
    rfl
  exact ⟨_, compile_eq hr, fun _ => rfl⟩

end ClusterArchive.Proofs.Expr.Lookups
