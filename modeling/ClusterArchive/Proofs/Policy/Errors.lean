import ClusterArchive.Proofs.Expr.Halting
import ClusterArchive.Proofs.Policy.Directory

/-! # The errors of a directory

What is wrong in a directory is reported file by file and definition by definition, and nothing is
left out (`errors_of_load`). All this holds when the loading comes to an end. It does so unless a
condition halts, and a condition halts only at a literal without a value; but then neither the rest
of the rules nor any error is left (`load_complete_or_halted`, `lost_hexNumber`). -/

namespace ClusterArchive.Proofs.Policy.Errors

open ClusterArchive.Policy ClusterArchive.Proofs.Policy.LastDefinition
open ClusterArchive.Proofs.Policy.Directory

/-! ### What is wrong -/

/-- The error in a condition, if it is not blank and does not compile. -/
def refusal? (condition : String) : Option CompileError :=
  if Text.allBlank condition.toList then none
  else
    match Predicate.compile condition with
    | .ok (.error e) => some e
    | _ => none

/-- The error in the condition of an action. -/
def refused (k : Key) (a : Action) (condition : String) : List LoadError :=
  ((refusal? condition).map (.invalidCondition k a)).toList

/-- The errors in a definition. -/
def errorsOf (x : Scoped) : List LoadError :=
  refused (keyOf x) .archive x.2.archiveWhen ++ refused (keyOf x) .delete x.2.deleteWhen

/-- The errors in a file. -/
def errorsIn (directory : String) (file : Files.Entry) : List LoadError :=
  match file.read with
  | .error _ => [.unreadableFile (Files.pathIn directory file.name)]
  | .ok contents =>
    if contents.all Text.isBlankByte then []
    else
      match Definition.ofBytes? contents with
      | none => [.malformedFile (Files.pathIn directory file.name)]
      | some definitions => definitions.flatMap fun d => errorsOf (scopeOf file, d)

/-- The conditions of definitions. -/
def conditionsOf (xs : List Scoped) : List String :=
  xs.flatMap fun x => [x.2.archiveWhen, x.2.deleteWhen]

theorem conditionsOf_append (xs ys : List Scoped) :
    conditionsOf (xs ++ ys) = conditionsOf xs ++ conditionsOf ys := List.flatMap_append

/-- Whether a result came about by reading the given conditions to their ends and reporting the
given errors. -/
def Reports (l : Loaded) (conditions : List String) (errors : List LoadError)
    (result : Except Halt Loaded) : Prop :=
  ∀ l', result = .ok l' → (∀ c ∈ conditions, ¬ Halts c) ∧ l'.errors = l.errors ++ errors

theorem Reports.rfl (l : Loaded) : Reports l [] [] (.ok l) := fun l' h => by
  cases h
  exact ⟨by simp, (List.append_nil _).symm⟩

theorem Reports.report (l : Loaded) (e : LoadError) :
    Reports l [] [e] (.ok (l.report e)) := fun l' h => by
  cases h
  exact ⟨by simp, Eq.refl _⟩

theorem Reports.bind {l : Loaded} {cs cs' : List String} {errors errors' : List LoadError}
    {result : Except Halt Loaded} {next : Loaded → Except Halt Loaded}
    (h : Reports l cs errors result) (h' : ∀ l', Reports l' cs' errors' (next l')) :
    Reports l (cs ++ cs') (errors ++ errors') (result >>= next) := by
  intro l₂ h₂
  cases result with
  | error halt => cases h₂
  | ok l₁ =>
    obtain ⟨hc, he⟩ := h l₁ (Eq.refl _)
    obtain ⟨hc', he'⟩ := h' l₁ l₂ h₂
    exact ⟨List.forall_mem_append.mpr ⟨hc, hc'⟩, by rw [he', he, List.append_assoc]⟩

/-! ### Loading -/

theorem reports_addCondition (l : Loaded) (k : Key) (a : Action) (c : String) :
    Reports l [c] (refused k a c) (l.addCondition k a c) := by
  intro l' h
  unfold Loaded.addCondition at h
  unfold refused refusal? Halts
  cases hb : Text.allBlank c.toList with
  | true =>
    rw [hb] at h
    cases h
    simp [hb]
  | false =>
    cases hp : Predicate.compile c with
    | error halt =>
      rw [hb, hp] at h
      cases h
    | ok result =>
      rw [hb, hp] at h
      cases result <;> cases h <;> simp [hp, Loaded.report]

theorem reports_addDefinition (l : Loaded) (scope : Scope) (d : Definition) :
    Reports l (conditionsOf [(scope, d)]) (errorsOf (scope, d)) (l.addDefinition scope d) :=
  (reports_addCondition l (keyOf (scope, d)) .archive d.archiveWhen).bind fun l' =>
    reports_addCondition l' (keyOf (scope, d)) .delete d.deleteWhen

theorem reports_add (scope : Scope) : ∀ (l : Loaded) (ds : List Definition),
    Reports l (conditionsOf (ds.map (scope, ·))) (ds.flatMap fun d => errorsOf (scope, d))
      (l.add scope ds)
  | l, [] => .rfl l
  | l, d :: ds => by
    rw [List.map_cons, ← List.singleton_append, conditionsOf_append, List.flatMap_cons]
    exact (reports_addDefinition l scope d).bind fun l' => reports_add scope l' ds

theorem reports_addAll : ∀ (l : Loaded) (calls : List (Scope × List Definition)),
    Reports l (conditionsOf (flatten calls)) ((flatten calls).flatMap errorsOf) (l.addAll calls)
  | l, [] => .rfl l
  | l, (scope, ds) :: calls => by
    rw [flatten, List.flatMap_cons, conditionsOf_append, List.flatMap_append, List.flatMap_map]
    exact (reports_add scope l ds).bind fun l' => reports_addAll l' calls

theorem reports_addFile (directory : String) (l : Loaded) (file : Files.Entry) :
    Reports l (conditionsOf (scopedIn file)) (errorsIn directory file)
      (l.addFile directory file) := by
  unfold Loaded.addFile scopedIn definitionsIn errorsIn
  cases file.read with
  | error e => exact .report l _
  | ok contents =>
    dsimp only
    cases contents.all Text.isBlankByte with
    | true => exact .rfl l
    | false =>
      cases Definition.ofBytes? contents with
      | none => exact .report l _
      | some ds => exact reports_add (scopeOf file) l ds

theorem reports_addFiles (directory : String) : ∀ (l : Loaded) (files : List Files.Entry),
    Reports l (conditionsOf (files.flatMap scopedIn)) (files.flatMap (errorsIn directory))
      (l.addFiles directory files)
  | l, [] => .rfl l
  | l, file :: files => by
    rw [List.flatMap_cons, List.flatMap_cons, conditionsOf_append]
    exact (reports_addFile directory l file).bind fun l' => reports_addFiles directory l' files

/-- A directory that is loaded has been read to its end, and its errors are those in its policy
files, one after another, with one more if there are no rules. -/
theorem errors_of_load {path : String} (hp : path ≠ "") {entries : List Files.Entry} {l : Loaded}
    (h : load path (.ok entries) = .ok l) :
    (∀ c ∈ conditionsOf ((policyFiles entries).flatMap scopedIn), ¬ Halts c) ∧
      l.errors = (policyFiles entries).flatMap (errorsIn path) ++
        if l.rules.isEmpty then [.noDefinitions path] else [] := by
  unfold load at h
  rw [if_neg (by rwa [String.isEmpty_iff])] at h
  dsimp only at h
  cases hf : Loaded.empty.addFiles path (policyFiles entries) with
  | error halt =>
    rw [hf] at h
    cases h
  | ok l₀ =>
    obtain ⟨hc, he⟩ := reports_addFiles path .empty (policyFiles entries) l₀ hf
    rw [hf] at h
    cases h
    refine ⟨hc, ?_⟩
    cases hr : l₀.rules.isEmpty <;> simp [he, hr, Loaded.report, Loaded.empty]

/-! ### Nothing is left out -/

/-- The definitions that are read when a directory is loaded. -/
def definitionsAt (path : String) : Files.Listing → List Scoped
  | .error _ => []
  | .ok entries => if path = "" then [] else (policyFiles entries).flatMap scopedIn

/-- Nothing is left out of definitions that are loaded: the rules hold what the last definition with
a usable condition gives, and there is an error for every condition that does not compile. -/
structure Complete (xs : List Scoped) (l : Loaded) : Prop where
  reads : ∀ x ∈ xs, ∀ a, ¬ Halts (condition x.2 a)
  holds : ∀ a k p, (rulesFor l.rules a).get? k = some p ↔ LastGives a k xs p
  reports : ∀ x ∈ xs, ∀ a e, refusal? (condition x.2 a) = some e →
    .invalidCondition (keyOf x) a e ∈ l.errors

theorem complete_nil {l : Loaded} (h : l.rules = .empty) : Complete [] l where
  reads := by simp
  holds a k p := by
    rw [h]
    cases a <;> simp [rulesFor, RuleSet.empty, Rules.get?, LastGives]
  reports := by simp

theorem mem_conditionsOf {xs : List Scoped} {x : Scoped} (h : x ∈ xs) (a : Action) :
    condition x.2 a ∈ conditionsOf xs :=
  List.mem_flatMap.mpr ⟨x, h, by cases a <;> simp [condition]⟩

theorem mem_errorsOf {x : Scoped} {a : Action} {e : CompileError}
    (h : refusal? (condition x.2 a) = some e) :
    .invalidCondition (keyOf x) a e ∈ errorsOf x := by
  cases a <;> simp_all [errorsOf, refused, condition]

theorem errorsOf_subset {directory : String} {file : Files.Entry} {x : Scoped}
    (h : x ∈ scopedIn file) :
    errorsOf x ⊆ errorsIn directory file := by
  obtain ⟨d, hd, rfl⟩ := List.mem_map.mp h
  unfold definitionsIn at hd
  unfold errorsIn
  cases hr : file.read with
  | error e => simp [hr] at hd
  | ok contents =>
    simp only [hr] at hd ⊢
    cases hb : contents.all Text.isBlankByte with
    | true => simp [hb] at hd
    | false =>
      cases hs : Definition.ofBytes? contents with
      | none => simp [hb, hs] at hd
      | some ds =>
        simp only [hb, hs, Option.getD_some, Bool.false_eq_true, if_false] at hd ⊢
        exact fun e he => List.mem_flatMap.mpr ⟨d, hd, he⟩

theorem complete_of_load {path : String} (hp : path ≠ "") {entries : List Files.Entry} {l : Loaded}
    (hr : ∀ a, rulesFor l.rules a = table a [] ((policyFiles entries).flatMap scopedIn))
    (h : load path (.ok entries) = .ok l) :
    Complete ((policyFiles entries).flatMap scopedIn) l where
  reads x hx a := (errors_of_load hp h).1 _ (mem_conditionsOf hx a)
  holds a k p := by
    rw [hr, get?_table]
    simp [Rules.get?]
  reports x hx a e he := by
    obtain ⟨file, hf, hx⟩ := List.mem_flatMap.mp hx
    rw [(errors_of_load hp h).2]
    exact List.mem_append_left _
      (List.mem_flatMap.mpr ⟨file, hf, errorsOf_subset hx (mem_errorsOf he)⟩)

/-- A directory is loaded or one of its conditions halts. -/
theorem load_halts {path : String} (hp : path ≠ "") {entries : List Files.Entry}
    (h : ¬ ∀ file ∈ policyFiles entries, Reads file) :
    load path (.ok entries) = .error .badLiteral ∧
      ∃ x ∈ (policyFiles entries).flatMap scopedIn, ∃ a, Halts (condition x.2 a) := by
  simp only [Reads, not_forall, not_not] at h
  obtain ⟨file, hf, d, hd, a, ha⟩ := h
  have hx : (scopeOf file, d) ∈ (policyFiles entries).flatMap scopedIn :=
    List.mem_flatMap.mpr ⟨file, hf, List.mem_map.mpr ⟨d, hd, rfl⟩⟩
  refine ⟨?_, _, hx, a, ha⟩
  cases hl : load path (.ok entries) with
  | error halt => rfl
  | ok l => exact absurd ha ((errors_of_load hp hl).1 _ (mem_conditionsOf hx a))

/-- **Nothing is left out unless a condition halts**: a directory is loaded with all its predicates
and all its errors, or there is a condition with a literal without a value, and then there is
neither. -/
theorem load_complete_or_halted (path : String) (listing : Files.Listing) :
    (∃ l, load path listing = .ok l ∧ Complete (definitionsAt path listing) l) ∨
      (load path listing = .error .badLiteral ∧
        ∃ x ∈ definitionsAt path listing, ∃ a, Halts (condition x.2 a) ∧
          .literal none ∈ Expr.Lexeme.all (condition x.2 a).toList) := by
  by_cases hp : path = ""
  · subst hp
    have hd : definitionsAt "" listing = [] := by cases listing <;> rfl
    rw [hd]
    exact .inl ⟨_, rfl, complete_nil rfl⟩
  have he : ¬ path.isEmpty = true := by rwa [String.isEmpty_iff]
  cases listing with
  | error failure =>
    refine .inl ?_
    unfold load
    rw [if_neg he]
    cases failure <;> exact ⟨_, rfl, complete_nil rfl⟩
  | ok entries =>
    rw [definitionsAt, if_neg hp]
    by_cases hr : ∀ file ∈ policyFiles entries, Reads file
    · obtain ⟨l, hl, ht⟩ := exists_load hp hr
      exact .inl ⟨l, hl, complete_of_load hp ht hl⟩
    · obtain ⟨hl, x, hx, a, ha⟩ := load_halts hp hr
      obtain ⟨halt, hc⟩ := ha.2
      exact .inr ⟨hl, x, hx, a, ha, Expr.Halting.mem_of_compile_halts hc⟩

/-- A directory with two definitions, the second with a hexadecimal number. -/
def hexNumber : List Files.Entry :=
  [⟨"_global", some (.file (.ok (utf8Bytes
    ("- selector:\n    apiVersion: v1\n    kind: Pod\n  archiveWhen: 'true'\n" ++
      "- selector:\n    apiVersion: v1\n    kind: Node\n  archiveWhen: status.n == 0x1F\n"))) 0)⟩]

/-- One bad number costs the other definition its predicate. -/
theorem lost_hexNumber :
    (∃ x ∈ definitionsAt "/policies" (.ok hexNumber), (usable? x.2.archiveWhen).isSome) ∧
      ¬ ∃ l, load "/policies" (.ok hexNumber) = .ok l := by
  have hl : (load "/policies" (.ok hexNumber)).isOk = false := by decide +kernel
  refine ⟨?_, fun ⟨l, h⟩ => by rw [h] at hl; cases hl⟩
  have hd : (definitionsAt "/policies" (.ok hexNumber)).any
      (fun x => (usable? x.2.archiveWhen).isSome) = true := by
    decide +kernel
  exact List.any_eq_true.mp hd

end ClusterArchive.Proofs.Policy.Errors
