import ClusterArchive.Proofs.Expr.Acceptance
import ClusterArchive.Proofs.Expr.Composition
import ClusterArchive.Proofs.Policy.RuleTable

/-! # Conjunction

Operands of a conjunction are only certain to be no other than truth values as far as the check can
tell; a field may be anything. Evaluation asks of both whether they count as true, as numbers, texts
and lists may, and the answer is a Boolean. So a conjunction holds if and only if both operands
count as true (`conjunction_holds_iff_both_count`). That is less than that both hold
(`holds_textAndTrue`), and the same where the operands have no other values that count as true than
the Boolean one. -/

namespace ClusterArchive.Proofs.Expr.Conjunction

open ClusterArchive.Expr ClusterArchive.Proofs.Expr.Acceptance
  ClusterArchive.Proofs.Expr.Composition
open ClusterArchive.Proofs.Policy.RuleTable

/-- Whether an expression has a value for a resource that counts as true. -/
def CountsTrue (e : Expr) (r : Resource) : Prop :=
  ∃ v, e.eval (Predicate.scope r) = .ok v ∧ v.isTrue = true

/-- Whether no value of an expression for a resource counts as true but the Boolean one. -/
def TrueAsBoolean (e : Expr) (r : Resource) : Prop :=
  ∀ v, e.eval (Predicate.scope r) = .ok v → v.isTrue = true → v = .bool true

variable {a b : Expr} {p q c : Predicate} {r : Resource}

theorem countsTrue_of_holds (h : p.holds r = true) : CountsTrue p.body r :=
  ⟨.bool true, holds_iff.mp h, rfl⟩

theorem holds_of_countsTrue (ht : TrueAsBoolean p.body r) (h : CountsTrue p.body r) :
    p.holds r = true := by
  obtain ⟨v, hv, hc⟩ := h
  rw [holds_iff, hv, ht v hv hc]

theorem holds_both_iff (hc : c.body = .both a b) :
    c.holds r = true ↔ CountsTrue a r ∧ CountsTrue b r := by
  rw [holds_iff, hc, eval]
  constructor
  · intro h
    cases hv : a.eval (Predicate.scope r) with
    | error e =>
      rw [hv] at h
      cases h
    | ok v =>
      cases hw : b.eval (Predicate.scope r) with
      | error e =>
        rw [hv, hw] at h
        cases h
      | ok w =>
        rw [hv, hw] at h
        obtain ⟨ht, ht'⟩ := Bool.and_eq_true_iff.mp (Value.bool.inj (Except.ok.inj h))
        exact ⟨⟨v, hv, ht⟩, ⟨w, hw, ht'⟩⟩
  · rintro ⟨⟨v, hv, ht⟩, ⟨w, hw, ht'⟩⟩
    rw [hv, hw]
    change Except.ok (Value.bool (v.isTrue && w.isTrue)) = _
    rw [ht, ht']
    rfl

/-- A conjunction passes the check if its operands do. -/
theorem check_both (ha : check a = .ok ()) (hb : check b = .ok ()) :
    check (.both a b) = .ok () := by
  rw [check_iff, suits_iff_sound]
  refine ⟨⟨trivial, fun _ h => by cases h⟩, fun t ht => ?_⟩
  simp only [Directly, below, List.mem_cons, List.not_mem_nil, or_false] at ht
  rcases ht with rfl | rfl
  · exact check_iff.mp ha
  · exact check_iff.mp hb

/-- Whether a predicate says of every resource that both others have values that count as true. -/
structure SaysBoth (p q c : Predicate) : Prop where
  counts : ∀ r, c.holds r = true ↔ CountsTrue p.body r ∧ CountsTrue q.body r
  holds_of_both : ∀ r, p.holds r = true → q.holds r = true → c.holds r = true
  holds_iff : ∀ r, TrueAsBoolean p.body r → TrueAsBoolean q.body r →
    (c.holds r = true ↔ p.holds r = true ∧ q.holds r = true)

theorem saysBoth_of_body (hc : c.body = .both p.body q.body) : SaysBoth p q c where
  counts _ := holds_both_iff hc
  holds_of_both _ hp hq := (holds_both_iff hc).mpr ⟨countsTrue_of_holds hp, countsTrue_of_holds hq⟩
  holds_iff _ htp htq := (holds_both_iff hc).trans
    ⟨fun h => ⟨holds_of_countsTrue htp h.1, holds_of_countsTrue htq h.2⟩,
      fun h => ⟨countsTrue_of_holds h.1, countsTrue_of_holds h.2⟩⟩

/-- **A conjunction holds if and only if both operands count as true.** Any two texts that are
accepted have a conjunction, and every text that reads as one is accepted and says both. -/
theorem conjunction_holds_iff_both_count {source source' : String}
    (hp : Predicate.compile source = .ok (.ok p)) (hq : Predicate.compile source' = .ok (.ok q)) :
    Expr.read (conjunction source source').toList = .ok (.both p.body q.body) ∧
      ∀ text : String, Expr.read text.toList = .ok (.both p.body q.body) →
        ∃ c, Predicate.compile text = .ok (.ok c) ∧ SaysBoth p q c := by
  obtain ⟨hrp, hcp⟩ := read_and_check_of_compile hp
  obtain ⟨hrq, hcq⟩ := read_and_check_of_compile hq
  refine ⟨read_conjunction hrp hrq,
    fun text ht => ⟨⟨text, .both p.body q.body⟩, ?_, saysBoth_of_body rfl⟩⟩
  rw [compile_eq ht, check_both hcp hcq]

/-- A field, which may be anything. -/
def phase : Predicate := ⟨"status.phase", .attribute (.variable "status") "phase"⟩

/-- A test that ends in a comment. -/
def anyName : Predicate :=
  ⟨"metadata.name != '' // any",
    .relation .notEqual (.attribute (.variable "metadata") "name") (.literal (.string ""))⟩

theorem saysBoth_phaseAnyName : Predicate.compile phase.source = .ok (.ok phase) ∧
    Predicate.compile anyName.source = .ok (.ok anyName) ∧
      Expr.read (conjunction phase.source anyName.source).toList =
        .ok (.both phase.body anyName.body) ∧
        ∀ text : String, Expr.read text.toList = .ok (.both phase.body anyName.body) →
          ∃ c, Predicate.compile text = .ok (.ok c) ∧ SaysBoth phase anyName c := by
  have hrp : Expr.read phase.source.toList = .ok phase.body := rfl
  have hrn : Expr.read anyName.source.toList = .ok anyName.body := rfl
  have hp : Predicate.compile phase.source = .ok (.ok phase) := compile_eq hrp
  have hn : Predicate.compile anyName.source = .ok (.ok anyName) := compile_eq hrn
  exact ⟨hp, hn, conjunction_holds_iff_both_count hp hn⟩

/-- A pod that has succeeded. -/
def succeededPod : Resource :=
  ⟨.object [("apiVersion", .string "v1"), ("kind", .string "Pod"),
    ("metadata", .object [("name", .string "p")]),
    ("status", .object [("phase", .string "Succeeded")])],
    ⟨"", "p", "", ⟨"", "v1", "Pod"⟩, ""⟩⟩

/-- A text counts as true for a conjunction but is not true itself. -/
theorem holds_textAndTrue : ∃ p q c, Predicate.compile "status.phase" = .ok (.ok p) ∧
    Predicate.compile "true" = .ok (.ok q) ∧
      Predicate.compile "status.phase && true" = .ok (.ok c) ∧
      c.body = .both p.body q.body ∧
        c.holds succeededPod = true ∧
          ¬ (p.holds succeededPod = true ∧ q.holds succeededPod = true) := by
  have hp : Expr.read "status.phase".toList = .ok (.attribute (.variable "status") "phase") := rfl
  have hq : Expr.read "true".toList = .ok (.literal (.bool true)) := rfl
  have hc : Expr.read "status.phase && true".toList =
    .ok (.both (.attribute (.variable "status") "phase") (.literal (.bool true))) := rfl
  exact ⟨_, _, _, compile_eq hp, compile_eq hq, compile_eq hc, rfl, rfl,
    fun h => Bool.noConfusion h.1⟩

end ClusterArchive.Proofs.Expr.Conjunction
