import ClusterArchive.Expr.Eval
import ClusterArchive.Expr.Reader
import ClusterArchive.Expr.Typing
import ClusterArchive.Resource.View
import ClusterArchive.Text.Withheld

/-!
# Predicates

A predicate is an expression about a resource that has passed the type check. It holds if it
evaluates to the Boolean `true`; a failure counts as not holding.
-/

namespace ClusterArchive

/-- Why an expression is no predicate. -/
inductive CompileError
  | malformed (source : String)
  | illTyped (source : String) (reason : Expr.TypeError)
deriving DecidableEq, Repr

/-- The message of the error. -/
def CompileError.message : CompileError → String
  | malformed source => "syntax error in \x60" ++ source ++ "\x60: " ++ Text.withheld
  | illTyped source reason => "type error in \x60" ++ source ++ "\x60: " ++ reason.message

/-- A literal without a value, which ends all reading of policies at once. -/
inductive Halt
  | badLiteral
deriving DecidableEq, Repr

/-- An expression with its text. -/
structure Predicate where
  source : String
  body : Expr

namespace Predicate

/-- The predicate that a text stands for, or the error in it. -/
def compile (source : String) : Except Halt (Except CompileError Predicate) :=
  match Expr.read source.toList with
  | .error .badLiteral => .error .badLiteral
  | .error .malformed => .ok (.error (.malformed source))
  | .ok e =>
    match Expr.check e with
    | .error reason => .ok (.error (.illTyped source reason))
    | .ok _ => .ok (.ok ⟨source, e⟩)

/-- The sections of a resource as variables; a missing one has no members. -/
def scope (r : Resource) : Expr.Scope :=
  Expr.sectionNames.map fun name => (name, .ofJson ((r.section? name).getD (.object [])))

/-- Whether the predicate holds of a resource. -/
def holds (p : Predicate) (r : Resource) : Bool :=
  match p.body.eval (scope r) with
  | .ok (.bool b) => b
  | _ => false

end Predicate

end ClusterArchive
