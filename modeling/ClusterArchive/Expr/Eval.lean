import ClusterArchive.Expr.Functions

/-!
# Evaluation of expressions

The value of an expression in a scope. Both sides of `&&` are evaluated; the right side of `||` and
the branch of a conditional that is not taken are not.
-/

namespace ClusterArchive.Expr

/-- The field of a value; a missing one that has the name of a function is that function. -/
def fieldOf (target : Value) (name : String) : Except Failure Value :=
  match target.field? name with
  | some v => .ok v
  | none =>
    if (Builtin.ofName? name).isSome then .ok (.function name target) else .error (.noSuchKey name)

/-- Applies the function of the given name. -/
def applyNamed (name : String) (scope : Scope) (target : Option Value) (operands : List Operand) :
    Except Failure Value :=
  match Builtin.ofName? name with
  | some f => f.apply scope target operands
  | none => .error .failed

/-- The name that an expression is, if it is a plain variable. -/
def variableName? : Expr → Option String
  | .variable name => some name
  | _ => none

mutual

/-- The value of an expression. -/
def eval : Expr → Scope → Except Failure Value
  | .literal l, _ => .ok (.ofLiteral l)
  | .variable name, scope => scope.get name
  | .list items, scope => do return .list (← evalItems items scope)
  | .map entries, scope => do return .map (← evalEntries entries scope [])
  | .attribute target name, scope => do fieldOf (← eval target scope) name
  | .index target position, scope => do
    let v ← eval target scope
    v.element (← eval position scope)
  | .construct target _, scope => do
    let _ ← eval target scope
    .error .failed
  | .call name args, scope => applyNamed name scope none (operands args)
  | .method target name args, scope =>
    if (Builtin.ofName? name).isNone then .error .failed
    else do applyNamed name scope (some (← eval target scope)) (operands args)
  | .signed s e, scope => do s.apply (← eval e scope)
  | .arithmetic op left right, scope => do
    let a ← eval left scope
    op.apply a (← eval right scope)
  | .relation r left right, scope => do
    let a ← eval left scope
    return .bool (← r.apply a (← eval right scope))
  | .both left right, scope => do
    let a ← eval left scope
    let b ← eval right scope
    return .bool (a.isTrue && b.isTrue)
  | .either left right, scope => do
    let a ← eval left scope
    if a.isTrue then return a else eval right scope
  | .conditional condition yes no, scope => do
    let c ← eval condition scope
    if c.isTrue then eval yes scope else eval no scope

/-- The values of the items of a list. -/
def evalItems : List Expr → Scope → Except Failure (List Value)
  | [], _ => .ok []
  | e :: rest, scope => do
    let v ← eval e scope
    return v :: (← evalItems rest scope)

/-- Adds the entries of a map to those that are there; of two with one key the later stays. -/
def evalEntries :
    List (Expr × Expr) → Scope → List (Key × Value) → Except Failure (List (Key × Value))
  | [], _, done => .ok done
  | (k, v) :: rest, scope, done => do
    match (← eval k scope).asKey? with
    | none => .error .failed
    | some key => evalEntries rest scope (insertKey key (← eval v scope) done)

/-- The operands of a call. -/
def operands : List Expr → List Operand
  | [] => []
  | e :: rest => ⟨variableName? e, eval e⟩ :: operands rest

end

end ClusterArchive.Expr
