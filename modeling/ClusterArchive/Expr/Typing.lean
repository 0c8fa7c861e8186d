import ClusterArchive.Expr.Builtin

/-!
# Types of expressions

A coarse check before any evaluation. An expression may name the sections of a resource and the
variables that enclosing calls bind; it may call the known functions; and where a truth value is
called for, it must not be certain to have another kind of value.
-/

namespace ClusterArchive.Expr

/-- What is known of an expression's value. -/
inductive Kind
  | truth
  | other
  | unknown
deriving DecidableEq, Repr

/-- A place that calls for a truth value. -/
inductive Place
  | logicalOperand
  | negatedOperand
  | condition
  | body (function : String)
deriving DecidableEq, Repr

/-- Why an expression is refused. -/
inductive TypeError
  | undeclared (name : String)
  | needsTruth (place : Place)
  | construction
  | noTruth
deriving DecidableEq, Repr

/-- The place in words. -/
def Place.text : Place → String
  | logicalOperand => "logical operand"
  | negatedOperand => "negated operand"
  | condition => "ternary condition"
  | body function => function ++ " predicate"

/-- The reason in words. -/
def TypeError.message : TypeError → String
  | undeclared name => "undeclared reference to '" ++ name ++ "'"
  | needsTruth place => place.text ++ " must be bool"
  | construction => "message construction is not supported"
  | noTruth => "expression does not evaluate to bool"

/-- The sections of a resource that an expression may name. -/
def sectionNames : List String := ["metadata", "spec", "status"]

/-- Whether a function may be named. -/
def isDeclared (function : String) : Bool :=
  (Builtin.ofName? function).isSome || calendarNames.contains function

/-- Whether a function binds a variable. -/
def bindsVariable (function : String) : Bool := (Builtin.ofName? function).any Builtin.binds

/-- Whether a call of a function is a truth value. -/
def isTest (function : String) : Bool := (Builtin.ofName? function).any Builtin.isTest

/-- Refuses what is certain to be no truth value. -/
def Kind.orNeeds (k : Kind) (place : Place) : Except TypeError Unit :=
  if k = .other then .error (.needsTruth place) else .ok ()

/-- The kind of a variable. -/
def kindOfVariable (bound : List String) (name : String) : Except TypeError Kind :=
  if sectionNames.contains name then .ok .other
  else if bound.contains name then .ok .unknown
  else .error (.undeclared name)

/-- The kind of a call whose operands are in order. -/
def kindOfCall (function : String) : Kind := if isTest function then .truth else .other

/-- The kind of a call that binds a variable, by the kind of its body. -/
def kindOfBinding (function : String) (body : Kind) : Except TypeError Kind :=
  if function = "map" then .ok .other
  else
    match body.orNeeds (.body function) with
    | .error e => .error e
    | .ok _ => .ok (kindOfCall function)

/-- The kind of a conditional, by the kinds of its branches. -/
def Kind.join : Kind → Kind → Kind
  | truth, truth => truth
  | other, other => other
  | _, _ => unknown

mutual

/-- The kind of an expression under the given bound variables. -/
def kind (bound : List String) : Expr → Except TypeError Kind
  | .literal (.bool _) => .ok .truth
  | .literal _ => .ok .other
  | .variable name => kindOfVariable bound name
  | .list items => do
    kinds bound items
    return .other
  | .map entries => do
    entryKinds bound entries
    return .other
  | .attribute target _ => do
    let _ ← kind bound target
    return .unknown
  | .index target position => do
    let _ ← kind bound target
    let _ ← kind bound position
    return .unknown
  | .construct _ fields => do
    fieldKinds bound fields
    .error .construction
  | .call name args =>
    if isDeclared name then operandKinds bound name args else .error (.undeclared name)
  | .method target name args =>
    if isDeclared name then do
      let _ ← kind bound target
      operandKinds bound name args
    else .error (.undeclared name)
  | .signed s e => do
    let k ← kind bound e
    match s with
    | .not | .truth => do
      k.orNeeds .negatedOperand
      return .truth
    | .negate | .keep => return .other
  | .arithmetic _ left right => do
    let _ ← kind bound left
    let _ ← kind bound right
    return .other
  | .relation _ left right => do
    let _ ← kind bound left
    let _ ← kind bound right
    return .truth
  | .both left right => do
    let k ← kind bound left
    k.orNeeds .logicalOperand
    let l ← kind bound right
    l.orNeeds .logicalOperand
    return .truth
  | .either left right => do
    let k ← kind bound left
    k.orNeeds .logicalOperand
    let l ← kind bound right
    l.orNeeds .logicalOperand
    return .truth
  | .conditional condition yes no => do
    let k ← kind bound condition
    k.orNeeds .condition
    let a ← kind bound yes
    let b ← kind bound no
    return a.join b

/-- The kind of a call by its operands. -/
def operandKinds (bound : List String) (function : String) : List Expr → Except TypeError Kind
  | [.variable x, body] =>
    if bindsVariable function then do
      let k ← kind (x :: bound) body
      kindOfBinding function k
    else do
      let _ ← kindOfVariable bound x
      let _ ← kind bound body
      return kindOfCall function
  | [] => .ok (kindOfCall function)
  | e :: rest => do
    let _ ← kind bound e
    kinds bound rest
    return kindOfCall function

/-- Whether all expressions of a list have a kind. -/
def kinds (bound : List String) : List Expr → Except TypeError Unit
  | [] => .ok ()
  | e :: rest => do
    let _ ← kind bound e
    kinds bound rest

/-- Whether all keys and values of a map have a kind. -/
def entryKinds (bound : List String) : List (Expr × Expr) → Except TypeError Unit
  | [] => .ok ()
  | (k, v) :: rest => do
    let _ ← kind bound k
    let _ ← kind bound v
    entryKinds bound rest

/-- Whether all fields of a construction have a kind. -/
def fieldKinds (bound : List String) : List (String × Expr) → Except TypeError Unit
  | [] => .ok ()
  | (_, v) :: rest => do
    let _ ← kind bound v
    fieldKinds bound rest

end

/-- Accepts an expression that may be a truth value. -/
def check (e : Expr) : Except TypeError Unit := do
  if (← kind [] e) = .other then .error .noTruth

end ClusterArchive.Expr
