import ClusterArchive.Decimal.Binary64
import ClusterArchive.Text.Utf8

/-!
# Expressions

The language in which policies say what they apply to: literals, variables, field access, operators,
function calls, and calls such as `items.all(x, x > 0)` whose first argument names a variable of the
second.
-/

namespace ClusterArchive

namespace Expr

/-- A literal other than a list or a map; whole numbers lie between `-2 ^ 63` and `2 ^ 63 - 1`. -/
inductive Literal
  | null
  | bool (value : Bool)
  | int (value : Int)
  | double (value : Binary64)
  | string (value : String)
  | bytes (value : Bytes)
deriving DecidableEq, Repr

/-- A relation between two values; `within` is membership. -/
inductive Relation
  | less
  | lessEqual
  | greater
  | greaterEqual
  | equal
  | notEqual
  | within
deriving DecidableEq, Repr

/-- An operation on two values. -/
inductive Arithmetic
  | add
  | subtract
  | multiply
  | divide
  | remainder
deriving DecidableEq, Repr

/-- An operation on one value: `!`, `!!`, `-` and `--`. -/
inductive Sign
  | not
  | truth
  | negate
  | keep
deriving DecidableEq, Repr

end Expr

/-- An expression. -/
inductive Expr
  | literal (value : Expr.Literal)
  | variable (name : String)
  | list (items : List Expr)
  | map (entries : List (Expr × Expr))
  | attribute (target : Expr) (name : String)
  | index (target position : Expr)
  | construct (target : Expr) (fields : List (String × Expr))
  | call (name : String) (arguments : List Expr)
  | method (target : Expr) (name : String) (arguments : List Expr)
  | signed (sign : Expr.Sign) (operand : Expr)
  | arithmetic (op : Expr.Arithmetic) (left right : Expr)
  | relation (op : Expr.Relation) (left right : Expr)
  | both (left right : Expr)
  | either (left right : Expr)
  | conditional (condition yes no : Expr)
deriving Repr, Inhabited

end ClusterArchive
