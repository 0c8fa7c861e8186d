import ClusterArchive.Expr.Syntax

/-!
# Built-in functions

The functions that expressions may call by name. Those on the parts of a date may be named but
cannot be called.
-/

namespace ClusterArchive.Expr

/-- A function that can be called. -/
inductive Builtin
  | has
  | contains
  | startsWith
  | endsWith
  | matches_
  | size
  | max
  | string
  | bytes
  | double
  | int
  | uint
  | duration
  | timestamp
  | all
  | exists_
  | existsOne
  | map
  | filter
deriving DecidableEq, Repr

namespace Builtin

/-- The functions with their names. -/
def names : List (String × Builtin) :=
  [("has", has), ("contains", contains), ("startsWith", startsWith), ("endsWith", endsWith),
    ("matches", matches_), ("size", size), ("max", max), ("string", string), ("bytes", bytes),
    ("double", double), ("int", int), ("uint", uint), ("duration", duration),
    ("timestamp", timestamp),
    ("all", all), ("exists", exists_), ("exists_one", existsOne), ("map", map), ("filter", filter)]

/-- The function of the given name. -/
def ofName? (name : String) : Option Builtin := (names.find? (·.1 == name)).map (·.2)

/-- Whether a call of the function is a truth value. -/
def isTest : Builtin → Bool
  | has | contains | startsWith | endsWith | matches_ | all | exists_ | existsOne => true
  | _ => false

/-- Whether the function evaluates its second operand anew for each item, bound to the name that its
first operand is. -/
def binds : Builtin → Bool
  | all | exists_ | existsOne | map | filter => true
  | _ => false

end Builtin

/-- The functions on the parts of a date. -/
def calendarNames : List String :=
  ["getFullYear", "getMonth", "getDayOfYear", "getDayOfMonth", "getDate", "getDayOfWeek",
    "getHours", "getMinutes", "getSeconds", "getMilliseconds"]

end ClusterArchive.Expr
