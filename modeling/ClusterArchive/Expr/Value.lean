import ClusterArchive.Expr.Syntax
import ClusterArchive.Json.Value
import ClusterArchive.Time.Timestamp

/-!
# Values of expressions

What an expression evaluates to. Whole numbers come with and without a sign; numbers of all three
kinds compare with each other, keys of maps only with keys of their kind. A field that is missing
but has the name of a function is that function, bound to its target.
-/

namespace ClusterArchive.Expr

/-- Why an expression has no value. -/
inductive Failure
  | noSuchKey (name : String)
  | unbound (name : String)
  | failed
deriving DecidableEq, Repr

/-- A key of a map. -/
inductive Key
  | int (value : Int)
  | uint (value : Nat)
  | bool (value : Bool)
  | string (value : String)
deriving DecidableEq, Repr

/-- A value: whole numbers fit into 64 bits, and the keys of a map differ. -/
inductive Value
  | null
  | bool (value : Bool)
  | int (value : Int)
  | uint (value : Nat)
  | double (value : Binary64)
  | string (value : String)
  | bytes (value : Bytes)
  | list (items : List Value)
  | map (entries : List (Key × Value))
  | duration (value : Duration)
  | timestamp (value : Timestamp)
  | function (name : String) (target : Value)
deriving Repr, Inhabited

/-- The value of a key among entries. -/
def lookupKey? {α : Type} (key : Key) (entries : List (Key × α)) : Option α :=
  (entries.find? (·.1 == key)).map (·.2)

/-- Entries with one more, which takes the place of an entry with the same key. -/
def insertKey {α : Type} (key : Key) (value : α) : List (Key × α) → List (Key × α)
  | [] => [(key, value)]
  | (k, v) :: rest => if k = key then (k, value) :: rest else (k, v) :: insertKey key value rest

/-- The key that a value can be. -/
def Value.asKey? : Value → Option Key
  | .int i => some (.int i)
  | .uint n => some (.uint n)
  | .bool b => some (.bool b)
  | .string s => some (.string s)
  | _ => none

/-- The value that a key is. -/
def Key.value : Key → Value
  | int i => .int i
  | uint n => .uint n
  | bool b => .bool b
  | string s => .string s

namespace Value

/-- The value of a literal. -/
def ofLiteral : Literal → Value
  | .null => null
  | .bool b => bool b
  | .int i => int i
  | .double x => double x
  | .string s => string s
  | .bytes b => bytes b

/-- The value of a number of a resource; whole numbers without a minus sign are unsigned. -/
def ofNumber : Json.Number → Value
  | .integer i => if i < 0 then int i else uint i.toNat
  | .double x => double x

mutual

/-- The value of a part of a resource. -/
def ofJson : Json.Value → Value
  | .null => null
  | .bool b => bool b
  | .number n => ofNumber n
  | .string s => string s
  | .array items => list (ofItems items)
  | .object members => map (ofMembers members)

/-- The values of items of a resource. -/
def ofItems : List Json.Value → List Value
  | [] => []
  | v :: rest => ofJson v :: ofItems rest

/-- The entries of members of a resource. -/
def ofMembers : List (String × Json.Value) → List (Key × Value)
  | [] => []
  | (n, v) :: rest => (.string n, ofJson v) :: ofMembers rest

end

/-- Whether a value counts as a true condition. -/
def isTrue : Value → Bool
  | null => false
  | bool b => b
  | int i => i != 0
  | uint n => n != 0
  | double x => !x.sameValue (.zero false)
  | string s => !s.isEmpty
  | bytes b => !b.isEmpty
  | list items => !items.isEmpty
  | map entries => !entries.isEmpty
  | duration d => d.isTrue
  | timestamp t => t.isTrue
  | function .. => false

/-! ### Comparison -/

/-- Order of numbers of any kinds; whole numbers are compared with a double as doubles. -/
def compareNumbers? : Value → Value → Option Ordering
  | int a, int b => some (compare a b)
  | int a, uint b => some (compare a b)
  | uint a, int b => some (compare (a : Int) b)
  | uint a, uint b => some (compare a b)
  | int a, double y => (Binary64.ofInt a).compare? y
  | uint a, double y => (Binary64.ofInt a).compare? y
  | double x, int b => x.compare? (.ofInt b)
  | double x, uint b => x.compare? (.ofInt b)
  | double x, double y => x.compare? y
  | _, _ => none

/-- Order of two values, where there is one. -/
def compare? : Value → Value → Option Ordering
  | null, null => some .eq
  | bool a, bool b => some (compare a.toNat b.toNat)
  | string a, string b => some (compare a b)
  | duration a, duration b => some (compare a.nanoseconds b.nanoseconds)
  | timestamp a, timestamp b => some (a.order b)
  | a, b => compareNumbers? a b

mutual

/-- Equality: numbers of different kinds are equal by value, maps whatever the order of their
entries. -/
def same : Value → Value → Bool
  | null, null => true
  | bool a, bool b => a == b
  | string a, string b => a == b
  | bytes a, bytes b => a == b
  | list a, list b => sameItems a b
  | map a, map b => a.length == b.length && sameEntries a b
  | duration a, duration b => a == b
  | timestamp a, timestamp b => a.order b == .eq
  | function f a, function g b => f == g && same a b
  | a, b => compareNumbers? a b == some .eq

/-- Equality of items one by one. -/
def sameItems : List Value → List Value → Bool
  | [], [] => true
  | a :: as, b :: bs => same a b && sameItems as bs
  | _, _ => false

/-- Whether each of the entries has an equal one among others. -/
def sameEntries : List (Key × Value) → List (Key × Value) → Bool
  | [], _ => true
  | (k, v) :: rest, others => (lookupKey? k others).any (same v) && sameEntries rest others

end

end Value

end ClusterArchive.Expr
