import ClusterArchive.Path.Syntax
import ClusterArchive.Regex.Reader
import ClusterArchive.Text.Utf8

/-!
# Following paths

`Query.nodes` gives the values a path leads to, in the order of the segments and selectors. The
values below a value are visited from the top, members in the order of their names.
-/

namespace ClusterArchive.Path

open Json (Value Number)

/-! ### Comparing values -/

/-- A number as a double. -/
def asDouble : Number → Binary64
  | .integer i => .ofInt i
  | .double x => x

/-- Order of two numbers; whole numbers are compared exactly, others as doubles. -/
def compareNumbers? : Number → Number → Option Ordering
  | .integer a, .integer b => some (Ord.compare a b)
  | a, b => (asDouble a).compare? (asDouble b)

mutual
/-- Equality of values; numbers are equal if their values are. -/
def sameValue : Value → Value → Bool
  | .null, .null => true
  | .bool a, .bool b => a == b
  | .number a, .number b => compareNumbers? a b == some .eq
  | .string a, .string b => a == b
  | .array a, .array b => sameItems a b
  | .object a, .object b => sameMembers a b
  | _, _ => false

/-- Equality of lists of items. -/
def sameItems : List Value → List Value → Bool
  | [], [] => true
  | a :: as, b :: bs => sameValue a b && sameItems as bs
  | _, _ => false

/-- Equality of lists of members. -/
def sameMembers : List (String × Value) → List (String × Value) → Bool
  | [], [] => true
  | (n, a) :: as, (m, b) :: bs => n == m && sameValue a b && sameMembers as bs
  | _, _ => false
end

/-- Whether one value is below another: only numbers and strings are ordered. -/
def below : Value → Value → Bool
  | .number a, .number b => compareNumbers? a b == some .lt
  | .string a, .string b => decide (a < b)
  | _, _ => false

/-- Whether two operands are equal, each of which may stand for no value. -/
def sameOperand : Option Value → Option Value → Bool
  | none, none => true
  | some a, some b => sameValue a b
  | _, _ => false

/-- Whether two operands compare as asked; order holds between values only. -/
def Comparison.holds : Comparison → Option Value → Option Value → Bool
  | eq, a, b => sameOperand a b
  | ne, a, b => !sameOperand a b
  | lt, some a, some b => below a b
  | le, some a, some b => below a b || sameValue a b
  | gt, some a, some b => below b a
  | ge, some a, some b => below b a || sameValue a b
  | _, _, _ => false

/-! ### Selecting -/

/-- The values directly inside a value. -/
def childrenOf : Value → List Value
  | .array items => items
  | .object members => members.map (·.2)
  | _ => []

mutual
/-- A value and all values inside it, from the top. -/
def withDescendants : Value → List Value
  | .array items => .array items :: descendantsOfItems items
  | .object members => .object members :: descendantsOfMembers members
  | v => [v]

/-- The items with everything inside them. -/
def descendantsOfItems : List Value → List Value
  | [] => []
  | v :: rest => withDescendants v ++ descendantsOfItems rest

/-- The values of the members with everything inside them. -/
def descendantsOfMembers : List (String × Value) → List Value
  | [] => []
  | (_, v) :: rest => withDescendants v ++ descendantsOfMembers rest
end

/-- The item at a position counted from the front, or from the end if negative. -/
def itemAt? (items : List Value) (i : Int) : Option Value :=
  if 0 ≤ i then items[i.toNat]?
  else
    let j := (items.length : Int) + i
    if 0 ≤ j then items[j.toNat]? else none

/-- Positions from `i` on by a positive step, below `stop`. -/
def upwards (step stop : Nat) : Nat → Nat → List Nat
  | 0, _ => []
  | fuel + 1, i => if i < stop then i :: upwards step stop fuel (i + step) else []

/-- Positions from `i` on by a negative step, above `stop`. -/
def downwards (step : Nat) (stop : Int) : Nat → Int → List Nat
  | 0, _ => []
  | fuel + 1, i => if stop < i then i.toNat :: downwards step stop fuel (i - step) else []

/-- The positions that a slice chooses from a list of the given length. -/
def slicePositions (length : Nat) (start stop step : Option Int) : List Nat :=
  let len : Int := length
  let step := step.getD 1
  let fromEnd := fun (i : Int) => if 0 ≤ i then i else len + i
  if step = 0 then []
  else if 0 < step then
    let low := min (max (fromEnd (start.getD 0)) 0) len
    let high := min (max (fromEnd (stop.getD len)) 0) len
    upwards step.toNat high.toNat (length + 1) low.toNat
  else
    let high := min (max (fromEnd (start.getD (len - 1))) (-1)) (len - 1)
    let low := match stop with
      | some s => min (max (fromEnd s) (-1)) (len - 1)
      | none => -1
    downwards step.natAbs low (length + 1) high

/-- Whether a text matches the pattern written in another: as a whole or anywhere. The pattern ends
lines at carriage returns as well as at line feeds. A pattern that cannot be read matches
nothing. -/
def textMatches (whole : Bool) (text pattern : String) : Bool :=
  let flags := { Regex.Flags.initial with crlf := true }
  let source := if whole then ['^', '('] ++ pattern.toList ++ [')', '$'] else pattern.toList
  match Regex.readWith? flags source with
  | some p => p.occursIn text.toList
  | none => false

/-- The length of a string, an array or an object. -/
def lengthOf? : Value → Option Nat
  | .string s => some s.length
  | .array items => some items.length
  | .object members => some members.length
  | _ => none

/-- A whole number as a value. -/
def countValue (n : Nat) : Value := .number (.integer n)

mutual
/-- The values that a selector chooses from `v`. -/
def Selector.select (root v : Value) : Selector → List Value
  | .name n => (v.get? n).toList
  | .wildcard => childrenOf v
  | .index i =>
    match v with
    | .array items => (itemAt? items i).toList
    | _ => []
  | .slice start stop step =>
    match v with
    | .array items => (slicePositions items.length start stop step).filterMap (items[·]?)
    | _ => []
  | .filter c => (childrenOf v).filter fun w => Condition.holds root w c

/-- The values that any of the selectors chooses from `v`, selector by selector. -/
def selectAll (root v : Value) : List Selector → List Value
  | [] => []
  | s :: rest => Selector.select root v s ++ selectAll root v rest

/-- The values that a segment leads to from `v`. -/
def Segment.step (root v : Value) : Segment → List Value
  | .children ss => selectAll root v ss
  | .descendants ss => (withDescendants v).flatMap fun w => selectAll root w ss

/-- The values that segments lead to from all of the given ones. -/
def walk (root : Value) (vs : List Value) : List Segment → List Value
  | [] => vs
  | s :: rest => walk root (vs.flatMap fun v => Segment.step root v s) rest

/-- The values that a path leads to, `v` being the value under test. -/
def Query.nodes (root v : Value) : Query → List Value
  | .mk fromRoot segments => walk root [if fromRoot then root else v] segments

/-- Whether the value under test meets the condition. -/
def Condition.holds (root v : Value) : Condition → Bool
  | .or a b => Condition.holds root v a || Condition.holds root v b
  | .and a b => Condition.holds root v a && Condition.holds root v b
  | .not a => !Condition.holds root v a
  | .compare left by_ right => by_.holds (Operand.value? root v left) (Operand.value? root v right)
  | .present q => !(Query.nodes root v q).isEmpty
  | .matching whole text pattern =>
    match Operand.value? root v text, Operand.value? root v pattern with
    | some (.string t), some (.string p) => textMatches whole t p
    | _, _ => false

/-- The value that an operand stands for. -/
def Operand.value? (root v : Value) : Operand → Option Value
  | .literal w => some w
  | .single q => (Query.nodes root v q).head?
  | .length a => ((Operand.value? root v a).bind lengthOf?).map countValue
  | .count q => some (countValue (Query.nodes root v q).length)
  | .value q =>
    match Query.nodes root v q with
    | [w] => some w
    | _ => none
end

/-- The values that a path leads to from the root of a value. -/
def Query.run (q : Query) (root : Value) : List Value := q.nodes root root

end ClusterArchive.Path
