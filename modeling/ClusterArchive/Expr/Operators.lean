import ClusterArchive.Decimal.Word
import ClusterArchive.Expr.Value
import ClusterArchive.Text.Blank

/-!
# Operators

The operations that signs, operators, fields and positions stand for. Arithmetic on whole numbers of
one kind fails where the result does not fit into 64 bits; with a double it is done on doubles.
-/

namespace ClusterArchive.Expr

namespace Value

/-- The whole number with a sign, if it fits. -/
def ofInt (i : Int) : Except Failure Value :=
  if Word.holdsSigned i then .ok (int i) else .error .failed

/-- The whole number without a sign, if it fits. -/
def ofNat (i : Int) : Except Failure Value :=
  if Word.holdsUnsigned i then .ok (uint i.toNat) else .error .failed

/-- The duration, if it is not too long. -/
def ofDuration (n : Int) : Except Failure Value :=
  match Duration.ofNanoseconds? n with
  | some d => .ok (duration d)
  | none => .error .failed

/-- The timestamp a duration later, if it can be told. -/
def ofLater (t : Timestamp) (d : Duration) : Except Failure Value :=
  match t.add? d with
  | some t => .ok (timestamp t)
  | none => .error .failed

end Value

namespace Arithmetic

/-- The operation on whole numbers; there is no division by zero. -/
def onInts (op : Arithmetic) (a b : Int) : Option Int :=
  match op with
  | add => some (a + b)
  | subtract => some (a - b)
  | multiply => some (a * b)
  | divide => if b = 0 then none else some (a.tdiv b)
  | remainder => if b = 0 then none else some (a.tmod b)

/-- The operation on doubles. -/
def onDoubles (op : Arithmetic) (x y : Binary64) : Binary64 :=
  match op with
  | add => x.add y
  | subtract => x.sub y
  | multiply => x.mul y
  | divide => x.div y
  | remainder => x.rem y

/-- Whether the quotient of the operands is beyond the numbers with a sign; the remainder is then
refused as well. -/
def overflows (op : Arithmetic) (a b : Int) : Bool :=
  op == remainder && a == Word.least && b == -1

/-- The operation on numbers; none if one of the operands is no number, or whole numbers with and
without a sign meet. -/
def onNumbers (op : Arithmetic) (left right : Value) : Except Failure Value :=
  match left, right with
  | .int a, .int b =>
    if op.overflows a b then .error .failed
    else
      match op.onInts a b with
      | some i => Value.ofInt i
      | none => .error .failed
  | .uint a, .uint b =>
    match op.onInts a b with
    | some i => Value.ofNat i
    | none => .error .failed
  | .int a, .double y => .ok (.double (op.onDoubles (.ofInt a) y))
  | .uint a, .double y => .ok (.double (op.onDoubles (.ofInt a) y))
  | .double x, .int b => .ok (.double (op.onDoubles x (.ofInt b)))
  | .double x, .uint b => .ok (.double (op.onDoubles x (.ofInt b)))
  | .double x, .double y => .ok (.double (op.onDoubles x y))
  | _, _ => .error .failed

/-- The operation on values. -/
def apply (op : Arithmetic) (left right : Value) : Except Failure Value :=
  match op, left, right with
  | add, .string a, .string b => .ok (.string (a ++ b))
  | add, .list a, .list b => .ok (.list (a ++ b))
  | add, .map a, .map b => .ok (.map (b.foldl (fun m e => insertKey e.1 e.2 m) a))
  | add, .duration a, .duration b => Value.ofDuration (a.nanoseconds + b.nanoseconds)
  | add, .timestamp t, .duration d => Value.ofLater t d
  | add, .duration d, .timestamp t => Value.ofLater t d
  | subtract, .duration a, .duration b => Value.ofDuration (a.nanoseconds - b.nanoseconds)
  | subtract, .timestamp t, .duration d => Value.ofLater t ⟨-d.nanoseconds⟩
  | subtract, .timestamp a, .timestamp b => .ok (.duration (a.since b))
  | _, _, _ => op.onNumbers left right

end Arithmetic

/-- The operation that a sign stands for. -/
def Sign.apply (s : Sign) (operand : Value) : Except Failure Value :=
  match s, operand with
  | not, v => .ok (.bool !v.isTrue)
  | truth, v => .ok (.bool v.isTrue)
  | negate, .int i => Value.ofInt (-i)
  | negate, .double x => .ok (.double x.neg)
  | keep, .int i => .ok (.int i)
  | keep, .uint n => .ok (.uint n)
  | keep, .double x => .ok (.double x)
  | _, _ => .error .failed

/-- Whether a value is a member of another: a part of a text, an item of a list or a key of a
map. -/
def within (v container : Value) : Except Failure Bool :=
  match v, container with
  | .string a, .string b => .ok (Text.occursIn a.toList b.toList)
  | v, .list items => .ok (items.any v.same)
  | v, .map entries => .ok (v.asKey?.any fun k => (lookupKey? k entries).isSome)
  | _, _ => .error .failed

/-- Whether two values have an order, and one that the relation allows. -/
def ordered (allowed : Ordering → Bool) (left right : Value) : Except Failure Bool :=
  match left.compare? right with
  | some o => .ok (allowed o)
  | none => .error .failed

/-- Whether a relation holds between two values. -/
def Relation.apply (r : Relation) (left right : Value) : Except Failure Bool :=
  match r with
  | less => ordered Ordering.isLT left right
  | lessEqual => ordered Ordering.isLE left right
  | greater => ordered Ordering.isGT left right
  | greaterEqual => ordered Ordering.isGE left right
  | equal => .ok (left.same right)
  | notEqual => .ok !(left.same right)
  | within => Expr.within left right

/-- The piece of one byte at a position of a text, if it is a character of its own. -/
def byteAt? (s : String) (position : Int) : Option Char :=
  go position s.toList
where
  /-- The same, among characters of which the first is at position zero. -/
  go (position : Int) : List Char → Option Char
    | [] => none
    | c :: rest =>
      if position = 0 then (if c.utf8Size = 1 then some c else none)
      else if position < c.utf8Size then none
      else go (position - c.utf8Size) rest

/-- The value at a key, which may be a number with or without a sign. -/
def atKey (entries : List (Key × Value)) (key : Key) : Value :=
  let other? : Option Key := match key with
    | .int i => if 0 ≤ i then some (.uint i.toNat) else none
    | .uint n => if Word.holdsSigned n then some (.int n) else none
    | _ => none
  match lookupKey? key entries with
  | some v => v
  | none => (other?.bind fun k => lookupKey? k entries).getD .null

/-- The value at a position of a list, a text or a map; nothing there is null. -/
def Value.element (target position : Value) : Except Failure Value :=
  match target, position with
  | .list items, .int i => .ok (if i < 0 then .null else items.getD i.toNat .null)
  | .string s, .int i =>
    if i = Word.greatest then .error .failed
    else .ok (match byteAt? s i with
      | some c => .string (String.ofList [c])
      | none => .null)
  | .map entries, position =>
    match position.asKey? with
    | some k => .ok (atKey entries k)
    | none => .error .failed
  | _, _ => .error .failed

/-- The field of a value that holds it. -/
def Value.field? (target : Value) (name : String) : Option Value :=
  match target with
  | .map entries => lookupKey? (.string name) entries
  | _ => none

end ClusterArchive.Expr
