import ClusterArchive.Expr.Builtin
import ClusterArchive.Expr.Operators
import ClusterArchive.Regex.Reader

/-!
# Calls of functions

A function is applied to operands that are not evaluated yet. Most functions have a subject: the
target of a method call, otherwise the first operand. A field that is missing in the subject is no
missing field of the call: it makes the call fail for good.
-/

namespace ClusterArchive.Expr

/-- The variables in scope, the innermost first. -/
abbrev Scope := List (String × Value)

/-- The value of a variable. -/
def Scope.get (scope : Scope) (name : String) : Except Failure Value :=
  match scope.find? (·.1 == name) with
  | some (_, v) => .ok v
  | none => .error (.unbound name)

/-- An operand of a call: its name if it is a plain variable, and its value in a scope. -/
structure Operand where
  name? : Option String
  value : Scope → Except Failure Value

/-- Evaluates the subject of a call; tells which operands are left for the rest. -/
def subject (scope : Scope) (target : Option Value) (operands : List Operand) :
    Except Failure (Value × List Operand) :=
  match target, operands with
  | some v, _ => .ok (v, operands)
  | none, [] => .error .failed
  | none, o :: rest =>
    match o.value scope with
    | .ok v => .ok (v, rest)
    | .error (.noSuchKey _) => .error .failed
    | .error e => .error e

/-- Evaluates the first operand of a list. -/
def first (scope : Scope) : List Operand → Except Failure Value
  | [] => .error .failed
  | o :: _ => o.value scope

/-- A text among values. -/
def asText : Value → Except Failure String
  | .string s => .ok s
  | _ => .error .failed

/-! ### Conversions -/

/-- The number that the digits of a text stand for, behind a sign that is allowed. -/
def wholeNumber? (text : List Char) : Option Int :=
  let (negative, digits) := Binary64.takeSign text
  if digits.isEmpty || !digits.all Char.isDigit then none
  else
    let n : Int := Binary64.digitsValue digits
    some (if negative then -n else n)

/-- The value as a number with a sign. -/
def toInt : Value → Except Failure Value
  | .string s =>
    match wholeNumber? s.toList with
    | some i => Value.ofInt i
    | none => .error .failed
  | .double x =>
    if x.compare? (.ofInt Word.greatest) == some .gt ||
        x.compare? (.ofInt Word.least) == some .lt then
      .error .failed
    else .ok (.int (x.clamp Word.least Word.greatest))
  | .int i => .ok (.int i)
  | .uint n => Value.ofInt n
  | _ => .error .failed

/-- The value as a number without a sign. -/
def toUint : Value → Except Failure Value
  | .string s =>
    if s.toList.head? = some '-' then .error .failed
    else
      match wholeNumber? s.toList with
      | some i => Value.ofNat i
      | none => .error .failed
  | .double x =>
    if x.compare? (.ofInt Word.greatestUnsigned) == some .gt ||
        x.compare? (.zero false) == some .lt then
      .error .failed
    else .ok (.uint (x.clamp 0 Word.greatestUnsigned).toNat)
  | .int i => Value.ofNat i
  | .uint n => .ok (.uint n)
  | _ => .error .failed

/-- The value as a double. -/
def toDouble : Value → Except Failure Value
  | .string s =>
    match Binary64.ofText? s.toList with
    | some x => .ok (.double x)
    | none => .error .failed
  | .double x => .ok (.double x)
  | .int i => .ok (.double (.ofInt i))
  | .uint n => .ok (.double (.ofInt n))
  | _ => .error .failed

/-- Doubles are shown in positional notation, whole ones without a point. -/
def doubleLayout : Shortest.Layout := ⟨(-400, 400), false⟩

/-- The text of a double. -/
def doubleText (x : Binary64) : List Char :=
  match Shortest.text? doubleLayout x with
  | some t => t
  | none =>
    if x.isNaN then ['N', 'a', 'N'] else if x.isNegative then ['-', 'i', 'n', 'f']
    else ['i', 'n', 'f']

/-- The value as a text. -/
def toText : Value → Except Failure Value
  | .string s => .ok (.string s)
  | .timestamp t => .ok (.string (String.ofList t.text))
  | .duration d =>
    match d.text? with
    | some t => .ok (.string (String.ofList t))
    | none => .error .failed
  | .int i => .ok (.string (toString i))
  | .uint n => .ok (.string (toString n))
  | .double x => .ok (.string (String.ofList (doubleText x)))
  | .bytes b => .ok (.string (String.ofList (Utf8.lossy b)))
  | _ => .error .failed

/-- The text as a duration. -/
def toDuration (s : String) : Except Failure Value :=
  match Duration.ofText? s.toList with
  | some d => .ok (.duration d)
  | none => .error .failed

/-- The text as a timestamp. -/
def toTimestamp (s : String) : Except Failure Value :=
  match Timestamp.ofText? s.toList with
  | some t => .ok (.timestamp t)
  | none => .error .failed

/-! ### Tests and measures -/

/-- The number of items, entries or bytes. -/
def sizeOf_ : Value → Except Failure Value
  | .list items => .ok (.int items.length)
  | .map entries => .ok (.int entries.length)
  | .string s => .ok (.int s.utf8ByteSize)
  | .bytes b => .ok (.int b.length)
  | _ => .error .failed

/-- Whether a value contains another. -/
def containing (container v : Value) : Except Failure Bool :=
  match container, v with
  | .list items, v => .ok (items.any (·.same v))
  | .map entries, v =>
    match v.asKey? with
    | some k => .ok (lookupKey? k entries).isSome
    | none => .error .failed
  | .string s, .string t => .ok (Text.occursIn t.toList s.toList)
  | .bytes b, .bytes c => if c.isEmpty then .error .failed else .ok (Text.occursIn c b)
  | _, _ => .ok false

/-- Whether a pattern is found in a text. -/
def matching (text pattern : String) : Except Failure Bool :=
  match Regex.read? pattern.toList with
  | some p => .ok (p.occursIn text.toList)
  | none => .error .failed

/-- The greatest of values; of equal ones the last. -/
def greatest : Value → List Value → Except Failure Value
  | v, [] => .ok v
  | v, w :: rest =>
    match v.compare? w with
    | some .gt => greatest v rest
    | some _ => greatest w rest
    | none => .error .failed

/-- The greatest of some values; null if there are none. -/
def greatestOf : List Value → Except Failure Value
  | [] => .ok .null
  | v :: rest => greatest v rest

/-- The greatest of the operands' values; one operand that is a list stands for its items. -/
def maxOf : List Value → Except Failure Value
  | [.list items] => greatestOf items
  | values => greatestOf values

/-! ### Calls that bind a variable -/

/-- Whether no item fails a test, which the Boolean `false` alone does. -/
def allOf (test : Value → Except Failure Value) : List Value → Except Failure Bool
  | [] => .ok true
  | v :: rest =>
    match test v with
    | .error e => .error e
    | .ok (.bool false) => .ok false
    | .ok _ => allOf test rest

/-- Whether an item passes a test, which the Boolean `true` alone does. -/
def anyOf (test : Value → Except Failure Value) : List Value → Except Failure Bool
  | [] => .ok false
  | v :: rest =>
    match test v with
    | .error e => .error e
    | .ok (.bool true) => .ok true
    | .ok _ => anyOf test rest

/-- Whether exactly one item passes a test, when `found` tells whether an earlier one did. -/
def oneOf (test : Value → Except Failure Value) (found : Bool) : List Value → Except Failure Bool
  | [] => .ok found
  | v :: rest =>
    match test v with
    | .error e => .error e
    | .ok (.bool true) => if found then .ok false else oneOf test true rest
    | .ok _ => oneOf test found rest

/-- The items that pass a test. -/
def selected (test : Value → Except Failure Value) : List Value → Except Failure (List Value)
  | [] => .ok []
  | v :: rest =>
    match test v with
    | .error e => .error e
    | .ok (.bool true) => (selected test rest).map (v :: ·)
    | .ok _ => selected test rest

/-- The values of items under a function. -/
def mapped (f : Value → Except Failure Value) : List Value → Except Failure (List Value)
  | [] => .ok []
  | v :: rest =>
    match f v with
    | .error e => .error e
    | .ok w => (mapped f rest).map (w :: ·)

/-- The items that a call goes over: those of a list, and the keys of a map. -/
def itemsOf : Value → Except Failure (List Value)
  | .list items => .ok items
  | .map entries => .ok (entries.map (·.1.value))
  | _ => .error .failed

/-- The items of a list. -/
def listItems : Value → Except Failure (List Value)
  | .list items => .ok items
  | _ => .error .failed

/-- The variable and the body of a call, the body as a function of the item. -/
def binding (scope : Scope) : List Operand → Except Failure (Value → Except Failure Value)
  | ⟨some x, _⟩ :: body :: _ => .ok fun v => body.value ((x, v) :: scope)
  | _ => .error .failed

/-- The answer of a test on the subject and the first operand, both of them texts. -/
def onTexts (test : String → String → Except Failure Bool) (scope : Scope) (target : Option Value)
    (operands : List Operand) : Except Failure Value := do
  let (v, rest) ← subject scope target operands
  let s ← asText v
  let t ← asText (← first scope rest)
  return .bool (← test s t)

/-- The result of running a body over the items of the subject. -/
def onItems {α : Type} (items : Value → Except Failure (List Value))
    (run : (Value → Except Failure Value) → List Value → Except Failure α) (scope : Scope)
    (target : Option Value) (operands : List Operand) : Except Failure α := do
  let (v, rest) ← subject scope target operands
  let body ← binding scope rest
  run body (← items v)

namespace Builtin

/-- The value of a call. -/
def apply (f : Builtin) (scope : Scope) (target : Option Value) (operands : List Operand) :
    Except Failure Value :=
  match f with
  | has =>
    match first scope operands with
    | .ok _ => .ok (.bool true)
    | .error (.noSuchKey _) => .ok (.bool false)
    | .error e => .error e
  | contains => do
    let (v, rest) ← subject scope target operands
    return .bool (← containing v (← first scope rest))
  | startsWith => onTexts (fun s t => .ok (t.toList.isPrefixOf s.toList)) scope target operands
  | endsWith => onTexts (fun s t => .ok (t.toList.isSuffixOf s.toList)) scope target operands
  | matches_ => onTexts matching scope target operands
  | size => do sizeOf_ (← first scope operands)
  | max => do maxOf (← operands.mapM fun o => o.value scope)
  | string => do toText (← subject scope target operands).1
  | bytes => do return .bytes (utf8Bytes (← asText (← first scope operands)))
  | double => do toDouble (← subject scope target operands).1
  | int => do toInt (← subject scope target operands).1
  | uint => do toUint (← subject scope target operands).1
  | duration => do toDuration (← asText (← first scope operands))
  | timestamp => do toTimestamp (← asText (← first scope operands))
  | all => do return .bool (← onItems itemsOf allOf scope target operands)
  | exists_ => do return .bool (← onItems itemsOf anyOf scope target operands)
  | existsOne => do return .bool (← onItems itemsOf (oneOf · false) scope target operands)
  | map => do return .list (← onItems listItems mapped scope target operands)
  | filter => do return .list (← onItems listItems selected scope target operands)

end Builtin

end ClusterArchive.Expr
