import ClusterArchive.Json.Value

/-!
# Path expressions

A path begins at the root of a value, or inside a filter at the value under test, and takes
segments. A segment applies its selectors to each value reached so far, or to all values below it as
well. What may be compared is kept apart from what may be tested: an operand stands for one value or
for none, a condition is true or false.
-/

namespace ClusterArchive.Path

/-- The comparisons. -/
inductive Comparison
  | eq
  | ne
  | lt
  | le
  | gt
  | ge
deriving DecidableEq, Repr

mutual

/-- Chooses members of an object or items of an array. -/
inductive Selector
  | name (name : String)
  | wildcard
  | index (i : Int)
  | slice (start stop step : Option Int)
  | filter (c : Condition)

/-- A step of a path. -/
inductive Segment
  | children (selectors : List Selector)
  | descendants (selectors : List Selector)

/-- A path from the root or from the value under test. -/
inductive Query
  | mk (fromRoot : Bool) (segments : List Segment)

/-- What a filter asks of a value. -/
inductive Condition
  | or (a b : Condition)
  | and (a b : Condition)
  | not (a : Condition)
  | compare (left : Operand) (by_ : Comparison) (right : Operand)
  | present (q : Query)
  | matching (whole : Bool) (text pattern : Operand)

/-- Stands for one value or none. -/
inductive Operand
  | literal (v : Json.Value)
  | single (q : Query)
  | length (a : Operand)
  | count (q : Query)
  | value (q : Query)

end

/-- Whether the selector chooses at most one value. -/
def Selector.isSingular : Selector → Bool
  | name _ | index _ => true
  | _ => false

/-- Whether the segment leads to at most one value. -/
def Segment.isSingular : Segment → Bool
  | children [s] => s.isSingular
  | _ => false

/-- Whether the path leads to at most one value. -/
def Query.isSingular : Query → Bool
  | mk _ segments => segments.all Segment.isSingular

end ClusterArchive.Path
