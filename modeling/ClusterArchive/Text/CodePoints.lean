import ClusterArchive.Text.Pieces

/-!
# Sets of code points

Tables of character classes are written as text: hexadecimal numbers with spaces between. A set is
given by the code points at which membership changes, a case mapping by runs of letters at a fixed
distance from their counterparts.
-/

namespace ClusterArchive.Text

/-- The value of a hexadecimal digit. -/
def hexDigit? (c : Char) : Option Nat :=
  if '0' ≤ c ∧ c ≤ '9' then some (c.toNat - 0x30)
  else if 'a' ≤ c ∧ c ≤ 'f' then some (c.toNat - 0x57)
  else if 'A' ≤ c ∧ c ≤ 'F' then some (c.toNat - 0x37)
  else none

/-- The hexadecimal numbers of a text, read from its right end: the numbers that are complete, and
the value and weight of the digits of the one being read. -/
private def hexStep (c : Char) (s : List Nat × Option (Nat × Nat)) :
    List Nat × Option (Nat × Nat) :=
  match hexDigit? c, s.2 with
  | some d, some (value, weight) => (s.1, some (value + d * weight, weight * 16))
  | some d, none => (s.1, some (d, 16))
  | none, some (value, _) => (value :: s.1, none)
  | none, none => s

/-- The hexadecimal numbers of a text, whatever stands between them. -/
def hexNumbers (text : String) : List Nat :=
  match text.toList.foldr hexStep ([], none) with
  | (numbers, none) => numbers
  | (numbers, some (value, _)) => value :: numbers

/-- A set of code points, as the ascending list of those at which membership changes. -/
structure CodePoints where
  changes : List Nat

namespace CodePoints

/-- The set written as a text of hexadecimal numbers. -/
def read (text : String) : CodePoints := ⟨hexNumbers text⟩

/-- Membership of `n`, which is `inside` before the first change. -/
def containsFrom (n : Nat) (inside : Bool) : List Nat → Bool
  | [] => inside
  | c :: rest => if n < c then inside else containsFrom n (!inside) rest

/-- Whether the character belongs to the set. -/
def contains (s : CodePoints) (c : Char) : Bool := containsFrom c.toNat false s.changes

/-- The set as a list of closed intervals. -/
def intervals (s : CodePoints) : List (Nat × Nat) := go s.changes
where
  go : List Nat → List (Nat × Nat)
    | lo :: hi :: rest => (lo, hi - 1) :: go rest
    | [lo] => [(lo, 0x10FFFF)]
    | [] => []

end CodePoints

/-- The words of a text, which stand between spaces and line ends. -/
def words (text : String) : List (List Char) :=
  (pieces ' ' (text.toList.map fun c => if c = '\n' then ' ' else c)).filter (!·.isEmpty)

/-- The words of a text, in twos. -/
def namePairs (text : String) : List (String × String) := go (words text)
where
  go : List (List Char) → List (String × String)
    | a :: b :: rest => (String.ofList a, String.ofList b) :: go rest
    | _ => []

/-- The words of a text, in twos, of which the first is a hexadecimal number. -/
def labelledRuns (text : String) : List (Nat × String) :=
  (namePairs text).map fun p => ((hexNumbers p.1).headD 0, p.2)

/-- The label of the last run that begins at or before `n`. -/
def labelOf (n : Nat) (runs : List (Nat × String)) : String :=
  go "" runs
where
  go (current : String) : List (Nat × String) → String
    | [] => current
    | (start, label) :: rest => if n < start then current else go label rest

/-- The letters `first`, `first + step`, … up to `last`, whose counterparts begin at `image` and
keep the same distances. -/
structure CaseRun where
  first : Nat
  last : Nat
  step : Nat
  image : Nat

namespace CaseRun

/-- The runs written as a text, four numbers each. -/
def readAll (text : String) : List CaseRun := go (hexNumbers text)
where
  go : List Nat → List CaseRun
    | a :: b :: c :: d :: rest => ⟨a, b, c, d⟩ :: go rest
    | _ => []

/-- The counterpart of a code point, if the run holds it. -/
def image? (r : CaseRun) (n : Nat) : Option Nat :=
  if r.first ≤ n ∧ n ≤ r.last ∧ (n - r.first) % r.step = 0 then some (r.image + (n - r.first))
  else none

end CaseRun

/-- The counterpart of a character under the first run that holds it. -/
def caseImage? (runs : List CaseRun) (c : Char) : Option Char :=
  (runs.findSome? (·.image? c.toNat)).map Char.ofNat

end ClusterArchive.Text
