import ClusterArchive.Decimal.Shortest
import ClusterArchive.Decimal.Word
import ClusterArchive.Json.Value

/-!
# Number text

A number without point and exponent that fits 64 bits is whole; every other one is a double. A
double is read from the leading digits that fit an unsigned 64-bit significand, later digits only
shifting the exponent, and is then scaled by one power of ten in double arithmetic; so the last
place may differ from the nearest double, and what comes out is fixed by this rule alone.
-/

namespace ClusterArchive.Json

/-- The parts of a number as written. -/
structure NumberText where
  negative : Bool
  whole : List Nat
  fraction : Option (List Nat)
  exponent : Option (Bool × List Nat)

namespace NumberText

/-- A significand and the power of ten it is to be scaled by. -/
structure Scaled where
  significand : Nat
  exponent : Int

/-- Whether a digit can be added to the significand. -/
def fits (significand digit : Nat) : Bool := decide (significand * 10 + digit < Word.count)

/-- Reads the digits before the point; from the first one that does not fit, digits only count. -/
def scaleWhole : List Nat → Nat → Scaled
  | [], n => ⟨n, 0⟩
  | d :: rest, n =>
    if fits n d then scaleWhole rest (n * 10 + d) else ⟨n, ((d :: rest).length : Nat)⟩

/-- Reads the digits after the point; from the first one that does not fit, digits are dropped. -/
def scaleFraction : List Nat → Scaled → Scaled
  | [], s => s
  | d :: rest, s =>
    if fits s.significand d then
      scaleFraction rest ⟨s.significand * 10 + d, s.exponent - 1⟩
    else s

/-- The exponent as written, `none` when it does not fit 31 bits. -/
def exponentValue? (digits : List Nat) : Option Nat :=
  let n := digits.foldl (fun n d => n * 10 + d) 0
  if n < 0x80000000 then some n else none

/-- `10 ^ n` as a double. -/
def power (n : Nat) : Binary64 := .ofDecimal false 1 n

/-- Scales a significand; `none` beyond the largest double. A power of ten below the smallest is
taken in steps of `308` until nothing is left to scale. -/
def scale? : Nat → Binary64 → Int → Option Binary64
  | 0, _, _ => none
  | steps + 1, f, e =>
    if e.natAbs ≤ 308 then
      if 0 ≤ e then
        let r := f.mul (power e.natAbs)
        if r.isFinite then some r else none
      else some (f.div (power e.natAbs))
    else if f = .zero false then some f
    else if 0 ≤ e then none
    else scale? steps (f.div (power 308)) (e + 308)

/-- Applies the sign of the text. -/
def signed (negative : Bool) (x : Binary64) : Binary64 := if negative then x.neg else x

/-- Bounds of a 32-bit exponent. -/
def saturate (e : Int) : Int := max (-0x80000000) (min 0x7FFFFFFF e)

/-- The double that the text stands for. -/
def double? (t : NumberText) (s : Scaled) : Option Binary64 :=
  match t.exponent with
  | none => (scale? 8 (.ofInt s.significand) s.exponent).map (signed t.negative)
  | some (up, digits) =>
    match exponentValue? digits with
    | some e =>
      let e := saturate (if up then s.exponent + e else s.exponent - e)
      (scale? 8 (.ofInt s.significand) e).map (signed t.negative)
    | none =>
      if up && s.significand != 0 then none else some (signed t.negative (.zero false))

/-- The number that the text stands for; `none` when it is beyond the largest double. -/
def number? (t : NumberText) : Option Number :=
  let s := scaleWhole t.whole 0
  match t.fraction with
  | some ds => (t.double? (scaleFraction ds s)).map .double
  | none =>
    if t.exponent.isNone && s.exponent == 0 then
      if !t.negative then some (.integer s.significand)
      else if s.significand = 0 then some (.double (.zero true))
      else if Word.holdsSigned (-s.significand) then some (.integer (-s.significand))
      else some (.double (signed true (.ofInt s.significand)))
    else (t.double? s).map .double

end NumberText

/-- Doubles are written positionally while their leading digit stands between the fifth place after
the point and the sixteenth before it, and keep their point. -/
def doubleLayout : Shortest.Layout := ⟨(-5, 15), true⟩

/-- The text of a whole number. -/
def integerText (i : Int) : List Char :=
  if i < 0 then '-' :: Shortest.digits i.natAbs else Shortest.digits i.natAbs

/-- The text of a number; a double that is not finite has no text of its own and is written as
null. -/
def Number.text : Number → List Char
  | .integer i => integerText i
  | .double x => (Shortest.text? doubleLayout x).getD ['n', 'u', 'l', 'l']

end ClusterArchive.Json
