import ClusterArchive.Decimal.Binary64

/-!
# Shortest decimals

The shortest decimal of a positive double is the one with the fewest digits among those that read
back as that double, and of these the nearest to it. On the grid of decimals with a given number of
digits only the two neighbours of the double have to be tried: if any point of the grid reads back,
so does one of them.
-/

namespace ClusterArchive.Shortest

/-- The decimal digits of a number; zero has one. -/
def digits (n : Nat) : List Char := Nat.toDigits 10 n

/-- The exponent of the leading decimal digit of `num / den`, for positive numbers. -/
def leadingExponent (num den : Nat) : Int :=
  if den ≤ num then ((digits (num / den)).length : Int) - 1
  else -((digits ((den + num - 1) / num - 1)).length : Int)

/-- A positive double and the reals that read back as it, in units of a quarter of the last place:
`value`, `low` and `high`, all over `den`, the ends being part of it when `closed`. -/
structure Interval where
  value : Nat
  low : Nat
  high : Nat
  den : Nat
  closed : Bool

/-- The interval of `mantissa · 2 ^ exponent`. Below a power of two the next double is half as
far. -/
def Interval.ofDyadic (mantissa : Nat) (exponent : Int) : Interval :=
  let e := exponent - 2
  let unit := 1 <<< e.toNat
  let below := if mantissa = Binary64.leadingBit ∧ -1074 < exponent then 1 else 2
  ⟨4 * mantissa * unit, (4 * mantissa - below) * unit, (4 * mantissa + 2) * unit, 1 <<< (-e).toNat,
    mantissa % 2 == 0⟩

/-- Whether the decimal `c · 10 ^ k` reads back as the double. -/
def Interval.holds (i : Interval) (c : Nat) (k : Int) : Bool :=
  let n := c * Nat.pow 10 k.toNat * i.den
  let d := Nat.pow 10 (-k).toNat
  if i.closed then decide (i.low * d ≤ n ∧ n ≤ i.high * d)
  else decide (i.low * d < n ∧ n < i.high * d)

/-- The decimal nearest to the double among those with last place `10 ^ k` that read back as it. -/
def Interval.nearest? (i : Interval) (k : Int) : Option Nat :=
  let num := i.value * Nat.pow 10 (-k).toNat
  let den := i.den * Nat.pow 10 k.toNat
  let c := num / den
  let r := num % den
  match i.holds c k, i.holds (c + 1) k with
  | true, true =>
    if 2 * r < den then some c else if den < 2 * r then some (c + 1) else some (c + c % 2)
  | true, false => some c
  | false, true => some (c + 1)
  | false, false => none

/-- The first grid, from `count` digits on, that holds a decimal reading back as the double. -/
def Interval.search (i : Interval) (leading : Int) (count : Nat) : Nat → Nat × Int
  | 0 => (i.value / i.den, 0)
  | tries + 1 =>
    let k := leading - count + 1
    match i.nearest? k with
    | some c => (c, k)
    | none => i.search leading (count + 1) tries

/-- The decimal `digits · 10 ^ exponent` without trailing zeros among its digits. -/
def stripZeros (c : Nat) (k : Int) : Nat → Nat × Int
  | 0 => (c, k)
  | tries + 1 => if c % 10 = 0 ∧ c ≠ 0 then stripZeros (c / 10) (k + 1) tries else (c, k)

/-- The shortest decimal `c · 10 ^ k` of a positive double `mantissa · 2 ^ exponent`. -/
def decimal (mantissa : Nat) (exponent : Int) : Nat × Int :=
  let i := Interval.ofDyadic mantissa exponent
  let (c, k) := i.search (leadingExponent i.value i.den) 1 17
  stripZeros c k 20

/-- How the text of a finite number is laid out: numbers whose leading digit has an exponent within
`positional` are written in positional notation, and `keepPoint` puts `.0` behind a whole one. -/
structure Layout where
  positional : Int × Int
  keepPoint : Bool

/-- A text of zeros. -/
def zeros (n : Nat) : List Char := List.replicate n '0'

/-- Positional notation of `c · 10 ^ k`. -/
def positionalText (keepPoint : Bool) (c : Nat) (k : Int) : List Char :=
  let ds := digits c
  if 0 ≤ k then ds ++ zeros k.toNat ++ (if keepPoint then ['.', '0'] else [])
  else
    let places := (-k).toNat
    if places < ds.length then ds.take (ds.length - places) ++ '.' :: ds.drop (ds.length - places)
    else '0' :: '.' :: (zeros (places - ds.length) ++ ds)

/-- Scientific notation of `c · 10 ^ k`: one digit before the point, and an exponent with its sign
and at least two digits. -/
def scientificText (c : Nat) (k : Int) : List Char :=
  let ds := digits c
  let e : Int := k + (ds.length : Int) - 1
  let es := digits e.natAbs
  let mantissa := match ds with
    | [] => []
    | [d] => [d]
    | d :: rest => d :: '.' :: rest
  mantissa ++ 'e' :: (if e < 0 then '-' else '+') :: (zeros (2 - es.length) ++ es)

/-- The text of a double; `none` for the infinities and "not a number". -/
def text? (layout : Layout) (x : Binary64) : Option (List Char) :=
  match x.view with
  | .finite negative mantissa exponent =>
    let magnitude :=
      if mantissa = 0 then positionalText layout.keepPoint 0 0
      else
        let (c, k) := decimal mantissa exponent
        let leading : Int := k + ((digits c).length : Int) - 1
        if layout.positional.1 ≤ leading ∧ leading ≤ layout.positional.2 then
          positionalText layout.keepPoint c k
        else scientificText c k
    some (if negative then '-' :: magnitude else magnitude)
  | _ => none

end ClusterArchive.Shortest
