/-!
# Double-precision numbers

A double is its 64-bit pattern. Every operation decodes the pattern into an exact dyadic number,
computes exactly on natural numbers and rounds once, to the nearest double and to the even one of
two, so no operation depends on the arithmetic of the machine it runs on.
-/

namespace ClusterArchive

/-- A double-precision number by its bit pattern; two patterns of one value, as of `0` and `-0`,
differ. -/
structure Binary64 where
  bits : UInt64
deriving DecidableEq, Repr

namespace Binary64

/-- What a bit pattern stands for; a finite number is `± mantissa · 2 ^ exponent`. -/
inductive View
  | nan
  | infinite (negative : Bool)
  | finite (negative : Bool) (mantissa : Nat) (exponent : Int)
deriving DecidableEq, Repr

/-- The bit for the sign. -/
def signBit : Nat := 0x8000000000000000

/-- The bit in front of a fraction of 52 bits, which is one for all but the smallest numbers. -/
def leadingBit : Nat := 0x10000000000000

/-- The decoded bit pattern. -/
def view (x : Binary64) : View :=
  let n := x.bits.toNat
  let negative := decide (signBit ≤ n)
  let exponent : Nat := n / leadingBit % 2048
  let fraction : Nat := n % leadingBit
  if exponent = 2047 then
    if fraction = 0 then .infinite negative else .nan
  else if exponent = 0 then .finite negative fraction (-1074)
  else .finite negative (leadingBit + fraction) ((exponent : Int) - 1075)

/-- The number with the given sign and the pattern of its magnitude. -/
def ofMagnitude (negative : Bool) (magnitude : Nat) : Binary64 :=
  ⟨UInt64.ofNat (magnitude + if negative then signBit else 0)⟩

/-- The one pattern that operations give for "not a number". -/
def nan : Binary64 := ⟨0x7FF8000000000000⟩

/-- An infinity. -/
def infinity (negative : Bool) : Binary64 := ofMagnitude negative (2047 * leadingBit)

/-- A zero. -/
def zero (negative : Bool) : Binary64 := ofMagnitude negative 0

/-- `num / den` rounded to a whole number, a half to the even neighbour. -/
def roundDiv (num den : Nat) : Nat :=
  let q := num / den
  let r := num % den
  if 2 * r < den then q else if den < 2 * r then q + 1 else q + q % 2

/-- `num / den / 2 ^ e` as a fraction of whole numbers. -/
def scaled (num den : Nat) (e : Int) : Nat × Nat :=
  if 0 ≤ e then (num, den <<< e.toNat) else (num <<< (-e).toNat, den)

/-- The exponent of the last place of the double nearest to `num / den`. -/
def lastPlace (num den : Nat) : Int :=
  let e : Int := (num.log2 : Int) - (den.log2 : Int) - 52
  let (n, d) := scaled num den e
  let e := if n < d * leadingBit then e - 1 else e
  max e (-1074)

/-- The double nearest to `± num / den`, for a positive `den`; an infinity beyond the largest. -/
def round (negative : Bool) (num den : Nat) : Binary64 :=
  if num = 0 then zero negative
  else
    let e := lastPlace num den
    let (n, d) := scaled num den e
    let magnitude := (e + 1074).toNat * leadingBit + roundDiv n d
    if 2047 * leadingBit ≤ magnitude then infinity negative else ofMagnitude negative magnitude

/-- The double nearest to `± mantissa · 2 ^ exponent`. -/
def roundDyadic (negative : Bool) (mantissa : Nat) (exponent : Int) : Binary64 :=
  if 0 ≤ exponent then round negative (mantissa <<< exponent.toNat) 1
  else round negative mantissa (1 <<< (-exponent).toNat)

/-- The double nearest to a whole number. -/
def ofInt (i : Int) : Binary64 := round (decide (i < 0)) i.natAbs 1

/-- The double nearest to `± digits · 10 ^ exponent`. Magnitudes far outside the range are settled
without computing the power. -/
def ofDecimal (negative : Bool) (digits : Nat) (exponent : Int) : Binary64 :=
  if digits = 0 then zero negative
  else
    let size : Int := (digits.log2 : Int) * 30103 / 100000 + exponent
    if 400 < size then infinity negative
    else if size < -400 then zero negative
    else if 0 ≤ exponent then round negative (digits * Nat.pow 10 exponent.toNat) 1
    else round negative digits (Nat.pow 10 (-exponent).toNat)

/-- Whether the sign bit is set. -/
def isNegative (x : Binary64) : Bool := decide (signBit ≤ x.bits.toNat)

/-- Whether the number is not one. -/
def isNaN (x : Binary64) : Bool := decide (x.view = .nan)

/-- Whether the number is neither infinite nor not a number. -/
def isFinite (x : Binary64) : Bool :=
  match x.view with
  | .finite .. => true
  | _ => false

/-- The number with the other sign. -/
def neg (x : Binary64) : Binary64 := ⟨x.bits ^^^ 0x8000000000000000⟩

/-- `± mantissa · 2 ^ exponent` as a whole multiple of `2 ^ unit`, for a `unit` not above the
exponent. -/
def multiple (negative : Bool) (mantissa : Nat) (exponent unit : Int) : Int :=
  let n : Int := (mantissa <<< (exponent - unit).toNat : Nat)
  if negative then -n else n

/-- Sum. -/
def add (x y : Binary64) : Binary64 :=
  match x.view, y.view with
  | .nan, _ | _, .nan => nan
  | .infinite s, .infinite t => if s = t then x else nan
  | .infinite _, _ => x
  | _, .infinite _ => y
  | .finite s m e, .finite t n f =>
    let unit := min e f
    let total := multiple s m e unit + multiple t n f unit
    if total = 0 then zero (s && t && m == 0 && n == 0)
    else roundDyadic (decide (total < 0)) total.natAbs unit

/-- Difference. -/
def sub (x y : Binary64) : Binary64 := add x y.neg

/-- Product. -/
def mul (x y : Binary64) : Binary64 :=
  match x.view, y.view with
  | .nan, _ | _, .nan => nan
  | .infinite s, .infinite t => infinity (s != t)
  | .infinite s, .finite t n _ => if n = 0 then nan else infinity (s != t)
  | .finite s m _, .infinite t => if m = 0 then nan else infinity (s != t)
  | .finite s m e, .finite t n f => roundDyadic (s != t) (m * n) (e + f)

/-- Quotient. -/
def div (x y : Binary64) : Binary64 :=
  match x.view, y.view with
  | .nan, _ | _, .nan => nan
  | .infinite _, .infinite _ => nan
  | .infinite s, .finite t _ _ => infinity (s != t)
  | .finite s _ _, .infinite t => zero (s != t)
  | .finite s m e, .finite t n f =>
    if n = 0 then (if m = 0 then nan else infinity (s != t))
    else if f ≤ e then round (s != t) (m <<< (e - f).toNat) n
    else round (s != t) m (n <<< (f - e).toNat)

/-- Remainder of the division that truncates; it has the sign of the dividend. -/
def rem (x y : Binary64) : Binary64 :=
  match x.view, y.view with
  | .nan, _ | _, .nan => nan
  | .infinite _, _ => nan
  | .finite .., .infinite _ => x
  | .finite s m e, .finite _ n f =>
    if n = 0 then nan
    else
      let unit := min e f
      let a := (multiple false m e unit).toNat
      let b := (multiple false n f unit).toNat
      roundDyadic s (a % b) unit

/-- Order of the values: both zeros are equal, and "not a number" has no place in it. -/
def compare? (x y : Binary64) : Option Ordering :=
  match x.view, y.view with
  | .nan, _ | _, .nan => none
  | .infinite s, .infinite t => some (compare t.toNat s.toNat)
  | .infinite s, .finite .. => some (if s then .lt else .gt)
  | .finite .., .infinite t => some (if t then .gt else .lt)
  | .finite s m e, .finite t n f =>
    let unit := min e f
    some (compare (multiple s m e unit) (multiple t n f unit))

/-- Equality of the values. -/
def sameValue (x y : Binary64) : Bool := x.compare? y == some .eq

/-- The whole part of a finite number. -/
def truncate? (x : Binary64) : Option Int :=
  match x.view with
  | .finite s m e =>
    let n : Int := if 0 ≤ e then (m <<< e.toNat : Nat) else (m >>> (-e).toNat : Nat)
    some (if s then -n else n)
  | _ => none

/-- The whole part, held within `low` and `high`; "not a number" gives zero. -/
def clamp (x : Binary64) (low high : Int) : Int :=
  match x.view with
  | .nan => 0
  | .infinite s => if s then low else high
  | .finite .. => max low (min high (x.truncate?.getD 0))

end Binary64

end ClusterArchive
