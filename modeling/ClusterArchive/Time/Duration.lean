import ClusterArchive.Decimal.Shortest
import ClusterArchive.Decimal.Text
import ClusterArchive.Decimal.Word

/-!
# Durations

A span of time in nanoseconds. It is written as a sequence of numbers with units, and shown with
hours, minutes and seconds, or in the largest smaller unit if it is below a second.
-/

namespace ClusterArchive

/-- A span of time. -/
structure Duration where
  nanoseconds : Int
deriving DecidableEq, Repr

namespace Duration

/-- The nanoseconds of a second. -/
def perSecond : Nat := 1000000000

/-- The duration of some nanoseconds, if it does not exceed `2 ^ 63 - 1` milliseconds either way. -/
def ofNanoseconds? (n : Int) : Option Duration :=
  if n.natAbs ≤ Word.greatest * 1000000 then some ⟨n⟩ else none

/-- The nanoseconds, if they fit into 64 bits with a sign. -/
def wordNanoseconds? (d : Duration) : Option Int :=
  if Word.holdsSigned d.nanoseconds then some d.nanoseconds else none

/-- Whether the duration counts as a true condition: it is not zero and fits into 64 bits. -/
def isTrue (d : Duration) : Bool := d.wordNanoseconds?.any (· != 0)

/-! ### Reading -/

/-- The exponent at the head of a text and the text behind it; `none` if it has no digits. -/
def exponent? (text : List Char) : Option (List Char × List Char) :=
  match text with
  | [] => some ([], [])
  | c :: rest =>
    if c = 'e' ∨ c = 'E' then
      let (sign, rest) := match rest with
        | '+' :: rest => (['+'], rest)
        | '-' :: rest => (['-'], rest)
        | rest => ([], rest)
      let digits := rest.takeWhile Char.isDigit
      if digits.isEmpty then none else some (c :: (sign ++ digits), rest.drop digits.length)
    else some ([], c :: rest)

/-- The digits of a decimal at the head of a text, with its sign and point, and the text behind
them; a point needs digits before or behind it. -/
def decimal? (text : List Char) : Option (List Char × List Char) :=
  let (sign, rest) := match text with
    | '+' :: rest => (['+'], rest)
    | '-' :: rest => (['-'], rest)
    | rest => ([], rest)
  let whole := rest.takeWhile Char.isDigit
  let rest := rest.drop whole.length
  match rest with
  | '.' :: rest =>
    let fraction := rest.takeWhile Char.isDigit
    if whole.isEmpty && fraction.isEmpty then none
    else some (sign ++ whole ++ '.' :: fraction, rest.drop fraction.length)
  | rest => if whole.isEmpty then none else some (sign ++ whole, rest)

/-- What reading the next part of a duration gives. -/
inductive Part
  | absent
  | broken
  | present (nanoseconds : Int) (rest : List Char)

/-- The word for a number that is no decimal, at the head of a text, and the text behind it. -/
def word? (text : List Char) : Option (Binary64 × List Char) :=
  match (text.take 3).map Char.toLower with
  | ['n', 'a', 'n'] => some (.nan, text.drop 3)
  | ['i', 'n', 'f'] => some (.infinity false, text.drop 3)
  | _ => none

/-- The unit at the head of a text, in nanoseconds, and the text behind it. -/
def unit? : List Char → Option (Nat × List Char)
  | 'm' :: 's' :: rest => some (1000000, rest)
  | 'u' :: 's' :: rest => some (1000, rest)
  | 'n' :: 's' :: rest => some (1, rest)
  | 'h' :: rest => some (3600 * perSecond, rest)
  | 'm' :: rest => some (60 * perSecond, rest)
  | 's' :: rest => some (perSecond, rest)
  | _ => none

/-- A number of units in whole nanoseconds, held within 64 bits. -/
def ofUnits (number : Binary64) (unit : Nat) : Int :=
  (number.mul (.ofInt unit)).clamp Word.least Word.greatest

/-- A number with its unit at the head of a text. -/
def part (text : List Char) : Part :=
  let number := match decimal? text with
    | some (digits, rest) =>
      match exponent? rest with
      | none => none
      | some (e, rest) => some ((Binary64.ofText? (digits ++ e)).map fun x => (x, rest))
    | none => some (word? text)
  match number with
  | none => .broken
  | some none => .absent
  | some (some (x, rest)) =>
    match unit? rest with
    | none => .absent
    | some (u, rest) => .present (ofUnits x u) rest

/-- The sum of at most `count` parts at the head of a text; what follows the last is ignored. -/
def sumFrom : Nat → Int → List Char → Option Int
  | 0, total, _ => some total
  | count + 1, total, text =>
    match part text with
    | .absent => some total
    | .broken => none
    | .present n rest => sumFrom count (total + n) rest

/-- The sum of the parts at the head of a text, of which there has to be one. -/
def sum? (text : List Char) : Option Int :=
  match part text with
  | .present n rest => sumFrom text.length n rest
  | _ => none

/-- The duration that a text stands for: a minus sign, then `0` alone or parts. -/
def ofText? (text : List Char) : Option Duration :=
  let (negative, rest) := match text with
    | '-' :: rest => (true, rest)
    | rest => (false, rest)
  if rest = ['0'] then some ⟨0⟩
  else (sum? rest).bind fun n => ofNanoseconds? (if negative then -n else n)

/-! ### Writing -/

/-- The last `places` digits of a number as a fraction without trailing zeros, nothing if they are
all zero. -/
def fractionText (places n : Nat) : List Char :=
  let ds := Shortest.digits (n % Nat.pow 10 places)
  let ds := Shortest.zeros (places - ds.length) ++ ds
  let ds := (ds.reverse.dropWhile (· == '0')).reverse
  if ds.isEmpty || places == 0 then [] else '.' :: ds

/-- A number whose last `places` digits are a fraction. -/
def decimalText (places n : Nat) : List Char :=
  Shortest.digits (n / Nat.pow 10 places) ++ fractionText places n

/-- The text of a number of nanoseconds. -/
def magnitudeText (n : Nat) : List Char :=
  if n = 0 then ['0', 's']
  else if n < 1000 then decimalText 0 n ++ ['n', 's']
  else if n < 1000000 then decimalText 3 n ++ ['µ', 's']
  else if n < perSecond then decimalText 6 n ++ ['m', 's']
  else
    let seconds := n / perSecond
    let minutes := seconds / 60
    let hours := minutes / 60
    let secondsText := Shortest.digits (seconds % 60) ++ fractionText 9 n ++ ['s']
    let minutesText := if minutes = 0 then [] else Shortest.digits (minutes % 60) ++ ['m']
    let hoursText := if hours = 0 then [] else Shortest.digits hours ++ ['h']
    hoursText ++ minutesText ++ secondsText

/-- The nanoseconds that are shown: those of the whole seconds if there are too many for 64 bits,
and nothing if these are too many as well. -/
def shownNanoseconds? (d : Duration) : Option Int :=
  match d.wordNanoseconds? with
  | some n => some n
  | none => (Duration.mk (d.nanoseconds.tdiv perSecond * perSecond)).wordNanoseconds?

/-- The text of a duration. A negative one is shown by its pattern of 64 bits behind the sign. -/
def text? (d : Duration) : Option (List Char) :=
  d.shownNanoseconds?.map fun n =>
    if n < 0 then '-' :: magnitudeText (Word.count - n.natAbs) else magnitudeText n.toNat

end Duration

end ClusterArchive
