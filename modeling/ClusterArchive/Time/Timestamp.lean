import ClusterArchive.Time.Duration

/-!
# Timestamps

A point in time: seconds since 1970 in UTC, nanoseconds, and the offset of the clock that shows it.
A leap second is the second before it with a billion nanoseconds or more.
-/

namespace ClusterArchive

/-- A point in time. -/
structure Timestamp where
  seconds : Int
  nanoseconds : Nat
  offset : Int
deriving DecidableEq, Repr

namespace Timestamp

/-! ### Calendar -/

/-- The day of a date, counted from 1970-01-01, with the year taken to begin in March. -/
def dayOf (year : Int) (month day : Nat) : Int :=
  let y := if month ≤ 2 then year - 1 else year
  let m : Int := if month ≤ 2 then (month : Int) + 9 else (month : Int) - 3
  365 * y + y / 4 - y / 100 + y / 400 + (153 * m + 2) / 5 + (day : Int) - 1 - 719468

/-- The date of a day: year, month, day of the month. -/
def dateOf (day : Int) : Int × Nat × Nat :=
  let d := day + 719468
  let era := d / 146097
  let ofEra := d % 146097
  let yearOfEra := (ofEra - ofEra / 1460 + ofEra / 36524 - ofEra / 146096) / 365
  let ofYear := ofEra - (365 * yearOfEra + yearOfEra / 4 - yearOfEra / 100)
  let m := (5 * ofYear + 2) / 153
  let month := if m < 10 then m + 3 else m - 9
  let year := yearOfEra + 400 * era + (if month ≤ 2 then 1 else 0)
  (year, month.toNat, (ofYear - (153 * m + 2) / 5 + 1).toNat)

/-- Whether a year has a 29th of February. -/
def isLeap (year : Int) : Bool := year % 4 == 0 && (year % 100 != 0 || year % 400 == 0)

/-- The days of a month. -/
def daysIn (year : Int) (month : Nat) : Nat :=
  if month = 2 then (if isLeap year then 29 else 28)
  else if month = 4 ∨ month = 6 ∨ month = 9 ∨ month = 11 then 30
  else 31

/-- The seconds of a day. -/
def perDay : Nat := 86400

/-- Whether a number of seconds lies within the years that can be told. -/
def inRange (seconds : Int) : Bool :=
  decide (dayOf (-262143) 1 1 * perDay ≤ seconds ∧ seconds < dayOf 262143 1 1 * perDay)

/-! ### Order and arithmetic -/

/-- Order in time, whatever the offsets. -/
def order (a b : Timestamp) : Ordering :=
  (compare a.seconds b.seconds).then (compare a.nanoseconds b.nanoseconds)

/-- Whether the timestamp counts as a true condition: it lies behind the beginning of 1970, by no
more than 64 bits of nanoseconds with a sign can hold. -/
def isTrue (t : Timestamp) : Bool :=
  let n := t.seconds * Duration.perSecond + t.nanoseconds
  decide (0 < n ∧ n ≤ Word.greatest)

/-- The point in time a duration later. Within a leap second it stays in it as long as only
nanoseconds are added. -/
def add? (t : Timestamp) (d : Duration) : Option Timestamp :=
  let seconds := d.nanoseconds.tdiv Duration.perSecond
  let nanoseconds := d.nanoseconds.tmod Duration.perSecond
  let billion : Int := Duration.perSecond
  let now : Int := t.nanoseconds
  let leap := decide (billion ≤ now)
  let leaves :=
    leap && (decide (0 < seconds) || decide (0 < nanoseconds ∧ 2 * billion ≤ now + nanoseconds))
  if leap && !leaves && decide (seconds = 0) then
    some { t with nanoseconds := (now + nanoseconds).toNat }
  else
    let now := if leap then now - billion else now
    let base := if leap && !leaves then t.seconds + 1 else t.seconds
    let n := now + nanoseconds
    let total := base + seconds + n / billion
    if inRange total then some { t with seconds := total, nanoseconds := (n % billion).toNat }
    else none

/-- The duration from `b` to `a`, which counts a leap second between them. -/
def since (a b : Timestamp) : Duration :=
  let billion : Int := Duration.perSecond
  let clockA := a.seconds % perDay
  let clockB := b.seconds % perDay
  let leap : Int :=
    if clockB < clockA ∧ Duration.perSecond ≤ b.nanoseconds then 1
    else if clockA < clockB ∧ Duration.perSecond ≤ a.nanoseconds then -1
    else 0
  ⟨(a.seconds - b.seconds + leap) * billion + ((a.nanoseconds : Int) - b.nanoseconds)⟩

/-! ### Reading -/

/-- A number of exactly `count` digits at the head of a text. -/
def number? (count : Nat) (text : List Char) : Option (Nat × List Char) :=
  let digits := text.take count
  if digits.length = count && digits.all Char.isDigit then
    some (Binary64.digitsValue digits, text.drop count)
  else none

/-- Removes one character of a set from the head of a text. -/
def skip? (allowed : List Char) : List Char → Option (List Char)
  | [] => none
  | c :: rest => if allowed.contains c then some rest else none

/-- The fraction of a second at the head of a text, in nanoseconds; further digits do not count. -/
def fraction? : List Char → Option (Nat × List Char)
  | '.' :: rest =>
    let digits := rest.takeWhile Char.isDigit
    if digits.isEmpty then none
    else
      let used := digits.take 9
      some (Binary64.digitsValue used * Nat.pow 10 (9 - used.length), rest.drop digits.length)
  | rest => some (0, rest)

/-- The offset at the head of a text, in seconds. -/
def offset? : List Char → Option (Int × List Char)
  | [] => none
  | c :: rest =>
    if c = 'Z' ∨ c = 'z' then some (0, rest)
    else if c = '+' ∨ c = '-' ∨ c = '\u2212' then do
      let (hours, rest) ← number? 2 rest
      let rest ← skip? [':'] rest
      let (minutes, rest) ← number? 2 rest
      let n : Int := hours * 3600 + minutes * 60
      if minutes < 60 && n < perDay then some (if c = '+' then n else -n, rest) else none
    else none

/-- The point in time that a text stands for: date, time of day and offset, nothing behind them. -/
def ofText? (text : List Char) : Option Timestamp := do
  let (year, rest) ← number? 4 text
  let rest ← skip? ['-'] rest
  let (month, rest) ← number? 2 rest
  let rest ← skip? ['-'] rest
  let (day, rest) ← number? 2 rest
  let rest ← skip? ['T', 't', ' '] rest
  let (hour, rest) ← number? 2 rest
  let rest ← skip? [':'] rest
  let (minute, rest) ← number? 2 rest
  let rest ← skip? [':'] rest
  let (second, rest) ← number? 2 rest
  let (nanoseconds, rest) ← fraction? rest
  let (offset, rest) ← offset? rest
  let dated := 1 ≤ month && month ≤ 12 && 1 ≤ day && day ≤ daysIn year month
  let timed := hour < 24 && minute < 60 && second ≤ 60
  if !(dated && timed && rest.isEmpty) then none
  else
    let clock : Int := hour * 3600 + minute * 60 + (min second 59 : Nat)
    some ⟨dayOf year month day * perDay + clock - offset,
      if second = 60 then nanoseconds + Duration.perSecond else nanoseconds, offset⟩

/-! ### Writing -/

/-- A number with at least `width` digits. -/
def padded (width n : Nat) : List Char :=
  let ds := Shortest.digits n
  Shortest.zeros (width - ds.length) ++ ds

/-- A year: four digits, or a sign and at least four digits outside of 0 to 9999. -/
def yearText (year : Int) : List Char :=
  if 0 ≤ year ∧ year ≤ 9999 then padded 4 year.toNat
  else (if year < 0 then '-' else '+') :: padded 4 year.natAbs

/-- A fraction of a second in three, six or nine digits, as few as are exact; nothing for none. -/
def fractionText (n : Nat) : List Char :=
  if n = 0 then []
  else if n % 1000000 = 0 then '.' :: padded 3 (n / 1000000)
  else if n % 1000 = 0 then '.' :: padded 6 (n / 1000)
  else '.' :: padded 9 n

/-- The text of a point in time, as the clock with its offset shows it. -/
def text (t : Timestamp) : List Char :=
  let shown := t.seconds + t.offset
  let (year, month, day) := dateOf (shown / perDay)
  let clock := (shown % perDay).toNat
  let leap := t.nanoseconds / Duration.perSecond
  let offset := t.offset.natAbs
  yearText year ++ '-' :: padded 2 month ++ '-' :: padded 2 day ++ 'T' :: padded 2 (clock / 3600) ++
    ':' :: padded 2 (clock / 60 % 60) ++ ':' :: padded 2 (clock % 60 + leap) ++
    fractionText (t.nanoseconds % Duration.perSecond) ++
    (if t.offset < 0 then '-' else '+') :: padded 2 (offset / 3600) ++ ':' ::
    padded 2 (offset / 60 % 60)

end Timestamp

end ClusterArchive
