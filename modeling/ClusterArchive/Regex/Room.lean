import ClusterArchive.Regex.Pattern

/-!
# The room that patterns take

A counted repetition stands for as many copies of its pattern as its bounds ask for, so a short text
can stand for a large pattern. The room is measured in steps of the machine that carries the pattern
out: one for a class within ASCII, two for every interval of other classes, and one for every way
that is left open. A pattern that takes more room than `roomLimit` is refused.
-/

namespace ClusterArchive.Regex

/-- A bound on the number of intervals of a class. -/
def Class.intervals : Class → Nat
  | range .. => 1
  | table points => points.intervals.length
  | category names => (categoryRuns.filter fun r => names.contains r.2).length
  | script name => (scriptRuns.filter (·.2 == name)).length
  | union a b | both a b | without a b | either a b => a.intervals + b.intervals
  | complement a => a.intervals + 1
  | folded _ a => 2 * a.intervals
  | none => 0

/-- Whether a class is seen to hold characters of ASCII only. -/
def Class.isAscii : Class → Bool
  | range _ high => high < 0x80
  | union a b | either a b => a.isAscii && b.isAscii
  | both a b => a.isAscii || b.isAscii
  | without a _ => a.isAscii
  | folded _ a => a.isAscii
  | none => true
  | table _ | category _ | script _ | complement _ => false

/-- The room of a class. -/
def Class.room (c : Class) : Nat := if c.isAscii then 1 else 2 * c.intervals + 8

/-- The room of a pattern. -/
def Pattern.room : Pattern → Nat
  | empty | anchored _ => 1
  | one c => c.room
  | sequence p q => p.room + q.room
  | choice p q => p.room + q.room + 1
  | times p low none => max low 1 * p.room + 1
  | times p low (some high) => low * p.room + (high - low) * (p.room + 1) + 1
  | named _ p => p.room + 2

/-- The greatest room of a pattern. -/
def roomLimit : Nat := 10 * 1024 * 1024 / 32

end ClusterArchive.Regex
