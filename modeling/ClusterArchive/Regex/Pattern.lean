import ClusterArchive.Regex.Class

/-!
# Regular expressions

A pattern relates positions of a text: from each position it leads to the positions where a match
that begins there may end. A set of positions is a number whose binary digit `i` tells whether `i`
belongs to it, and `Pattern.reach` maps the set of starts to the set of ends.
-/

namespace ClusterArchive.Regex

/-- A condition on a position that takes no character. -/
inductive Anchor
  | textStart
  | textEnd
  | lineStart (crlf : Bool)
  | lineEnd (crlf : Bool)
  | wordBoundary (unicode : Bool)
  | noWordBoundary (unicode : Bool)
  | wordStart (unicode : Bool)
  | wordEnd (unicode : Bool)
  | wordStartHalf (unicode : Bool)
  | wordEndHalf (unicode : Bool)

/-- A regular expression. -/
inductive Pattern
  | empty
  | one (c : Class)
  | anchored (a : Anchor)
  | sequence (p q : Pattern)
  | choice (p q : Pattern)
  | times (p : Pattern) (low : Nat) (high : Option Nat)
  | named (name : List Char) (p : Pattern)

/-- The names of the groups of a pattern. -/
def Pattern.names : Pattern → List (List Char)
  | empty | one _ | anchored _ => []
  | sequence p q | choice p q => p.names ++ q.names
  | times p _ _ => p.names
  | named name p => name :: p.names

/-- Whether a neighbour of a position exists and is a word character. -/
def isWord (unicode : Bool) (c : Option Char) : Bool := c.any (Class.word unicode).contains

/-- Whether the condition holds between two neighbouring characters. -/
def Anchor.holds (a : Anchor) (before after : Option Char) : Bool :=
  match a with
  | textStart => before.isNone
  | textEnd => after.isNone
  | lineStart crlf =>
    before.isNone || before == some '\n' || (crlf && before == some '\r' && after != some '\n')
  | lineEnd crlf =>
    after.isNone || (crlf && after == some '\r') ||
      (after == some '\n' && !(crlf && before == some '\r'))
  | wordBoundary u => isWord u before != isWord u after
  | noWordBoundary u => isWord u before == isWord u after
  | wordStart u => !isWord u before && isWord u after
  | wordEnd u => isWord u before && !isWord u after
  | wordStartHalf u => !isWord u before
  | wordEndHalf u => !isWord u after

/-- The positions of characters that belong to the class. -/
def positionsOf (c : Class) : List Char → Nat
  | [] => 0
  | d :: rest => 2 * positionsOf c rest + if c.contains d then 1 else 0

/-- The positions where the condition holds, in a text that follows `before`. -/
def anchorsOf (a : Anchor) (before : Option Char) : List Char → Nat
  | [] => if a.holds before none then 1 else 0
  | d :: rest => 2 * anchorsOf a (some d) rest + if a.holds before (some d) then 1 else 0

/-- `step` applied `n` times. -/
def iterate (step : Nat → Nat) : Nat → Nat → Nat
  | 0, s => s
  | n + 1, s => iterate step n (step s)

/-- The positions reached from `fresh` by at most `n` steps, together with `reached`; steps are only
taken from positions that are new. -/
def spread (step : Nat → Nat) : Nat → Nat → Nat → Nat
  | 0, reached, _ => reached
  | n + 1, reached, fresh =>
    let found := step fresh
    let new := found ^^^ (found &&& reached)
    if new = 0 then reached else spread step n (reached ||| new) new

/-- The ends of matches that begin in the given set. -/
def Pattern.reach (text : List Char) : Pattern → Nat → Nat
  | empty, s => s
  | one c, s => 2 * (s &&& positionsOf c text)
  | anchored a, s => s &&& anchorsOf a none text
  | sequence p q, s => q.reach text (p.reach text s)
  | choice p q, s => p.reach text s ||| q.reach text s
  | times p low high, s =>
    let first := iterate (p.reach text) low s
    let more := match high with
      | some h => h - low
      | none => text.length + 1
    spread (p.reach text) more first first
  | named _ p, s => p.reach text s

/-- Whether a match is found anywhere in the text. -/
def Pattern.occursIn (p : Pattern) (text : List Char) : Bool :=
  p.reach text (1 <<< (text.length + 1) - 1) != 0

end ClusterArchive.Regex
