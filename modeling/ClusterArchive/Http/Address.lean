import ClusterArchive.Decimal.Shortest
import ClusterArchive.Decimal.Text
import ClusterArchive.Text.CodePoints

/-!
# Socket addresses

An IP address and a port, as in `127.0.0.1:80` and `[::1]:80`. Eight groups of an address of version
6 may be shortened: the longest run of zero groups is written as two colons, and an embedded address
of version 4 keeps its own notation.
-/

namespace ClusterArchive.Http

/-- A socket address. -/
inductive Address
  | v4 (octets : List Nat) (port : Nat)
  | v6 (groups : List Nat) (zone port : Nat)
deriving DecidableEq, Repr

namespace Address

/-! ### Reading -/

/-- The decimal number at the head of a text, if it is below a bound, and the text behind it. -/
def decimal? (bound : Nat) (text : List Char) : Option (Nat × List Char) :=
  let digits := text.takeWhile Char.isDigit
  let n := Binary64.digitsValue digits
  if digits.isEmpty || bound ≤ n then none else some (n, text.drop digits.length)

/-- One number of an address of version 4: at most three digits, no zero in front of others. -/
def octet? (text : List Char) : Option (Nat × List Char) :=
  let digits := (text.take 3).takeWhile Char.isDigit
  let n := Binary64.digitsValue digits
  if digits.isEmpty || 256 ≤ n || (1 < digits.length && digits.head? == some '0') then none
  else some (n, text.drop digits.length)

/-- Removes one character from the head of a text. -/
def skip? (c : Char) : List Char → Option (List Char)
  | d :: rest => if c = d then some rest else none
  | [] => none

/-- The address of version 4 at the head of a text and the text behind it. -/
def octets? (text : List Char) : Option (List Nat × List Char) := do
  let (a, rest) ← octet? text
  let (b, rest) ← octet? (← skip? '.' rest)
  let (c, rest) ← octet? (← skip? '.' rest)
  let (d, rest) ← octet? (← skip? '.' rest)
  return ([a, b, c, d], rest)

/-- A group of an address of version 6: at most four hexadecimal digits. -/
def group? (text : List Char) : Option (Nat × List Char) :=
  let digits := (text.take 4).takeWhile fun c => (Text.hexDigit? c).isSome
  if digits.isEmpty then none
  else some (digits.foldl (fun n d => n * 16 + (Text.hexDigit? d).getD 0) 0,
    text.drop digits.length)

/-- The text behind the colon that stands in front of every group but the first. -/
def separated? (first : Bool) (text : List Char) : Option (List Char) :=
  if first then some text else skip? ':' text

/-- At most `limit` groups at the head of a text, whether the last two are an embedded address of
version 4, and the text behind them. -/
def groupsFrom (first : Bool) : Nat → List Char → List Nat × Bool × List Char
  | 0, text => ([], false, text)
  | limit + 1, text =>
    let embedded := if limit = 0 then none else (separated? first text).bind octets?
    match embedded with
    | some ([a, b, c, d], rest) => ([a * 256 + b, c * 256 + d], true, rest)
    | _ =>
      match (separated? first text).bind group? with
      | none => ([], false, text)
      | some (g, rest) =>
        let (groups, four, rest) := groupsFrom false limit rest
        (g :: groups, four, rest)

/-- The address of version 6 at the head of a text and the text behind it. -/
def groups? (text : List Char) : Option (List Nat × List Char) :=
  let (front, embedded, rest) := groupsFrom true 8 text
  if front.length = 8 then some (front, rest)
  else if embedded then none
  else
    match rest with
    | ':' :: ':' :: rest =>
      let (back, _, rest) := groupsFrom true (7 - front.length) rest
      some (front ++ List.replicate (8 - front.length - back.length) 0 ++ back, rest)
    | _ => none

/-- The port that a text stands for. -/
def port? (text : List Char) : Option Nat :=
  match decimal? 65536 text with
  | some (n, []) => some n
  | _ => none

/-- The zone at the head of a text, zero if there is none, and the text behind it. -/
def zone? : List Char → Option (Nat × List Char)
  | '%' :: rest => decimal? 0x100000000 rest
  | rest => some (0, rest)

/-- The socket address of version 6 behind its bracket. -/
def bracketed? (text : List Char) : Option Address := do
  let (groups, rest) ← groups? text
  let (zone, rest) ← zone? rest
  let port ← port? (← skip? ':' (← skip? ']' rest))
  return .v6 groups zone port

/-- The socket address that a text stands for. -/
def ofText? (text : List Char) : Option Address :=
  match text with
  | '[' :: rest => bracketed? rest
  | _ => do
    let (octets, rest) ← octets? text
    let port ← port? (← skip? ':' rest)
    return .v4 octets port

/-! ### Writing -/

/-- Parts of an address with a separator between them. -/
def joined (separator : Char) : List (List Char) → List Char
  | [] => []
  | [part] => part
  | part :: rest => part ++ separator :: joined separator rest

/-- The text of groups without shortening. -/
def groupsText (groups : List Nat) : List Char := joined ':' (groups.map (Nat.toDigits 16))

/-- The length of the run of zeros at the head of a list. -/
def zeroRun (groups : List Nat) : Nat := (groups.takeWhile (· == 0)).length

/-- Where the longest run of zero groups begins and how long it is; of several the first. -/
def longestRun (groups : List Nat) : Nat × Nat :=
  (List.range groups.length).foldl (fun best i =>
    let n := zeroRun (groups.drop i)
    if best.2 < n then (i, n) else best) (0, 0)

/-- The text of an address of version 4. -/
def octetsText (octets : List Nat) : List Char := joined '.' (octets.map Shortest.digits)

/-- The text of an address of version 6. -/
def addressText (groups : List Nat) : List Char :=
  match groups with
  | [0, 0, 0, 0, 0, 0xFFFF, a, b] =>
    [':', ':', 'f', 'f', 'f', 'f', ':'] ++ octetsText [a / 256, a % 256, b / 256, b % 256]
  | _ =>
    let (start, length) := longestRun groups
    if length ≤ 1 then groupsText groups
    else groupsText (groups.take start) ++ ':' :: ':' :: groupsText (groups.drop (start + length))

/-- The text of a socket address. -/
def text : Address → List Char
  | v4 octets port => octetsText octets ++ ':' :: Shortest.digits port
  | v6 groups zone port =>
    '[' :: addressText groups ++ (if zone = 0 then [] else '%' :: Shortest.digits zone) ++
      ']' :: ':' :: Shortest.digits port

end Address

end ClusterArchive.Http
