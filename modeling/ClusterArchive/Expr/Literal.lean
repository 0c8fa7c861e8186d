import ClusterArchive.Decimal.Text
import ClusterArchive.Decimal.Word
import ClusterArchive.Expr.Syntax
import ClusterArchive.Text.CodePoints

/-!
# Literals

Numbers and quoted texts. A literal is recognised by its form alone; its value is worked out
afterwards and may turn out not to exist, as for a whole number that is too large or an unknown
escape.
-/

namespace ClusterArchive.Expr.Literal

/-! ### Numbers -/

/-- The length of a run of decimal digits. -/
def digitsLength (text : List Char) : Nat := (text.takeWhile Char.isDigit).length

/-- The length of an exponent, nothing if it has no digits. -/
def exponentLength (text : List Char) : Nat :=
  match text with
  | [] => 0
  | c :: rest =>
    if c = 'e' ∨ c = 'E' then
      let sign := match rest with
        | '+' :: _ | '-' :: _ => 1
        | _ => 0
      match digitsLength (rest.drop sign) with
      | 0 => 0
      | n + 1 => n + 2 + sign
    else 0

/-- The length of a double, nothing if there is none: a sign, digits, and a point with digits behind
it or an exponent or both. -/
def doubleLength (text : List Char) : Nat :=
  let sign := match text with
    | '+' :: _ | '-' :: _ => 1
    | _ => 0
  let text := text.drop sign
  let whole := digitsLength text
  match text.drop whole with
  | '.' :: rest =>
    match digitsLength rest with
    | 0 => 0
    | n + 1 => sign + whole + n + 2 + exponentLength (rest.drop (n + 1))
  | rest =>
    match whole, exponentLength rest with
    | 0, _ | _, 0 => 0
    | whole, exponent => sign + whole + exponent

/-- The length of a whole number, nothing if there is none. -/
def intLength (text : List Char) : Nat :=
  let sign := match text with
    | '-' :: _ => 1
    | _ => 0
  match digitsLength (text.drop sign) with
  | 0 => 0
  | n => sign + n

/-- The length of a hexadecimal number, nothing if there is none. -/
def hexLength (text : List Char) : Nat :=
  let sign := match text with
    | '-' :: _ => 1
    | _ => 0
  match text.drop sign with
  | '0' :: x :: rest =>
    if x = 'x' ∨ x = 'X' then
      match (rest.takeWhile fun c => (Text.hexDigit? c).isSome).length with
      | 0 => 0
      | n => sign + 2 + n
    else 0
  | _ => 0

/-- The length of a whole number marked as unsigned, whose mark stands behind one space. -/
def unsignedLength (length : Nat) (text : List Char) : Nat :=
  match length, text.drop length with
  | 0, _ => 0
  | n, ' ' :: 'u' :: _ | n, ' ' :: 'U' :: _ => n + 2
  | _, _ => 0

/-- The value of a whole number. -/
def intValue? (text : List Char) : Option Literal :=
  let (negative, digits) := Binary64.takeSign text
  let n : Int := Binary64.digitsValue digits
  let i := if negative then -n else n
  if Word.holdsSigned i then some (.int i) else none

/-- The number at the head of a text and the text behind it: the longest of the possible forms.
Hexadecimal and marked numbers stand for no value. -/
def number? (text : List Char) : Option (Option Literal × List Char) :=
  let whole := intLength text
  let hex := hexLength text
  let double := doubleLength text
  let other := max hex (max (unsignedLength whole text) (unsignedLength hex text))
  let length := max whole (max double other)
  if length = 0 then none
  else
    let value :=
      if length = other then none
      else if length = double then (Binary64.ofText? (text.take length)).map .double
      else intValue? (text.take length)
    some (value, text.drop length)

/-! ### Escapes -/

/-- The number written in exactly `count` hexadecimal digits, of which the first may be a plus sign
if others follow, and the text behind it. -/
def hexNumber? (count : Nat) (text : List Char) : Option (Nat × List Char) :=
  let digits := text.take count
  if digits.length < count then none
  else
    let digits := match digits with
      | '+' :: d :: rest => d :: rest
      | ds => ds
    (digits.foldl (fun n d => n.bind fun n => (Text.hexDigit? d).map (n * 16 + ·)) (some 0)).map
      fun n => (n, text.drop count)

/-- The number written in three octal digits of which the first is `first`, at most three, and the
text behind it. -/
def octalNumber? (first : Char) (text : List Char) : Option (Nat × List Char) :=
  let isOctal := fun c => decide ('0' ≤ c ∧ c ≤ '7')
  match text with
  | a :: b :: rest =>
    if first ≤ '3' ∧ isOctal first ∧ isOctal a ∧ isOctal b then
      some (Binary64.digitsValue [first] * 64 + Binary64.digitsValue [a] * 8 +
        Binary64.digitsValue [b], rest)
    else none
  | _ => none

/-- The character with a code point, unless it is that of a surrogate or too large. -/
def character? (n : Nat) : Option Char := if n.isValidChar then some (Char.ofNat n) else none

/-- The characters that an escape stands for in a text between the given quotes, and the text behind
it. Of an escaped quote of the other kind the backslash stays. -/
def escape? (quote : Char) : List Char → Option (List Char × List Char)
  | [] => none
  | c :: rest =>
    let code := fun (n : Option (Nat × List Char)) =>
      n.bind fun n => (character? n.1).map fun d => ([d], n.2)
    match c with
    | 'a' => some (['\x07'], rest)
    | 'b' => some (['\x08'], rest)
    | 'v' => some (['\x0B'], rest)
    | 'f' => some (['\x0C'], rest)
    | 'n' => some (['\n'], rest)
    | 'r' => some (['\r'], rest)
    | 't' => some (['\t'], rest)
    | '\\' | '?' | '\x60' => some ([c], rest)
    | '\'' | '"' => some (if c = quote then [c] else ['\\', c], rest)
    | 'x' => code (hexNumber? 2 rest)
    | 'u' => code (hexNumber? 4 rest)
    | 'U' => code (hexNumber? 8 rest)
    | _ => code (octalNumber? c rest)

/-- The text that stands between quotes, of at most `count` characters. -/
def unescapeFrom (quote : Char) : Nat → List Char → Option (List Char)
  | _, [] => some []
  | 0, _ => none
  | count + 1, '\\' :: rest =>
    (escape? quote rest).bind fun e => (unescapeFrom quote count e.2).map (e.1 ++ ·)
  | count + 1, c :: rest => (unescapeFrom quote count rest).map (c :: ·)

/-- The text between quotes with its escapes resolved. -/
def unescape? (quote : Char) (text : List Char) : Option (List Char) :=
  unescapeFrom quote text.length text

/-- The text between quotes of which a backslash is dropped only before the enclosing quote. -/
def unescapeRaw (quote : Char) : List Char → List Char
  | '\\' :: c :: rest =>
    if c = quote then c :: unescapeRaw quote rest else '\\' :: c :: unescapeRaw quote rest
  | c :: rest => c :: unescapeRaw quote rest
  | [] => []

/-- The bytes that stand between quotes, of at most `count` characters; only numeric escapes of two
hexadecimal or three octal digits are known. -/
def bytesFrom : Nat → List Char → Option Bytes
  | _, [] => some []
  | 0, _ => none
  | count + 1, '\\' :: 'x' :: rest =>
    (hexNumber? 2 rest).bind fun n => (bytesFrom count n.2).map (UInt8.ofNat n.1 :: ·)
  | count + 1, '\\' :: c :: rest =>
    (octalNumber? c rest).bind fun n => (bytesFrom count n.2).map (UInt8.ofNat n.1 :: ·)
  | count + 1, c :: rest => (bytesFrom count rest).map (Utf8.encode [c] ++ ·)

/-! ### Quoted texts -/

/-- The text up to the closing quote and the text behind it. A backslash takes the next character
with it, which may not be a line end; other line ends are allowed if `lines`. -/
def untilQuote? (quote : Char) (lines : Bool) : List Char → Option (List Char × List Char)
  | [] => none
  | '\\' :: c :: rest =>
    if c = '\n' then none else (untilQuote? quote lines rest).map fun r => ('\\' :: c :: r.1, r.2)
  | c :: rest =>
    if c = quote then some ([], rest)
    else if c = '\\' ∨ (c = '\n' ∧ !lines) then none
    else (untilQuote? quote lines rest).map fun r => (c :: r.1, r.2)

/-- Whether a character is a quote. -/
def isQuote (c : Char) : Bool := c == '\'' || c == '"'

/-- The quoted literal at the head of a text and the text behind it; `r` and `R` mark a raw one, `b`
a sequence of bytes. -/
def quoted? (text : List Char) : Option (Option Literal × List Char) :=
  match text with
  | [] => none
  | c :: rest =>
    if isQuote c then
      (untilQuote? c true rest).map fun r =>
        ((unescape? c r.1).map fun t => .string (String.ofList t), r.2)
    else
      match rest with
      | [] => none
      | q :: rest =>
        if !isQuote q then none
        else if c = 'r' ∨ c = 'R' then
          (untilQuote? q true rest).map fun r =>
            (some (.string (String.ofList (unescapeRaw q r.1))), r.2)
        else if c = 'b' then
          (untilQuote? q false rest).map fun r => ((bytesFrom r.1.length r.1).map .bytes, r.2)
        else none

end ClusterArchive.Expr.Literal
