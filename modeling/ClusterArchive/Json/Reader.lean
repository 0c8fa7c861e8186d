import ClusterArchive.Json.Number
import ClusterArchive.Text.CodePoints
import ClusterArchive.Text.Utf8

/-!
# Reading values

The reader works on scalars, so ill-formed bytes reach it as `none` and are refused wherever text is
wanted. A reading function takes the input and gives what it read with the rest of the input. Values
may nest 127 deep. `skipValue` goes past a value of any depth without looking at what its strings
and numbers stand for.

Recursion is on a count that every step uses up; `budget` is enough for any input.
-/

namespace ClusterArchive.Json

/-- Input of the reader: characters and ill-formed pieces. -/
abbrev Input := List (Option Char)

/-- Space, tab, line feed and carriage return. -/
def isSpace (c : Option Char) : Bool :=
  c == some ' ' || c == some '\n' || c == some '\t' || c == some '\r'

/-- The input from its first character that is no space. -/
def skipSpace (input : Input) : Input := input.dropWhile isSpace

/-- The input after the given text, if it begins with it. -/
def after? : List Char → Input → Option Input
  | [], input => some input
  | c :: text, some d :: input => if c = d then after? text input else none
  | _ :: _, _ => none

/-! ### Strings -/

/-- Where the reader stands inside a string: in plain text, after a backslash, within the digits of
a code unit (of which `missing` are still to come, a leading surrogate being held in `leading`), or
after a leading surrogate, whose second half has to follow. -/
inductive StringState
  | plain
  | escape
  | unit (leading : Option Nat) (value missing : Nat)
  | halfway (leading : Nat) (backslash : Bool)

/-- The character behind a backslash, apart from `u`. -/
def simpleEscape? (c : Char) : Option Char :=
  match c with
  | '"' => some '"'
  | '\\' => some '\\'
  | '/' => some '/'
  | 'b' => some '\x08'
  | 'f' => some '\x0C'
  | 'n' => some '\n'
  | 'r' => some '\r'
  | 't' => some '\t'
  | _ => none

/-- What a finished code unit gives: a character, or a leading surrogate that waits for its second
half. -/
def finishUnit (leading : Option Nat) (value : Nat) : Option (Char ⊕ Nat) :=
  match leading with
  | none =>
    if 0xDC00 ≤ value ∧ value ≤ 0xDFFF then none
    else if 0xD800 ≤ value ∧ value ≤ 0xDBFF then some (.inr value)
    else some (.inl (Char.ofNat value))
  | some high =>
    if 0xDC00 ≤ value ∧ value ≤ 0xDFFF then
      some (.inl (Char.ofNat (0x10000 + (high - 0xD800) * 0x400 + (value - 0xDC00))))
    else none

/-- Reads the rest of a string; `done` holds its characters so far, the last one first. -/
def stringFrom (done : List Char) : StringState → Input → Option (List Char × Input)
  | _, [] => none
  | _, none :: _ => none
  | .plain, some c :: rest =>
    if c = '"' then some (done.reverse, rest)
    else if c = '\\' then stringFrom done .escape rest
    else if c.toNat < 0x20 then none
    else stringFrom (c :: done) .plain rest
  | .escape, some c :: rest =>
    if c = 'u' then stringFrom done (.unit none 0 4) rest
    else
      match simpleEscape? c with
      | some d => stringFrom (d :: done) .plain rest
      | none => none
  | .unit leading value missing, some c :: rest =>
    match Text.hexDigit? c with
    | none => none
    | some d =>
      let value := value * 16 + d
      if 1 < missing then stringFrom done (.unit leading value (missing - 1)) rest
      else
        match finishUnit leading value with
        | some (.inl ch) => stringFrom (ch :: done) .plain rest
        | some (.inr high) => stringFrom done (.halfway high false) rest
        | none => none
  | .halfway high backslash, some c :: rest =>
    if backslash then
      if c = 'u' then stringFrom done (.unit (some high) 0 4) rest else none
    else if c = '\\' then stringFrom done (.halfway high true) rest
    else none

/-- Reads a string after its opening quote. -/
def string (input : Input) : Option (String × Input) :=
  (stringFrom [] .plain input).map fun r => (String.ofList r.1, r.2)

/-- Goes past the rest of a string; the code units of its escapes need not make up characters. -/
def skipStringFrom : StringState → Input → Option Input
  | _, [] => none
  | .plain, c :: rest =>
    if c = some '"' then some rest
    else if c = some '\\' then skipStringFrom .escape rest
    else if c.any (·.toNat < 0x20) then none
    else skipStringFrom .plain rest
  | .escape, some c :: rest =>
    if c = 'u' then skipStringFrom (.unit none 0 4) rest
    else if (simpleEscape? c).isSome then skipStringFrom .plain rest
    else none
  | .unit leading value missing, some c :: rest =>
    match Text.hexDigit? c with
    | none => none
    | some _ =>
      if 1 < missing then skipStringFrom (.unit leading value (missing - 1)) rest
      else skipStringFrom .plain rest
  | _, _ => none

/-! ### Numbers -/

/-- The value of a decimal digit. -/
def digit? : Option Char → Option Nat
  | some c => if '0' ≤ c ∧ c ≤ '9' then some (c.toNat - 0x30) else none
  | none => none

/-- The decimal digits that the input begins with. -/
def digits : Input → List Nat × Input
  | [] => ([], [])
  | c :: rest =>
    match digit? c with
    | some d => let r := digits rest; (d :: r.1, r.2)
    | none => ([], c :: rest)

/-- Reads the digits before a point: a zero stands alone. -/
def wholeDigits (input : Input) : Option (List Nat × Input) :=
  match digits input with
  | ([], _) => none
  | ([d], rest) => some ([d], rest)
  | (0 :: _, _) => none
  | r => some r

/-- Reads the digits after a point, if there is one. -/
def fractionDigits (input : Input) : Option (Option (List Nat) × Input) :=
  match input with
  | some '.' :: rest =>
    match digits rest with
    | ([], _) => none
    | (ds, rest) => some (some ds, rest)
  | _ => some (none, input)

/-- Reads the digits of an exponent behind its sign. -/
def signedExponent (up : Bool) (input : Input) : Option (Option (Bool × List Nat) × Input) :=
  match digits input with
  | ([], _) => none
  | (ds, rest) => some (some (up, ds), rest)

/-- Reads an exponent, if there is one. -/
def exponentDigits (input : Input) : Option (Option (Bool × List Nat) × Input) :=
  match input with
  | some c :: rest =>
    if c = 'e' ∨ c = 'E' then
      match rest with
      | some '+' :: rest => signedExponent true rest
      | some '-' :: rest => signedExponent false rest
      | rest => signedExponent true rest
    else some (none, input)
  | _ => some (none, input)

/-- Reads the text of a number. -/
def numberText (input : Input) : Option (NumberText × Input) :=
  let (negative, input) := match input with
    | some '-' :: rest => (true, rest)
    | _ => (false, input)
  match wholeDigits input with
  | none => none
  | some (whole, input) =>
    match fractionDigits input with
    | none => none
    | some (fraction, input) =>
      match exponentDigits input with
      | none => none
      | some (exponent, input) => some (⟨negative, whole, fraction, exponent⟩, input)

/-- Reads a number. -/
def number (input : Input) : Option (Value × Input) :=
  match numberText input with
  | none => none
  | some (t, rest) => t.number?.map fun n => (.number n, rest)

/-! ### Values -/

/-- Whether a number may begin with the character. -/
def beginsNumber (c : Char) : Bool := c == '-' || ('0' ≤ c && c ≤ '9')

/-- Reads the name of a member and the colon behind it, the opening quote being next. -/
def memberName (input : Input) : Option (String × Input) :=
  match skipSpace input with
  | some '"' :: rest =>
    match string rest with
    | none => none
    | some (name, rest) =>
      match skipSpace rest with
      | some ':' :: rest => some (name, rest)
      | _ => none
  | _ => none

mutual
/-- Reads a value that may hold others nested less than `depth` deep. -/
def valueFrom : Nat → Nat → Input → Option (Value × Input)
  | 0, _, _ => none
  | fuel + 1, depth, input =>
    match skipSpace input with
    | some 'n' :: rest => (after? ['u', 'l', 'l'] rest).map (.null, ·)
    | some 't' :: rest => (after? ['r', 'u', 'e'] rest).map (.bool true, ·)
    | some 'f' :: rest => (after? ['a', 'l', 's', 'e'] rest).map (.bool false, ·)
    | some '"' :: rest => (string rest).map fun r => (.string r.1, r.2)
    | some '[' :: rest =>
      if depth ≤ 1 then none
      else
        match skipSpace rest with
        | some ']' :: rest => some (.array [], rest)
        | rest => (itemsFrom fuel (depth - 1) rest).map fun r => (.array r.1, r.2)
    | some '\x7b' :: rest =>
      if depth ≤ 1 then none
      else
        match skipSpace rest with
        | some '\x7d' :: rest => some (.object [], rest)
        | rest => (membersFrom fuel (depth - 1) rest).map fun r => (.ofMembers r.1, r.2)
    | some c :: rest => if beginsNumber c then number (some c :: rest) else none
    | _ => none

/-- Reads the items of an array, of which there is at least one. -/
def itemsFrom : Nat → Nat → Input → Option (List Value × Input)
  | 0, _, _ => none
  | fuel + 1, depth, input =>
    match valueFrom fuel depth input with
    | none => none
    | some (v, rest) =>
      match skipSpace rest with
      | some ',' :: rest => (itemsFrom fuel depth rest).map fun r => (v :: r.1, r.2)
      | some ']' :: rest => some ([v], rest)
      | _ => none

/-- Reads the members of an object, of which there is at least one. -/
def membersFrom : Nat → Nat → Input → Option (List (String × Value) × Input)
  | 0, _, _ => none
  | fuel + 1, depth, input =>
    match memberName input with
    | none => none
    | some (name, rest) =>
      match valueFrom fuel depth rest with
      | none => none
      | some (v, rest) =>
        match skipSpace rest with
        | some ',' :: rest => (membersFrom fuel depth rest).map fun r => ((name, v) :: r.1, r.2)
        | some '\x7d' :: rest => some ([(name, v)], rest)
        | _ => none
end

mutual
/-- Goes past a value. -/
def skipValueFrom : Nat → Input → Option Input
  | 0, _ => none
  | fuel + 1, input =>
    match skipSpace input with
    | some 'n' :: rest => after? ['u', 'l', 'l'] rest
    | some 't' :: rest => after? ['r', 'u', 'e'] rest
    | some 'f' :: rest => after? ['a', 'l', 's', 'e'] rest
    | some '"' :: rest => skipStringFrom .plain rest
    | some '[' :: rest =>
      match skipSpace rest with
      | some ']' :: rest => some rest
      | rest => skipItemsFrom fuel rest
    | some '\x7b' :: rest =>
      match skipSpace rest with
      | some '\x7d' :: rest => some rest
      | rest => skipMembersFrom fuel rest
    | some c :: rest =>
      if beginsNumber c then (numberText (some c :: rest)).map (·.2) else none
    | _ => none

/-- Goes past the items of an array. -/
def skipItemsFrom : Nat → Input → Option Input
  | 0, _ => none
  | fuel + 1, input =>
    match skipValueFrom fuel input with
    | none => none
    | some rest =>
      match skipSpace rest with
      | some ',' :: rest => skipItemsFrom fuel rest
      | some ']' :: rest => some rest
      | _ => none

/-- Goes past the members of an object. -/
def skipMembersFrom : Nat → Input → Option Input
  | 0, _ => none
  | fuel + 1, input =>
    match skipSpace input with
    | some '"' :: rest =>
      match skipStringFrom .plain rest with
      | none => none
      | some rest =>
        match skipSpace rest with
        | some ':' :: rest =>
          match skipValueFrom fuel rest with
          | none => none
          | some rest =>
            match skipSpace rest with
            | some ',' :: rest => skipMembersFrom fuel rest
            | some '\x7d' :: rest => some rest
            | _ => none
        | _ => none
    | _ => none
end

/-- Steps that are enough for any value within the input. -/
def budget (input : Input) : Nat := 2 * input.length + 2

/-- The number of containers that may be open at once, and one more. -/
def depthLimit : Nat := 128

/-- Reads a value at the given distance from the depth limit. -/
def value (depth : Nat) (input : Input) : Option (Value × Input) :=
  valueFrom (budget input) depth input

/-- Goes past a value. -/
def skipValue (input : Input) : Option Input := skipValueFrom (budget input) input

/-- Whether nothing but space is left. -/
def isDone (input : Input) : Bool := (skipSpace input).isEmpty

/-- The value that the whole input is the text of. -/
def read? (input : Input) : Option Value :=
  match value depthLimit input with
  | some (v, rest) => if isDone rest then some v else none
  | none => none

/-- The value written in a byte sequence. -/
def readBytes? (bytes : Bytes) : Option Value := read? (Utf8.scalars bytes)

/-- The value written in a text. -/
def readText? (text : List Char) : Option Value := read? (text.map some)

end ClusterArchive.Json
