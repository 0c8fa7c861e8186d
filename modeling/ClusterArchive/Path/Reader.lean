import ClusterArchive.Decimal.Word
import ClusterArchive.Json.Reader
import ClusterArchive.Path.Syntax

/-!
# Reading path expressions

The grammar of path expressions. Blanks may stand between segments, around selectors, commas, colons
and operators, but not inside a segment's dots and name. A comparison takes literals, paths to one
value at most and functions that give a value; a test takes any path and the two matching functions.

A reading function takes the text and gives what it read with the rest. Recursion is on a count that
covers the length of the text.
-/

namespace ClusterArchive.Path

open Json (Value)

/-- Text that a reading function takes. -/
abbrev Source := List Char

/-- Space, tab, line feed and carriage return. -/
def isSpace (c : Char) : Bool := c == ' ' || c == '\t' || c == '\n' || c == '\r'

/-- The text from its first character that is no blank. -/
def skipSpace (s : Source) : Source := s.dropWhile isSpace

/-! ### Names and strings -/

/-- Whether a member name without quotes may begin with the character. -/
def beginsName (c : Char) : Bool := c.isAlpha || c == '_' || 0x80 ≤ c.toNat

/-- Whether a member name without quotes may contain the character. -/
def continuesName (c : Char) : Bool := beginsName c || c.isDigit

/-- Reads a member name without quotes. -/
def nameFrom (s : Source) : Option (String × Source) :=
  match s with
  | c :: _ =>
    if beginsName c then
      some (String.ofList (s.takeWhile continuesName), s.dropWhile continuesName)
    else none
  | [] => none

/-- The value of four hexadecimal digits. -/
def unitValue? (a b c d : Char) : Option Nat :=
  match Text.hexDigit? a, Text.hexDigit? b, Text.hexDigit? c, Text.hexDigit? d with
  | some a, some b, some c, some d => some (((a * 16 + b) * 16 + c) * 16 + d)
  | _, _, _, _ => none

/-- Whether the digits can begin the code of a character that is no surrogate; letters that come
first are capital. -/
def beginsScalar (a b : Char) : Bool :=
  ('0' ≤ a && a ≤ '9') || ['A', 'B', 'C', 'E', 'F'].contains a || (a == 'D' && '0' ≤ b && b ≤ '7')

/-- Reads the code of a character after `\u`. -/
def codeFrom (s : Source) : Option (Char × Source) :=
  match s with
  | a :: b :: c :: d :: rest =>
    match unitValue? a b c d with
    | none => none
    | some n =>
      if beginsScalar a b then some (Char.ofNat n, rest)
      else if a = 'D' ∧ ['8', '9', 'A', 'B'].contains b then
        match rest with
        | '\\' :: 'u' :: 'D' :: f :: g :: h :: rest =>
          if ['C', 'D', 'E', 'F'].contains f then
            (unitValue? 'D' f g h).map fun m =>
              (Char.ofNat (0x10000 + (n - 0xD800) * 0x400 + (m - 0xDC00)), rest)
          else none
        | _ => none
      else none
  | _ => none

/-- The character behind a backslash, within the given quotes. -/
def escapeFrom (quote : Char) (s : Source) : Option (Char × Source) :=
  match s with
  | [] => none
  | c :: rest =>
    if c = quote ∨ c = '\\' ∨ c = '/' then some (c, rest)
    else
      match c with
      | 'b' => some ('\x08', rest)
      | 'f' => some ('\x0C', rest)
      | 'n' => some ('\n', rest)
      | 'r' => some ('\r', rest)
      | 't' => some ('\t', rest)
      | 'u' => codeFrom rest
      | _ => none

/-- Reads the rest of a string up to its closing quote; `done` holds its characters, the last
first. -/
def stringFrom (quote : Char) : Nat → List Char → Source → Option (String × Source)
  | 0, _, _ => none
  | fuel + 1, done, s =>
    match s with
    | [] => none
    | c :: rest =>
      if c = quote then some (String.ofList done.reverse, rest)
      else if c = '\\' then
        match escapeFrom quote rest with
        | some (d, rest) => stringFrom quote fuel (d :: done) rest
        | none => none
      else if c.toNat < 0x20 then none
      else stringFrom quote fuel (c :: done) rest

/-- Reads a string in quotes of either kind. -/
def quotedFrom (s : Source) : Option (String × Source) :=
  match s with
  | '"' :: rest => stringFrom '"' s.length [] rest
  | '\'' :: rest => stringFrom '\'' s.length [] rest
  | _ => none

/-! ### Numbers -/

/-- Reads a whole number without leading zeros, within 64 bits. -/
def integerFrom (s : Source) : Option (Int × Source) :=
  let (negative, t) := match s with
    | '-' :: rest => (true, rest)
    | _ => (false, s)
  let digits := t.takeWhile Char.isDigit
  let rest := t.dropWhile Char.isDigit
  let n : Nat := digits.foldl (fun n d => n * 10 + (d.toNat - 0x30)) 0
  match digits with
  | [] => none
  | '0' :: more => if negative ∨ !more.isEmpty then none else some (0, rest)
  | _ =>
    let i : Int := if negative then -n else n
    if Word.holdsSigned i then some (i, rest) else none

/-- Reads the end or the step of a slice, which may be left out, and the blanks after it. -/
def boundFrom (s : Source) : Option Int × Source :=
  match integerFrom s with
  | some (i, rest) => (some i, skipSpace rest)
  | none => (none, s)

/-- Reads an index or a slice. -/
def positionsFrom (s : Source) : Option (Selector × Source) :=
  let (start, rest) := boundFrom s
  match rest with
  | ':' :: rest =>
    let (stop, rest) := boundFrom (skipSpace rest)
    match rest with
    | ':' :: rest =>
      let (step, rest) := boundFrom (skipSpace rest)
      some (.slice start stop step, rest)
    | _ => some (.slice start stop none, rest)
  | _ => (integerFrom s).map fun r => (.index r.1, r.2)

/-! ### Operands -/

/-- What may stand where a value, a path or a test is wanted. -/
inductive Term
  | operand (a : Operand)
  | query (q : Query)
  | test (c : Condition)

/-- The term as an operand: paths that may lead to several values are none. -/
def Term.operand? : Term → Option Operand
  | operand a => some a
  | query q => if q.isSingular then some (.single q) else none
  | test _ => none

/-- The term as a condition. -/
def Term.condition? : Term → Option Condition
  | operand _ => none
  | query q => some (.present q)
  | test c => some c

/-- The function of the given name applied to the terms. -/
def applyFunction? (name : String) (args : List Term) : Option Term :=
  match name, args with
  | "length", [a] => a.operand?.map fun a => .operand (.length a)
  | "count", [.query q] => some (.operand (.count q))
  | "value", [.query q] => some (.operand (.value q))
  | "match", [a, b] =>
    a.operand?.bind fun a => b.operand?.map fun b => .test (.matching true a b)
  | "search", [a, b] =>
    a.operand?.bind fun a => b.operand?.map fun b => .test (.matching false a b)
  | _, _ => none

/-- Reads a literal. -/
def literalFrom (s : Source) : Option (Value × Source) :=
  match s with
  | '"' :: _ | '\'' :: _ => (quotedFrom s).map fun r => (.string r.1, r.2)
  | 't' :: 'r' :: 'u' :: 'e' :: rest => some (.bool true, rest)
  | 'f' :: 'a' :: 'l' :: 's' :: 'e' :: rest => some (.bool false, rest)
  | 'n' :: 'u' :: 'l' :: 'l' :: rest => some (.null, rest)
  | _ =>
    match Json.number (s.map some) with
    | some (v, rest) => some (v, s.drop (s.length - rest.length))
    | none => none

/-- Reads a comparison operator. -/
def comparisonFrom (s : Source) : Option (Comparison × Source) :=
  match s with
  | '=' :: '=' :: rest => some (.eq, rest)
  | '!' :: '=' :: rest => some (.ne, rest)
  | '<' :: '=' :: rest => some (.le, rest)
  | '>' :: '=' :: rest => some (.ge, rest)
  | '<' :: rest => some (.lt, rest)
  | '>' :: rest => some (.gt, rest)
  | _ => none

/-- Whether a function name may contain the character, apart from its first place. -/
def continuesFunction (c : Char) : Bool := c.isLower || c == '_' || c.isDigit

/-! ### Paths -/

mutual
/-- Reads segments as long as there are any. -/
def segmentsFrom : Nat → Source → Option (List Segment × Source)
  | 0, _ => none
  | fuel + 1, s =>
    match skipSpace s with
    | '.' :: '.' :: rest =>
      match rest with
      | '*' :: rest => (segmentsFrom fuel rest).map fun r => (.descendants [.wildcard] :: r.1, r.2)
      | '[' :: rest =>
        match selectorsFrom fuel rest with
        | some (ss, rest) => (segmentsFrom fuel rest).map fun r => (.descendants ss :: r.1, r.2)
        | none => none
      | _ =>
        match nameFrom rest with
        | some (n, rest) =>
          (segmentsFrom fuel rest).map fun r => (.descendants [.name n] :: r.1, r.2)
        | none => none
    | '.' :: rest =>
      match rest with
      | '*' :: rest => (segmentsFrom fuel rest).map fun r => (.children [.wildcard] :: r.1, r.2)
      | _ =>
        match nameFrom rest with
        | some (n, rest) => (segmentsFrom fuel rest).map fun r => (.children [.name n] :: r.1, r.2)
        | none => none
    | '[' :: rest =>
      match selectorsFrom fuel rest with
      | some (ss, rest) => (segmentsFrom fuel rest).map fun r => (.children ss :: r.1, r.2)
      | none => none
    | _ => some ([], s)

/-- Reads the selectors between brackets, of which there is at least one. -/
def selectorsFrom : Nat → Source → Option (List Selector × Source)
  | 0, _ => none
  | fuel + 1, s =>
    match selectorFrom fuel (skipSpace s) with
    | none => none
    | some (sel, rest) =>
      match skipSpace rest with
      | ',' :: rest => (selectorsFrom fuel rest).map fun r => (sel :: r.1, r.2)
      | ']' :: rest => some ([sel], rest)
      | _ => none

/-- Reads a selector. -/
def selectorFrom : Nat → Source → Option (Selector × Source)
  | 0, _ => none
  | fuel + 1, s =>
    match s with
    | '*' :: rest => some (.wildcard, rest)
    | '?' :: rest => (orFrom fuel (skipSpace rest)).map fun r => (.filter r.1, r.2)
    | '"' :: _ | '\'' :: _ => (quotedFrom s).map fun r => (.name r.1, r.2)
    | _ => positionsFrom s

/-- Reads conditions of which one has to hold. -/
def orFrom : Nat → Source → Option (Condition × Source)
  | 0, _ => none
  | fuel + 1, s =>
    match andFrom fuel s with
    | none => none
    | some (a, rest) =>
      match skipSpace rest with
      | '|' :: '|' :: tail => (orFrom fuel (skipSpace tail)).map fun r => (.or a r.1, r.2)
      | _ => some (a, rest)

/-- Reads conditions all of which have to hold. -/
def andFrom : Nat → Source → Option (Condition × Source)
  | 0, _ => none
  | fuel + 1, s =>
    match basicFrom fuel s with
    | none => none
    | some (a, rest) =>
      match skipSpace rest with
      | '&' :: '&' :: tail => (andFrom fuel (skipSpace tail)).map fun r => (.and a r.1, r.2)
      | _ => some (a, rest)

/-- Reads a condition in parentheses after the opening one. -/
def parenthesizedFrom : Nat → Source → Option (Condition × Source)
  | 0, _ => none
  | fuel + 1, s =>
    match orFrom fuel (skipSpace s) with
    | none => none
    | some (c, rest) =>
      match skipSpace rest with
      | ')' :: rest => some (c, rest)
      | _ => none

/-- Reads a condition without connectives. -/
def basicFrom : Nat → Source → Option (Condition × Source)
  | 0, _ => none
  | fuel + 1, s =>
    match s with
    | '(' :: rest => parenthesizedFrom fuel rest
    | '!' :: rest =>
      match skipSpace rest with
      | '(' :: rest => (parenthesizedFrom fuel rest).map fun r => (.not r.1, r.2)
      | rest =>
        match termFrom fuel rest with
        | some (t, rest) => t.condition?.map fun c => (.not c, rest)
        | none => none
    | _ =>
      match termFrom fuel s with
      | none => none
      | some (left, rest) =>
        match comparisonFrom (skipSpace rest) with
        | none => left.condition?.map fun c => (c, rest)
        | some (op, tail) =>
          match termFrom fuel (skipSpace tail) with
          | none => none
          | some (right, rest) =>
            left.operand?.bind fun l => right.operand?.map fun r => (.compare l op r, rest)

/-- Reads a literal, a path or a function. -/
def termFrom : Nat → Source → Option (Term × Source)
  | 0, _ => none
  | fuel + 1, s =>
    match s with
    | '@' :: rest => (segmentsFrom fuel rest).map fun r => (.query (.mk false r.1), r.2)
    | '$' :: rest => (segmentsFrom fuel rest).map fun r => (.query (.mk true r.1), r.2)
    | _ =>
      match literalFrom s with
      | some (v, rest) => some (.operand (.literal v), rest)
      | none =>
        match s with
        | c :: _ =>
          if c.isLower then
            match s.dropWhile continuesFunction with
            | '(' :: rest =>
              let name := String.ofList (s.takeWhile continuesFunction)
              match argumentsFrom fuel (skipSpace rest) with
              | some (args, rest) => (applyFunction? name args).map (·, rest)
              | none => none
            | _ => none
          else none
        | [] => none

/-- Reads the arguments of a function up to the closing parenthesis. -/
def argumentsFrom : Nat → Source → Option (List Term × Source)
  | 0, _ => none
  | fuel + 1, s =>
    match s with
    | ')' :: rest => some ([], rest)
    | _ =>
      match termFrom fuel s with
      | none => none
      | some (t, rest) =>
        match skipSpace rest with
        | ',' :: rest =>
          match skipSpace rest with
          | ')' :: _ => none
          | rest => (argumentsFrom fuel rest).map fun r => (t :: r.1, r.2)
        | ')' :: rest => some ([t], rest)
        | _ => none
end

/-- The path that the whole text stands for. -/
def Query.read? (text : Source) : Option Query :=
  match text with
  | '$' :: rest =>
    match segmentsFrom (8 * text.length + 8) rest with
    | some (segments, []) => some (.mk true segments)
    | _ => none
  | _ => none

end ClusterArchive.Path
