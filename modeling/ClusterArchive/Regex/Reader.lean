import ClusterArchive.Regex.Room

/-!
# Reading regular expressions

The text of a pattern: literals, classes, groups, flags, anchors and repetitions. Look-around and
back references are refused. Recursion is on a count that covers the length of the text.
-/

namespace ClusterArchive.Regex

/-- Settings that a pattern may change from within. -/
structure Flags where
  caseless : Bool
  multiLine : Bool
  dotAll : Bool
  crlf : Bool
  verbose : Bool
  unicode : Bool

namespace Flags

/-- The settings a pattern begins with. -/
def initial : Flags := ⟨false, false, false, false, false, true⟩

/-- A class with everything that the settings identify with its characters. -/
def fold (f : Flags) (c : Class) : Class := if f.caseless then .folded f.unicode c else c

/-- Changes the setting that a letter stands for. -/
def set? (f : Flags) (on : Bool) (letter : Char) : Option Flags :=
  match letter with
  | 'i' => some { f with caseless := on }
  | 'm' => some { f with multiLine := on }
  | 's' => some { f with dotAll := on }
  | 'R' => some { f with crlf := on }
  | 'x' => some { f with verbose := on }
  | 'u' => some { f with unicode := on }
  | 'U' => some f
  | _ => none

end Flags

/-- The text after blanks and comments, in verbose patterns. -/
def skipVerbose (fuel : Nat) (f : Flags) (text : List Char) : List Char :=
  if f.verbose then go fuel text else text
where
  go : Nat → List Char → List Char
    | 0, text => text
    | fuel + 1, text =>
      match text with
      | '#' :: rest => go fuel (rest.dropWhile (· != '\n'))
      | c :: rest => if Text.isBlank c then go fuel rest else text
      | [] => []

/-! ### Flags -/

/-- Reads flags up to `:` or `)`: the settings, whether a group follows, and the rest. `seen` holds
the letters so far, `off` whether a minus came, `dangling` whether it came last. -/
def flagsFrom (seen : List Char) (off dangling : Bool) (f : Flags) :
    List Char → Option (Flags × Bool × List Char)
  | [] => none
  | c :: rest =>
    if c = ':' then if dangling then none else some (f, true, rest)
    else if c = ')' then if dangling ∨ seen.isEmpty then none else some (f, false, rest)
    else if c = '-' then if off then none else flagsFrom seen true true f rest
    else if seen.contains c then none
    else
      match f.set? (!off) c with
      | some f => flagsFrom (c :: seen) off false f rest
      | none => none

/-- Whether the text can be the name of a group. -/
def isGroupName : List Char → Bool
  | [] => false
  | c :: rest =>
    let letter := fun d => d == '_' || alphabetic.contains d
    letter c && rest.all fun d =>
      letter d || d == '.' || d == '[' || d == ']' || (Class.category ["Nd", "Nl", "No"]).contains d

/-- Reads the name of a group with its closing bracket. -/
def nameFrom (text : List Char) : Option (List Char × List Char) :=
  match Text.cut '>' text with
  | (name, some rest) => if isGroupName name then some (name, rest) else none
  | _ => none

/-! ### Numbers -/

/-- The value of hexadecimal digits. -/
def hexValue? (digits : List Char) : Option Nat :=
  if digits.isEmpty then none
  else digits.foldl (fun n d => n.bind fun n => (Text.hexDigit? d).map (n * 16 + ·)) (some 0)

/-- The character with the given code. -/
def charOf? (n : Nat) : Option Char := if h : n.isValidChar then some (Char.ofNatAux n h) else none

/-- Reads the code of a character, in braces or with a fixed number of digits. -/
def codeFrom (width : Nat) (text : List Char) : Option (Char × List Char) :=
  match text with
  | '\x7b' :: rest =>
    match Text.cut '\x7d' rest with
    | (digits, some rest) => ((hexValue? digits).bind charOf?).map (·, rest)
    | _ => none
  | _ =>
    let digits := text.take width
    if digits.length = width then
      ((hexValue? digits).bind charOf?).map (·, text.drop width)
    else none

/-- Reads a decimal number of 32 bits with blanks around it. -/
def countFrom (text : List Char) : Option (Nat × List Char) :=
  let text := text.dropWhile Text.isBlank
  let digits := text.takeWhile fun c => '0' ≤ c ∧ c ≤ '9'
  let count := digits.foldl (fun n d => n * 10 + (d.toNat - 0x30)) 0
  if digits.isEmpty ∨ 0x100000000 ≤ count then none
  else some (count, (text.drop digits.length).dropWhile Text.isBlank)

/-- Reads the bounds of a repetition after its opening brace. -/
def boundsFrom (f : Flags) (text : List Char) : Option (Nat × Option Nat × List Char) :=
  match countFrom text with
  | some (low, '\x7d' :: rest) => some (low, some low, rest)
  | some (low, ',' :: rest) =>
    match skipVerbose rest.length f rest with
    | '\x7d' :: rest => some (low, none, rest)
    | rest =>
      match countFrom rest with
      | some (high, '\x7d' :: rest) => if low ≤ high then some (low, some high, rest) else none
      | _ => none
  | _ => none

/-! ### Escapes -/

/-- What stands behind a backslash. -/
inductive Escaped
  | literal (c : Char)
  | members (c : Class)
  | position (a : Anchor)

/-- Reads a property name after `p` or `P`. -/
def propertyFrom (negated : Bool) (text : List Char) : Option (Class × List Char) :=
  match text with
  | '\x7b' :: rest =>
    match Text.cut '\x7d' rest with
    | (name, some rest) =>
      let found : Option Class :=
        match Text.cut '=' name with
        | (n, some v) =>
          if ['!'].isSuffixOf n then
            (Class.propertyValue? (n.take (n.length - 1)) v).map Class.complement
          else Class.propertyValue? n v
        | _ =>
          match Text.cut ':' name with
          | (n, some v) => Class.propertyValue? n v
          | _ => Class.property? name
      found.map fun c => (c.negatedIf negated, rest)
    | _ => none
  | c :: rest => (Class.property? [c]).map fun k => (k.negatedIf negated, rest)
  | [] => none

/-- Reads the braces that may follow a word boundary: `none` inside for a repetition, which is left
in the text. -/
def boundaryFrom (unicode : Bool) (text : List Char) : Option (Anchor × List Char) :=
  match text with
  | '\x7b' :: rest =>
    match rest with
    | c :: _ =>
      if c.isAlpha ∨ c = '-' then
        match Text.cut '\x7d' rest with
        | (name, some rest) =>
          match String.ofList name with
          | "start" => some (.wordStart unicode, rest)
          | "end" => some (.wordEnd unicode, rest)
          | "start-half" => some (.wordStartHalf unicode, rest)
          | "end-half" => some (.wordEndHalf unicode, rest)
          | _ => none
        | _ => none
      else some (.wordBoundary unicode, text)
    | [] => none
  | _ => some (.wordBoundary unicode, text)

/-- Reads what stands behind a backslash. Classes that hold every byte outside ASCII are refused
when Unicode is off, and so is a byte outside ASCII. -/
def escapeFrom (f : Flags) (text : List Char) : Option (Escaped × List Char) :=
  let perl := fun (c : Class) (negated : Bool) (rest : List Char) =>
    if negated && !f.unicode then none else some (Escaped.members (c.negatedIf negated), rest)
  match text with
  | [] => none
  | c :: rest =>
    match c with
    | 'x' =>
      (codeFrom 2 rest).bind fun r =>
        if !f.unicode && 0x80 ≤ r.1.toNat && rest.head? != some '\x7b' then none
        else some (.literal r.1, r.2)
    | 'u' => (codeFrom 4 rest).map fun r => (.literal r.1, r.2)
    | 'U' => (codeFrom 8 rest).map fun r => (.literal r.1, r.2)
    | 'p' =>
      if f.unicode then (propertyFrom false rest).map fun r => (.members (f.fold r.1), r.2)
      else none
    | 'P' =>
      if f.unicode then
        (propertyFrom false rest).map fun r => (.members (.complement (f.fold r.1)), r.2)
      else none
    | 'd' => perl (.digit f.unicode) false rest
    | 'D' => perl (.digit f.unicode) true rest
    | 's' => perl (.space f.unicode) false rest
    | 'S' => perl (.space f.unicode) true rest
    | 'w' => perl (.word f.unicode) false rest
    | 'W' => perl (.word f.unicode) true rest
    | 'a' => some (.literal '\x07', rest)
    | 'f' => some (.literal '\x0C', rest)
    | 't' => some (.literal '\t', rest)
    | 'n' => some (.literal '\n', rest)
    | 'r' => some (.literal '\r', rest)
    | 'v' => some (.literal '\x0B', rest)
    | 'A' => some (.position .textStart, rest)
    | 'z' => some (.position .textEnd, rest)
    | 'b' => (boundaryFrom f.unicode rest).map fun r => (.position r.1, r.2)
    | 'B' => some (.position (.noWordBoundary f.unicode), rest)
    | '<' => some (.position (.wordStart f.unicode), rest)
    | '>' => some (.position (.wordEnd f.unicode), rest)
    | c => if c.toNat < 0x80 ∧ !c.isAlphanum then some (.literal c, rest) else none

/-! ### Classes in brackets -/

/-- How two parts of a bracketed class are combined. -/
inductive SetOperator
  | both
  | without
  | either

/-- The class of an operator and its operands. -/
def SetOperator.apply : SetOperator → Class → Class → Class
  | both => .both
  | without => .without
  | either => .either

/-- Reads `[:name:]` after its first bracket; gives whether it is negated as well. -/
def posixFrom (text : List Char) : Option (Class × Bool × List Char) :=
  match text with
  | ':' :: rest =>
    let (negated, rest) := match rest with
      | '^' :: rest => (true, rest)
      | _ => (false, rest)
    match Text.cut ':' rest with
    | (name, some (']' :: rest)) =>
      (Class.named? (String.ofList name)).map fun c => (c, negated, rest)
    | _ => none
  | _ => none

/-- Reads one item of a bracketed class: a literal, within ASCII when Unicode is off, or a class. -/
def itemFrom (f : Flags) (text : List Char) : Option ((Char ⊕ Class) × List Char) :=
  let character := fun (c : Char) (rest : List Char) =>
    if !f.unicode && 0x80 ≤ c.toNat then none else some (Sum.inl c, rest)
  match text with
  | '\\' :: rest =>
    match rest with
    | 'b' :: rest => some (.inl '\x08', rest)
    | _ =>
      match escapeFrom { f with caseless := false } rest with
      | some (.literal c, rest) => character c rest
      | some (.members c, rest) => some (.inr c, rest)
      | _ => none
  | c :: rest => character c rest
  | [] => none

/-- A bracketed class while it is read: the items since the last operator, and the operator with
what stands before it. -/
structure SetState where
  items : Class
  pending : Option (SetOperator × Class)

namespace SetState

/-- Adds an item. -/
def add (s : SetState) (c : Class) : SetState := { s with items := .union s.items c }

/-- The class of everything read so far. -/
def close (f : Flags) (s : SetState) : Class :=
  match s.pending with
  | none => s.items
  | some (op, left) => op.apply (f.fold left) (f.fold s.items)

/-- Begins the right operand of an operator. -/
def operator (f : Flags) (s : SetState) (op : SetOperator) : SetState :=
  ⟨.none, some (op, s.close f)⟩

end SetState

/-- The literal hyphens and the literal bracket that a bracketed class may begin with. -/
def leadingItems (text : List Char) : Class × List Char :=
  match text with
  | '-' :: _ => (.single '-', text.dropWhile (· == '-'))
  | ']' :: rest => (.single ']', rest)
  | _ => (.none, text)

/-- The range from one literal to another. -/
def rangeOf? (low high : Char ⊕ Class) : Option Class :=
  match low, high with
  | .inl a, .inl b => if a ≤ b then some (.range a.toNat b.toNat) else none
  | _, _ => none

/-- The class of an item. -/
def itemClass : Char ⊕ Class → Class
  | .inl c => .single c
  | .inr c => c

mutual
/-- Reads a bracketed class after its opening bracket. -/
def bracketFrom : Nat → Flags → List Char → Option (Class × List Char)
  | 0, _, _ => none
  | fuel + 1, f, text =>
    let text := skipVerbose fuel f text
    let (negated, text) := match text with
      | '^' :: rest => (true, skipVerbose fuel f rest)
      | _ => (false, text)
    if negated && !f.unicode then none
    else
      let (items, text) := leadingItems text
      (membersFrom fuel f ⟨items, none⟩ text).map fun r =>
        ((f.fold r.1).negatedIf negated, r.2)

/-- Reads the items of a bracketed class up to its closing bracket. -/
def membersFrom : Nat → Flags → SetState → List Char → Option (Class × List Char)
  | 0, _, _, _ => none
  | fuel + 1, f, state, text =>
    match skipVerbose fuel f text with
    | [] => none
    | ']' :: rest => some (state.close f, rest)
    | '&' :: '&' :: rest => membersFrom fuel f (state.operator f .both) rest
    | '-' :: '-' :: rest => membersFrom fuel f (state.operator f .without) rest
    | '~' :: '~' :: rest => membersFrom fuel f (state.operator f .either) rest
    | '[' :: rest =>
      match posixFrom rest with
      | some (c, negated, rest) =>
        if negated && !f.unicode then none
        else membersFrom fuel f (state.add (c.negatedIf negated)) rest
      | none =>
        match bracketFrom fuel f rest with
        | some (c, rest) => membersFrom fuel f (state.add c) rest
        | none => none
    | text =>
      match itemFrom f text with
      | none => none
      | some (low, rest) =>
        let rest := skipVerbose fuel f rest
        match rest with
        | '-' :: tail =>
          match skipVerbose fuel f tail with
          | ']' :: _ => membersFrom fuel f (state.add (itemClass low)) rest
          | '-' :: _ => membersFrom fuel f (state.add (itemClass low)) rest
          | tail =>
            match itemFrom f tail with
            | none => none
            | some (high, rest) =>
              match rangeOf? low high with
              | some c => membersFrom fuel f (state.add c) rest
              | none => none
        | _ => membersFrom fuel f (state.add (itemClass low)) rest
end

/-! ### Patterns -/

/-- A part of a sequence: a pattern, or a change of the settings for what follows. -/
inductive Part
  | pattern (p : Pattern)
  | setting (f : Flags)

/-- The pattern of a literal. -/
def literal (f : Flags) (c : Char) : Pattern := .one (f.fold (.single c))

/-- The class of a dot. -/
def dot (f : Flags) : Class :=
  if f.dotAll then .range 0 0x10FFFF
  else if f.crlf then .complement (.union (.single '\n') (.single '\r'))
  else .complement (.single '\n')

/-- Reads the repetition operators behind a pattern. -/
def repeatedFrom : Nat → Flags → Pattern → List Char → Option (Pattern × List Char)
  | 0, _, _, _ => none
  | fuel + 1, f, p, text =>
    let lazily := fun (rest : List Char) => match rest with
      | '?' :: rest => rest
      | rest => rest
    match skipVerbose fuel f text with
    | '*' :: rest => repeatedFrom fuel f (.times p 0 none) (lazily rest)
    | '+' :: rest => repeatedFrom fuel f (.times p 1 none) (lazily rest)
    | '?' :: rest => repeatedFrom fuel f (.times p 0 (some 1)) (lazily rest)
    | '\x7b' :: rest =>
      match boundsFrom f rest with
      | some (low, high, rest) => repeatedFrom fuel f (.times p low high) (lazily rest)
      | none => none
    | text => some (p, text)

mutual
/-- Reads alternatives up to a closing parenthesis or the end. -/
def choiceFrom : Nat → Flags → List Char → Option (Pattern × List Char)
  | 0, _, _ => none
  | fuel + 1, f, text =>
    match sequenceFrom fuel f .empty text with
    | none => none
    | some (p, f, '|' :: rest) =>
      match choiceFrom fuel f rest with
      | some (q, rest) => some (.choice p q, rest)
      | none => none
    | some (p, _, rest) => some (p, rest)

/-- Reads a sequence behind what was read of it; gives the settings at its end as well. -/
def sequenceFrom : Nat → Flags → Pattern → List Char → Option (Pattern × Flags × List Char)
  | 0, _, _, _ => none
  | fuel + 1, f, before, text =>
    match skipVerbose fuel f text with
    | [] => some (before, f, [])
    | '|' :: rest => some (before, f, '|' :: rest)
    | ')' :: rest => some (before, f, ')' :: rest)
    | text =>
      match partFrom fuel f text with
      | none => none
      | some (.setting f, rest) =>
        match skipVerbose fuel f rest with
        | '*' :: _ | '+' :: _ | '?' :: _ | '\x7b' :: _ => none
        | rest => sequenceFrom fuel f before rest
      | some (.pattern p, rest) =>
        match repeatedFrom (rest.length + 1) f p rest with
        | some (p, rest) => sequenceFrom fuel f (.sequence before p) rest
        | none => none

/-- Reads a literal, a class, an anchor, a group or a change of the settings. -/
def partFrom : Nat → Flags → List Char → Option (Part × List Char)
  | 0, _, _ => none
  | fuel + 1, f, text =>
    let group := fun (f : Flags) (rest : List Char) =>
      match choiceFrom fuel f rest with
      | some (p, ')' :: rest) => some (Part.pattern p, rest)
      | _ => none
    match text with
    | [] => none
    | '(' :: '?' :: rest =>
      match rest with
      | '=' :: _ | '!' :: _ => none
      | '<' :: '=' :: _ | '<' :: '!' :: _ => none
      | '<' :: rest | 'P' :: '<' :: rest =>
        match nameFrom rest with
        | none => none
        | some (name, rest) =>
          match choiceFrom fuel f rest with
          | some (p, ')' :: rest) => some (.pattern (.named name p), rest)
          | _ => none
      | rest =>
        match flagsFrom [] false false f rest with
        | some (g, true, rest) => group g rest
        | some (g, false, rest) => some (.setting g, rest)
        | none => none
    | '(' :: rest => group f rest
    | '[' :: rest => (bracketFrom fuel f rest).map fun r => (.pattern (.one r.1), r.2)
    | '.' :: rest => if f.unicode then some (.pattern (.one (dot f)), rest) else none
    | '^' :: rest =>
      some (.pattern (.anchored (if f.multiLine then .lineStart f.crlf else .textStart)), rest)
    | '$' :: rest =>
      some (.pattern (.anchored (if f.multiLine then .lineEnd f.crlf else .textEnd)), rest)
    | '*' :: _ | '+' :: _ | '?' :: _ | '\x7b' :: _ => none
    | '\\' :: rest =>
      match escapeFrom f rest with
      | some (.literal c, rest) => some (.pattern (literal f c), rest)
      | some (.members c, rest) => some (.pattern (.one c), rest)
      | some (.position a, rest) => some (.pattern (.anchored a), rest)
      | none => none
    | c :: rest => some (.pattern (literal f c), rest)
end

/-- The pattern that the text stands for under the given settings. Two groups may not have one name,
and the pattern may not take too much room. -/
def readWith? (f : Flags) (text : List Char) : Option Pattern :=
  match choiceFrom (4 * text.length + 4) f text with
  | some (p, []) => if p.names.Nodup ∧ p.room ≤ roomLimit then some p else none
  | _ => none

/-- The pattern that the text stands for. -/
def read? (text : List Char) : Option Pattern := readWith? .initial text

end ClusterArchive.Regex
