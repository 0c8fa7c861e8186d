import ClusterArchive.Yaml.Scalar.Folding

/-!
# Quoted scalars

Text in single quotes, where a quote is written twice, or in double quotes, where a backslash begins
an escape.
-/

namespace ClusterArchive.Yaml.Quoted

/-- The character of an escape of one letter. -/
def simpleEscape? (c : Char) : Option Char :=
  match c with
  | '0' => some '\x00'
  | 'a' => some '\x07'
  | 'b' => some '\x08'
  | 't' | '\t' => some '\t'
  | 'n' => some '\n'
  | 'v' => some '\x0B'
  | 'f' => some '\x0C'
  | 'r' => some '\r'
  | 'e' => some '\x1B'
  | ' ' => some ' '
  | '"' => some '"'
  | '/' => some '/'
  | '\\' => some '\\'
  | 'N' => some '\u0085'
  | '_' => some '\u00A0'
  | 'L' => some '\u2028'
  | 'P' => some '\u2029'
  | _ => none

/-- How many hexadecimal digits follow the letter of an escape. -/
def codeLength? (c : Char) : Option Nat :=
  match c with
  | 'x' => some 2
  | 'u' => some 4
  | 'U' => some 8
  | _ => none

/-- The value of hexadecimal digits. -/
def hexValue? (digits : List Char) : Option Nat :=
  digits.foldl (fun n d => n.bind fun n => (Text.hexDigit? d).map (n * 16 + ·)) (some 0)

/-- Takes an escape after its backslash. -/
def readEscape (c : Cursor) : Option (Char × Cursor) :=
  match c.at? 0 with
  | none => none
  | some d =>
    match simpleEscape? d with
    | some e => some (e, c.skip 1)
    | none =>
      match codeLength? d with
      | none => none
      | some n =>
        let digits := (c.rest.drop 1).take n
        if digits.length = n then
          match hexValue? digits with
          | some v => if h : v.isValidChar then some (Char.ofNatAux v h, c.skip (n + 1)) else none
          | none => none
        else none

/-- Takes text up to white space or the closing quote; `done` holds it, the last character first.
The flag tells whether the line ended with a backslash. -/
def readText (single : Bool) : Nat → List Char → Cursor → Option (List Char × Bool × Cursor)
  | 0, _, _ => none
  | fuel + 1, done, c =>
    match c.at? 0 with
    | none => some (done, false, c)
    | some d =>
      if isBlank d || isBreak d then some (done, false, c)
      else if single then
        if d == '\'' then
          if c.at? 1 == some '\'' then readText single fuel ('\'' :: done) (c.skip 2)
          else some (done, false, c)
        else readText single fuel (d :: done) (c.skip 1)
      else if d == '"' then some (done, false, c)
      else if d == '\\' then
        if (c.at? 1).any isBreak then some (done, true, (c.skip 1).takeBreak.2)
        else
          match readEscape (c.skip 1) with
          | some (e, c) => readText single fuel (e :: done) c
          | none => none
      else readText single fuel (d :: done) (c.skip 1)

/-- Takes pieces of text and the white space between, up to the closing quote. -/
def readFrom (single : Bool) : Nat → List Char → Cursor → Option (List Char × Cursor)
  | 0, _, _ => none
  | fuel + 1, done, c =>
    if c.atDocumentMarker || c.atEnd then none
    else
      match readText single (fuel + 1) [] c with
      | none => none
      | some (piece, escaped, c) =>
        let done := piece ++ done
        if c.sees (if single then '\'' else '"') then some (done, c.skip 1)
        else
          match Gap.read none (fuel + 1) ⟨[], escaped, [], []⟩ c with
          | some (gap, c) => readFrom single fuel (gap.text.reverse ++ done) c
          | none => none

/-- Takes a quoted scalar, its opening quote being next. -/
def read (single : Bool) (c : Cursor) : Option (String × Cursor) :=
  (readFrom single (c.rest.length + 1) [] (c.skip 1)).map fun r => (String.ofList r.1.reverse, r.2)

end ClusterArchive.Yaml.Quoted
