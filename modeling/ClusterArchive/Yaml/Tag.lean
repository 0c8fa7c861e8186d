import ClusterArchive.Text.Utf8
import ClusterArchive.Yaml.Cursor
import ClusterArchive.Yaml.Token

/-!
# Tags, anchors and directives

The short texts that begin with an indicator: anchors and aliases, tags, and the directives that a
document may begin with.
-/

namespace ClusterArchive.Yaml

/-! ### Anchors -/

/-- Takes the name of an anchor or alias after its indicator. -/
def readAnchor (c : Cursor) : Option (String × Cursor) :=
  let name := c.rest.takeWhile isWordChar
  let c := c.skip name.length
  let ends := c.blankAt 0 || (c.at? 0).any fun d =>
    ['?', ':', ',', ']', '\x7d', '%', '@', '\x60'].contains d
  if name.isEmpty || !ends then none else some (String.ofList name, c)

/-! ### Tags -/

/-- Whether a tag may contain the character; a tag in angle brackets may contain more. -/
def isTagChar (verbatim : Bool) (c : Char) : Bool :=
  isWordChar c ||
    [';', '/', '?', ':', '@', '&', '=', '+', '$', '.', '%', '!', '~', '*', '\'',
      '(', ')'].contains c ||
    (verbatim && [',', '[', ']'].contains c)

/-- Takes the bytes of an escape, `%` and two digits each. -/
def readOctets : Nat → Cursor → Option (Bytes × Cursor)
  | 0, c => some ([], c)
  | n + 1, c =>
    match c.at? 0, (c.at? 1).bind Text.hexDigit?, (c.at? 2).bind Text.hexDigit? with
    | some '%', some a, some b =>
      (readOctets n (c.skip 3)).map fun r => (UInt8.ofNat (a * 16 + b) :: r.1, r.2)
    | _, _, _ => none

/-- How many bytes a character takes whose first byte is given. -/
def octetCount? (b : UInt8) : Option Nat :=
  if b < 0x80 then some 1
  else if 0xC0 ≤ b ∧ b < 0xE0 then some 2
  else if 0xE0 ≤ b ∧ b < 0xF0 then some 3
  else if 0xF0 ≤ b ∧ b < 0xF8 then some 4
  else none

/-- Takes an escaped character of a tag. -/
def readTagEscape (c : Cursor) : Option (List Char × Cursor) :=
  match readOctets 1 c with
  | some ([b], _) =>
    match octetCount? b with
    | some n =>
      match readOctets n c with
      | some (bytes, c) => (Utf8.decode? bytes).map (·, c)
      | none => none
    | none => none
  | _ => none

/-- Takes the characters of a tag; `done` holds them, the last first. -/
def readTagChars (verbatim : Bool) : Nat → List Char → Cursor → Option (List Char × Cursor)
  | 0, _, _ => none
  | fuel + 1, done, c =>
    match c.at? 0 with
    | none => some (done.reverse, c)
    | some d =>
      if !isTagChar verbatim d then some (done.reverse, c)
      else if d == '%' then
        match readTagEscape c with
        | some (ds, c) => readTagChars verbatim fuel (ds.reverse ++ done) c
        | none => none
      else readTagChars verbatim fuel (d :: done) (c.skip 1)

/-- Takes the rest of a tag that begins with `head`, of which the leading `!` does not count.
Something has to be there. -/
def readTagRest (verbatim : Bool) (head : List Char) (c : Cursor) : Option (String × Cursor) :=
  match readTagChars verbatim (c.rest.length + 1) [] c with
  | some (cs, c) =>
    if head.isEmpty && cs.isEmpty then none else some (String.ofList (head.drop 1 ++ cs), c)
  | none => none

/-- Takes a handle: `!`, and a word and another `!` if there are. -/
def readHandle (c : Cursor) : List Char × Cursor :=
  let name := (c.rest.drop 1).takeWhile isWordChar
  let c := c.skip (1 + name.length)
  if c.sees '!' then ('!' :: (name ++ ['!']), c.skip 1) else ('!' :: name, c)

/-- Whether the text is a handle with a name, or `!!`. -/
def isNamedHandle (handle : List Char) : Bool := 1 < handle.length && handle.getLast? == some '!'

/-- Takes a tag, its `!` being next. -/
def readTag (inFlow : Bool) (c : Cursor) : Option (TagText × Cursor) :=
  let found : Option (TagText × Cursor) :=
    if c.at? 1 == some '<' then
      match readTagRest true [] (c.skip 2) with
      | some (suffix, c) => if c.sees '>' then some (⟨"", suffix⟩, c.skip 1) else none
      | none => none
    else
      let (handle, next) := readHandle c
      if isNamedHandle handle then
        (readTagRest false [] next).map fun r => (⟨String.ofList handle, r.1⟩, r.2)
      else
        (readTagRest false handle next).map fun r =>
          if r.1.isEmpty then (⟨"", "!"⟩, r.2) else (⟨"!", r.1⟩, r.2)
  match found with
  | some (tag, c) => if (inFlow && c.sees ',') || c.blankAt 0 then some (tag, c) else none
  | none => none

/-! ### Directives -/

/-- Takes a number of at most nine digits. -/
def readVersionPart (c : Cursor) : Option (Nat × Cursor) :=
  let digits := c.rest.takeWhile Char.isDigit
  if digits.isEmpty || 9 < digits.length then none
  else some (digits.foldl (fun n d => n * 10 + (d.toNat - 0x30)) 0, c.skip digits.length)

/-- Takes the version of a version directive. -/
def readVersion (c : Cursor) : Option (Token × Cursor) :=
  match readVersionPart (c.skipWhile isBlank) with
  | some (major, c) =>
    if c.sees '.' then
      (readVersionPart (c.skip 1)).map fun r => (.versionDirective major r.1, r.2)
    else none
  | none => none

/-- Takes the handle of a tag directive and what it stands for. -/
def readTagDirective (c : Cursor) : Option (Token × Cursor) :=
  let c := c.skipWhile isBlank
  if !c.sees '!' then none
  else
    let (handle, c) := readHandle c
    if !(handle.length = 1 || isNamedHandle handle) || !c.seesBlank then none
    else
      match readTagRest true [] (c.skipWhile isBlank) with
      | some (expansion, c) =>
        if c.blankAt 0 then some (.tagDirective (String.ofList handle) expansion, c) else none
      | none => none

/-- Takes a directive with its line, the percent sign being next. -/
def readDirective (c : Cursor) : Option (Token × Cursor) :=
  let c := c.skip 1
  let name := c.rest.takeWhile isWordChar
  let c := c.skip name.length
  if name.isEmpty || !c.blankAt 0 then none
  else
    let found : Option (Token × Cursor) :=
      match String.ofList name with
      | "YAML" => readVersion c
      | "TAG" => readTagDirective c
      | _ => none
    match found with
    | some (token, c) =>
      let c := (c.skipWhile isBlank).skipComment
      if c.breakOrEnd then some (token, c.takeBreak.2) else none
    | none => none

end ClusterArchive.Yaml
