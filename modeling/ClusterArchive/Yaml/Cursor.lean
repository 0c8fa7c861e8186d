import ClusterArchive.Text.CodePoints

/-!
# Positions in a document

A cursor is what is left of a document together with the position reached: how many characters were
taken, and the line and column. Structure in block style follows from columns, so every reader moves
a cursor rather than dropping characters.
-/

namespace ClusterArchive.Yaml

/-- What is left of a document, and the position. -/
structure Cursor where
  rest : List Char
  index : Nat
  line : Nat
  column : Nat

/-- A line break: line feed, carriage return, next line, line and paragraph separator. -/
def isBreak (c : Char) : Bool :=
  c == '\n' || c == '\r' || c == '\u0085' || c == '\u2028' || c == '\u2029'

/-- A space or a tab. -/
def isBlank (c : Char) : Bool := c == ' ' || c == '\t'

/-- A letter, a digit, a hyphen or an underscore. -/
def isWordChar (c : Char) : Bool := c.isAlphanum || c == '-' || c == '_'

/-- Whether a document may contain the character. -/
def isAllowed (c : Char) : Bool :=
  let n := c.toNat
  n == 0x09 || n == 0x0A || n == 0x0D || (0x20 ≤ n && n ≤ 0x7E) || n == 0x85 ||
    (0xA0 ≤ n && n ≤ 0xD7FF) || (0xE000 ≤ n && n ≤ 0xFFFD) || 0x10000 ≤ n

namespace Cursor

/-- The beginning of a document. -/
def ofText (text : List Char) : Cursor := ⟨text, 0, 0, 0⟩

/-- The character at a distance from the cursor. -/
def at? (c : Cursor) (i : Nat) : Option Char := c.rest[i]?

/-- Whether the given character is next. -/
def sees (c : Cursor) (d : Char) : Bool := c.at? 0 == some d

/-- Whether the document is at its end. -/
def atEnd (c : Cursor) : Bool := c.rest.isEmpty

/-- Whether a blank, a break or the end is at a distance from the cursor. -/
def blankAt (c : Cursor) (i : Nat) : Bool :=
  match c.at? i with
  | none => true
  | some d => isBlank d || isBreak d

/-- Whether a break or the end is next. -/
def breakOrEnd (c : Cursor) : Bool :=
  match c.at? 0 with
  | none => true
  | some d => isBreak d

/-- Whether a blank is next. -/
def seesBlank (c : Cursor) : Bool := (c.at? 0).any isBlank

/-- Whether a break is next. -/
def seesBreak (c : Cursor) : Bool := (c.at? 0).any isBreak

/-- The cursor after `n` characters of one line. -/
def skip (c : Cursor) (n : Nat) : Cursor := ⟨c.rest.drop n, c.index + n, c.line, c.column + n⟩

/-- The cursor at the first character of the line for which the test fails. -/
def skipWhile (c : Cursor) (p : Char → Bool) : Cursor := c.skip (c.rest.takeWhile p).length

/-- Takes a line break: what it stands for in text, and the cursor on the next line. -/
def takeBreak (c : Cursor) : List Char × Cursor :=
  match c.rest with
  | '\r' :: '\n' :: rest => (['\n'], ⟨rest, c.index + 2, c.line + 1, 0⟩)
  | d :: rest =>
    if d == '\u2028' || d == '\u2029' then ([d], ⟨rest, c.index + 1, c.line + 1, 0⟩)
    else if isBreak d then (['\n'], ⟨rest, c.index + 1, c.line + 1, 0⟩)
    else ([], c)
  | [] => ([], c)

/-- The cursor at the end of the line, if a comment begins here. -/
def skipComment (c : Cursor) : Cursor :=
  if c.sees '#' then c.skipWhile (!isBreak ·) else c

/-- Whether `---` or `...` stands alone at the beginning of the line. -/
def atMarker (c : Cursor) (d : Char) : Bool :=
  c.column == 0 && c.at? 0 == some d && c.at? 1 == some d && c.at? 2 == some d && c.blankAt 3

/-- Whether either document marker is next. -/
def atDocumentMarker (c : Cursor) : Bool := c.atMarker '-' || c.atMarker '.'

end Cursor

end ClusterArchive.Yaml
