import ClusterArchive.Yaml.Cursor

/-!
# Folding of lines

Within a scalar the white space between two pieces of text is kept on one line, and folded where
lines end: a single break becomes a space, of more breaks the first is dropped.
-/

namespace ClusterArchive.Yaml

/-- White space that was read since the last piece of text: blanks of the line, or the first break
and those after it. -/
structure Gap where
  blanks : List Char
  broken : Bool
  firstBreak : List Char
  moreBreaks : List Char

namespace Gap

/-- No white space. -/
def none : Gap := ⟨[], false, [], []⟩

/-- What the white space stands for in the text. -/
def text (g : Gap) : List Char :=
  if g.broken then
    if g.firstBreak == ['\n'] then
      if g.moreBreaks.isEmpty then [' '] else g.moreBreaks
    else g.firstBreak ++ g.moreBreaks
  else g.blanks

/-- Takes white space. In a plain scalar a tab before the column `indent` of a continuation line is
refused. -/
def read (indent : Option Nat) : Nat → Gap → Cursor → Option (Gap × Cursor)
  | 0, _, _ => Option.none
  | fuel + 1, g, c =>
    match c.at? 0 with
    | some d =>
      if isBlank d then
        if g.broken && d == '\t' && indent.any (c.column < ·) then Option.none
        else if g.broken then read indent fuel g (c.skip 1)
        else read indent fuel { g with blanks := g.blanks ++ [d] } (c.skip 1)
      else if isBreak d then
        let (b, c) := c.takeBreak
        if g.broken then read indent fuel { g with moreBreaks := g.moreBreaks ++ b } c
        else read indent fuel ⟨[], true, b, g.moreBreaks⟩ c
      else some (g, c)
    | Option.none => some (g, c)

end Gap

end ClusterArchive.Yaml
