import ClusterArchive.Yaml.Scalar.Folding

/-!
# Plain scalars

Text without quotes. It ends at a comment, at a colon before white space, inside brackets at a comma
or bracket, at a document marker and, outside brackets, at a line that is not indented enough.
-/

namespace ClusterArchive.Yaml.Plain

/-- The brackets and the comma. -/
def isFlowIndicator (c : Char) : Bool :=
  c == ',' || c == '[' || c == ']' || c == '\x7b' || c == '\x7d'

/-- Whether the text ends here. -/
def endsHere (inFlow : Bool) (c : Cursor) : Bool :=
  (c.sees ':' && c.blankAt 1) || (inFlow && (c.at? 0).any isFlowIndicator)

/-- Whether a colon is followed by an indicator, which is refused inside brackets. -/
def ambiguous (inFlow : Bool) (c : Cursor) : Bool :=
  inFlow && c.sees ':' && (c.at? 1).any fun d => isFlowIndicator d || d == '?'

/-- Takes text up to white space or the end of the scalar; `done` holds it, the last character
first. -/
def readText (inFlow : Bool) : Nat → List Char → Cursor → Option (List Char × Cursor)
  | 0, _, _ => none
  | fuel + 1, done, c =>
    match c.at? 0 with
    | none => some (done, c)
    | some d =>
      if isBlank d || isBreak d then some (done, c)
      else if ambiguous inFlow c then none
      else if endsHere inFlow c then some (done, c)
      else readText inFlow fuel (d :: done) (c.skip 1)

/-- Takes pieces of text and the white space between. `done` holds what was read, `gap` the white
space that counts only if text follows it. -/
def readFrom (inFlow : Bool) (indent : Nat) :
    Nat → List Char → Gap → Cursor → Option (List Char × Gap × Cursor)
  | 0, _, _, _ => none
  | fuel + 1, done, gap, c =>
    if c.atDocumentMarker || c.sees '#' then some (done, gap, c)
    else
      match readText inFlow (fuel + 1) [] c with
      | none => none
      | some (piece, next) =>
        let (done, gap) := if piece.isEmpty then (done, gap)
          else (piece ++ (gap.text.reverse ++ done), Gap.none)
        if !(next.seesBlank || next.seesBreak) then some (done, gap, next)
        else
          match gap.read (some indent) (fuel + 1) next with
          | none => none
          | some (gap, next) =>
            if !inFlow && next.column < indent then some (done, gap, next)
            else readFrom inFlow indent fuel done gap next

/-- Takes a plain scalar whose continuation lines are indented to `indent` at least: its text,
whether it ran over a line end, and the cursor. -/
def read (inFlow : Bool) (indent : Nat) (c : Cursor) : Option (String × Bool × Cursor) :=
  (readFrom inFlow indent (c.rest.length + 1) [] .none c).map fun r =>
    (String.ofList r.1.reverse, r.2.1.broken, r.2.2)

end ClusterArchive.Yaml.Plain
