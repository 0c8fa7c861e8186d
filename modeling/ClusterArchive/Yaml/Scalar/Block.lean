import ClusterArchive.Yaml.Cursor

/-!
# Block scalars

Lines of text below an indicator, kept as they are or folded. The indentation is given by a digit in
the header or found from the first line that is not empty; `+` and `-` in the header keep or strip
the breaks at the end.
-/

namespace ClusterArchive.Yaml.Block

/-- What happens to the breaks at the end. -/
inductive Chomping
  | clip
  | strip
  | keep
deriving DecidableEq

/-- Takes a chomping indicator, if there is one. -/
def readChomping (c : Cursor) : Option (Chomping × Cursor) :=
  match c.at? 0 with
  | some '+' => some (.keep, c.skip 1)
  | some '-' => some (.strip, c.skip 1)
  | _ => none

/-- Takes an indentation digit, if there is one; zero is refused. -/
def readIndent (c : Cursor) : Option (Nat × Cursor) :=
  match c.at? 0 with
  | some d =>
    if d.isDigit then if d == '0' then none else some (d.toNat - 0x30, c.skip 1)
    else some (0, c)
  | none => some (0, c)

/-- Takes the header behind the indicator: chomping and indentation in either order. -/
def readHeader (c : Cursor) : Option (Chomping × Nat × Cursor) :=
  match readChomping c with
  | some (chomping, c) => (readIndent c).map fun r => (chomping, r.1, r.2)
  | none =>
    match readIndent c with
    | none => none
    | some (0, c) => some (.clip, 0, c)
    | some (n, c) =>
      match readChomping c with
      | some (chomping, c) => some (chomping, n, c)
      | none => some (.clip, n, c)

/-- Takes indentation and empty lines. `indent` is zero while it is not known; `deepest` is the
greatest column reached. A tab in the place of indentation is refused. -/
def readBreaks (indent : Nat) : Nat → Nat → List Char → Cursor → Option (Nat × List Char × Cursor)
  | 0, _, _, _ => none
  | fuel + 1, deepest, breaks, c =>
    let room := if indent = 0 then c.rest.length else indent - c.column
    let c := c.skip ((c.rest.take room).takeWhile (· == ' ')).length
    let deepest := max deepest c.column
    if (indent = 0 ∨ c.column < indent) ∧ c.sees '\t' then none
    else if c.seesBreak then
      let (b, c) := c.takeBreak
      readBreaks indent fuel deepest (breaks ++ b) c
    else some (deepest, breaks, c)

/-- The text read so far, the last character first, the break after its last line, the breaks of
empty lines behind that, and whether the last line began with a blank. -/
structure Progress where
  done : List Char
  lineBreak : List Char
  breaks : List Char
  afterBlank : Bool

/-- Takes lines as long as they are indented as the first. -/
def readLines (folded : Bool) (indent : Nat) : Nat → Progress → Cursor → Option (Progress × Cursor)
  | 0, _, _ => none
  | fuel + 1, p, c =>
    if c.column = indent ∧ !c.atEnd then
      let blank := c.seesBlank
      let joint :=
        if folded && p.lineBreak == ['\n'] && !p.afterBlank && !blank then
          if p.breaks.isEmpty then [' '] else []
        else p.lineBreak
      let line := c.rest.takeWhile (!isBreak ·)
      let (lineBreak, next) := (c.skip line.length).takeBreak
      match readBreaks indent (fuel + 1) 0 [] next with
      | none => none
      | some (_, breaks, next) =>
        let done := line.reverse ++ (p.breaks.reverse ++ (joint.reverse ++ p.done))
        readLines folded indent fuel ⟨done, lineBreak, breaks, blank⟩ next
    else some (p, c)

/-- Takes a block scalar, its indicator being next, inside a collection at column `outer`. -/
def read (folded : Bool) (outer : Int) (c : Cursor) : Option (String × Cursor) :=
  match readHeader (c.skip 1) with
  | none => none
  | some (chomping, increment, c) =>
    let c := (c.skipWhile isBlank).skipComment
    if !c.breakOrEnd then none
    else
      let c := c.takeBreak.2
      let fuel := c.rest.length + 1
      let known : Nat := if increment = 0 then 0 else ((max outer 0) + increment).toNat
      match readBreaks known fuel 0 [] c with
      | none => none
      | some (deepest, breaks, c) =>
        let indent : Nat := if known = 0 then max (max deepest (outer + 1).toNat) 1 else known
        match readLines folded indent fuel ⟨[], [], breaks, false⟩ c with
        | none => none
        | some (p, c) =>
          let tail := match chomping with
            | .strip => []
            | .clip => p.lineBreak
            | .keep => p.lineBreak ++ p.breaks
          some (String.ofList (p.done.reverse ++ tail), c)

end ClusterArchive.Yaml.Block
