import ClusterArchive.Text.CodePoints
import ClusterArchive.Text.Lowercase.Table

/-!
# Lower case

Full lower-casing of text. Every letter has one lower-case form, apart from the capital sigma, which
becomes a final sigma where it ends a word, and the dotted capital I, which becomes two characters.
-/

namespace ClusterArchive.Text

/-- Whether the first character that is not case-ignorable is cased. -/
def leadsToCased (text : List Char) : Bool :=
  match text.dropWhile caseIgnorable.contains with
  | [] => false
  | c :: _ => cased.contains c

/-- The lower-case form of a character other than the capital sigma. -/
def lowerChar (c : Char) : List Char :=
  if c.toNat < 0x80 then [c.toLower]
  else if c = 'İ' then ['i', '\u0307']
  else [(caseImage? lowerRuns c).getD c]

/-- Lower-cases a text that follows the characters `before`, the nearest first. -/
def lowerAfter (before : List Char) : List Char → List Char
  | [] => []
  | c :: rest =>
    let form :=
      if c = 'Σ' then
        if leadsToCased before && !leadsToCased rest then ['ς'] else ['σ']
      else lowerChar c
    form ++ lowerAfter (c :: before) rest

/-- The text in lower case. -/
def lowercase (text : List Char) : List Char := lowerAfter [] text

end ClusterArchive.Text
