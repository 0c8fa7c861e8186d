import ClusterArchive.Expr.Literal
import ClusterArchive.Text.Blank

/-!
# Lexemes of expressions

The text of an expression is cut into lexemes, each the longest that fits where it begins; blanks
and comments separate them. A character that begins no lexeme ends the list with `invalid`.
-/

namespace ClusterArchive.Expr

/-- Operators, brackets and the keyword `in`. -/
inductive Symbol
  | question
  | colon
  | or
  | and
  | sign (s : Sign)
  | relation (r : Relation)
  | plus
  | times
  | divide
  | remainder
  | dot
  | comma
  | openParen
  | closeParen
  | openBracket
  | closeBracket
  | openBrace
  | closeBrace
deriving DecidableEq, Repr

/-- A lexeme; a literal whose text stands for no value is `literal none`. -/
inductive Lexeme
  | literal (value : Option Literal)
  | name (text : String)
  | symbol (s : Symbol)
  | invalid
deriving DecidableEq, Repr

namespace Lexeme

/-- The symbol at the head of a text and the text behind it; `-` is read as a sign. -/
def symbol? : List Char → Option (Symbol × List Char)
  | '|' :: '|' :: rest => some (.or, rest)
  | '&' :: '&' :: rest => some (.and, rest)
  | '<' :: '=' :: rest => some (.relation .lessEqual, rest)
  | '<' :: rest => some (.relation .less, rest)
  | '>' :: '=' :: rest => some (.relation .greaterEqual, rest)
  | '>' :: rest => some (.relation .greater, rest)
  | '=' :: '=' :: rest => some (.relation .equal, rest)
  | '!' :: '=' :: rest => some (.relation .notEqual, rest)
  | '!' :: '!' :: rest => some (.sign .truth, rest)
  | '!' :: rest => some (.sign .not, rest)
  | '-' :: '-' :: rest => some (.sign .keep, rest)
  | '-' :: rest => some (.sign .negate, rest)
  | '+' :: rest => some (.plus, rest)
  | '*' :: rest => some (.times, rest)
  | '/' :: rest => some (.divide, rest)
  | '%' :: rest => some (.remainder, rest)
  | '?' :: rest => some (.question, rest)
  | ':' :: rest => some (.colon, rest)
  | '.' :: rest => some (.dot, rest)
  | ',' :: rest => some (.comma, rest)
  | '(' :: rest => some (.openParen, rest)
  | ')' :: rest => some (.closeParen, rest)
  | '[' :: rest => some (.openBracket, rest)
  | ']' :: rest => some (.closeBracket, rest)
  | '\x7b' :: rest => some (.openBrace, rest)
  | '\x7d' :: rest => some (.closeBrace, rest)
  | _ => none

/-- Whether a character may begin a name. -/
def startsName (c : Char) : Bool := c.isAlpha || c == '_'

/-- Whether a character may stand in a name. -/
def continuesName (c : Char) : Bool := c.isAlphanum || c == '_'

/-- The lexeme that a word is. -/
def ofWord (word : List Char) : Lexeme :=
  match String.ofList word with
  | "true" => literal (some (.bool true))
  | "false" => literal (some (.bool false))
  | "null" => literal (some .null)
  | "in" => symbol (.relation .within)
  | w => name w

/-- The text behind a comment, which ends with its line; the line ends that follow belong to it. -/
def afterComment (text : List Char) : List Char :=
  let lineEnd := fun c => c == '\n' || c == '\r'
  (text.dropWhile (!lineEnd ·)).dropWhile lineEnd

/-- The lexeme at the head of a text and the text behind it. -/
def next? (text : List Char) : Option (Lexeme × List Char) :=
  match Literal.number? text with
  | some (value, rest) => some (literal value, rest)
  | none =>
    match Literal.quoted? text with
    | some (value, rest) => some (literal value, rest)
    | none =>
      match text with
      | [] => none
      | c :: _ =>
        if startsName c then
          some (ofWord (text.takeWhile continuesName), text.dropWhile continuesName)
        else (symbol? text).map fun s => (symbol s.1, s.2)

/-- The lexemes of a text of at most `count` characters. -/
def allFrom : Nat → List Char → List Lexeme
  | 0, _ => []
  | count + 1, text =>
    match text with
    | [] => []
    | '/' :: '/' :: rest => allFrom count (afterComment rest)
    | c :: rest =>
      if Text.isBlank c then allFrom count rest
      else
        match next? text with
        | none => [invalid]
        | some (l, rest) => l :: allFrom count rest

/-- The lexemes of a text. -/
def all (text : List Char) : List Lexeme := allFrom text.length text

end Lexeme

end ClusterArchive.Expr
