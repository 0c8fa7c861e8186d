import ClusterArchive.Regex.Class.Table
import ClusterArchive.Text.Blank

/-!
# Character classes

A class is an expression over ranges, tables and properties; `contains` evaluates it at a character.
Matching without regard to case is a class of its own: a character is in `folded u c` if some
character that folds alike is in `c`.
-/

namespace ClusterArchive.Regex

/-- What a character folds to. -/
def fold (c : Char) : Char := (Text.caseImage? foldRuns c).getD c

/-- The characters that fold to `c`, and `c` itself. -/
def foldedTo (c : Char) : List Char :=
  c :: foldRuns.filterMap fun r =>
    if r.image ≤ c.toNat ∧ r.first + (c.toNat - r.image) ≤ r.last ∧ (c.toNat - r.image) % r.step = 0
    then some (Char.ofNat (r.first + (c.toNat - r.image)))
    else none

/-- The characters that differ from `c` by case at most; without Unicode only letters of ASCII
do. -/
def equivalents (unicode : Bool) (c : Char) : List Char :=
  if unicode then foldedTo (fold c) else [c.toLower, c.toUpper]

/-- An expression for a set of characters. -/
inductive Class
  | range (low high : Nat)
  | table (points : Text.CodePoints)
  | category (names : List String)
  | script (name : String)
  | union (a b : Class)
  | both (a b : Class)
  | without (a b : Class)
  | either (a b : Class)
  | complement (a : Class)
  | folded (unicode : Bool) (a : Class)
  | none

namespace Class

/-- Membership of a character. -/
def contains : Class → Char → Bool
  | range low high, c => decide (low ≤ c.toNat ∧ c.toNat ≤ high)
  | table points, c => points.contains c
  | category names, c => names.contains (Text.labelOf c.toNat categoryRuns)
  | script name, c => Text.labelOf c.toNat scriptRuns == name
  | union a b, c => a.contains c || b.contains c
  | both a b, c => a.contains c && b.contains c
  | without a b, c => a.contains c && !b.contains c
  | either a b, c => a.contains c != b.contains c
  | complement a, c => !a.contains c
  | folded u a, c => (equivalents u c).any a.contains
  | none, _ => false

/-- The class of one character. -/
def single (c : Char) : Class := range c.toNat c.toNat

/-- The union of classes. -/
def unions (classes : List Class) : Class := classes.foldr union none

/-- The class, or its complement. -/
def negatedIf (negated : Bool) (a : Class) : Class := if negated then complement a else a

/-- Decimal digits. -/
def digit (unicode : Bool) : Class := if unicode then category ["Nd"] else range 0x30 0x39

/-- White space. -/
def space (unicode : Bool) : Class :=
  if unicode then
    unions [range 9 13, range 0x20 0x20, range 0x85 0x85, range 0xA0 0xA0, range 0x1680 0x1680,
      range 0x2000 0x200A, range 0x2028 0x2029, range 0x202F 0x202F, range 0x205F 0x205F,
      range 0x3000 0x3000]
  else union (range 9 13) (range 0x20 0x20)

/-- Word characters. -/
def word (unicode : Bool) : Class :=
  if unicode then table wordChars
  else unions [range 0x30 0x39, range 0x41 0x5A, range 0x5F 0x5F, range 0x61 0x7A]

/-- The class with the name that stands between `[:` and `:]`. -/
def named? (name : String) : Option Class :=
  match name with
  | "alnum" => some (unions [range 0x30 0x39, range 0x41 0x5A, range 0x61 0x7A])
  | "alpha" => some (union (range 0x41 0x5A) (range 0x61 0x7A))
  | "ascii" => some (range 0 0x7F)
  | "blank" => some (union (range 9 9) (range 0x20 0x20))
  | "cntrl" => some (union (range 0 0x1F) (range 0x7F 0x7F))
  | "digit" => some (range 0x30 0x39)
  | "graph" => some (range 0x21 0x7E)
  | "lower" => some (range 0x61 0x7A)
  | "print" => some (range 0x20 0x7E)
  | "punct" => some (unions [range 0x21 0x2F, range 0x3A 0x40, range 0x5B 0x60, range 0x7B 0x7E])
  | "space" => some (union (range 9 13) (range 0x20 0x20))
  | "upper" => some (range 0x41 0x5A)
  | "word" => some (word false)
  | "xdigit" => some (unions [range 0x30 0x39, range 0x41 0x46, range 0x61 0x66])
  | _ => Option.none

/-! ### Properties by name -/

/-- A property name without case, spaces, hyphens, underscores and a leading "is". -/
def looseName (name : List Char) : String :=
  let plain := (name.filter fun c => c != ' ' && c != '_' && c != '-').map Char.toLower
  String.ofList <|
    match plain with
    | 'i' :: 's' :: rest => if rest.isEmpty then plain else rest
    | _ => plain

/-- Loose names of the general categories and of their groups. -/
def categoryNames : List (List String × List String) :=
  [(["l", "letter"], ["Lu", "Ll", "Lt", "Lm", "Lo"]),
    (["lc", "casedletter"], ["Lu", "Ll", "Lt"]),
    (["lu", "uppercaseletter"], ["Lu"]), (["ll", "lowercaseletter"], ["Ll"]),
    (["lt", "titlecaseletter"], ["Lt"]), (["lm", "modifierletter"], ["Lm"]),
    (["lo", "otherletter"], ["Lo"]),
    (["m", "mark", "combiningmark"], ["Mn", "Mc", "Me"]),
    (["mn", "nonspacingmark"], ["Mn"]), (["mc", "spacingmark"], ["Mc"]),
    (["me", "enclosingmark"], ["Me"]),
    (["n", "number"], ["Nd", "Nl", "No"]), (["nd", "decimalnumber", "digit"], ["Nd"]),
    (["nl", "letternumber"], ["Nl"]), (["no", "othernumber"], ["No"]),
    (["p", "punctuation", "punct"], ["Pc", "Pd", "Ps", "Pe", "Pi", "Pf", "Po"]),
    (["pc", "connectorpunctuation"], ["Pc"]), (["pd", "dashpunctuation"], ["Pd"]),
    (["ps", "openpunctuation"], ["Ps"]), (["pe", "closepunctuation"], ["Pe"]),
    (["pi", "initialpunctuation"], ["Pi"]), (["pf", "finalpunctuation"], ["Pf"]),
    (["po", "otherpunctuation"], ["Po"]),
    (["s", "symbol"], ["Sm", "Sc", "Sk", "So"]), (["sm", "mathsymbol"], ["Sm"]),
    (["sc", "currencysymbol"], ["Sc"]), (["sk", "modifiersymbol"], ["Sk"]),
    (["so", "othersymbol"], ["So"]),
    (["z", "separator"], ["Zs", "Zl", "Zp"]), (["zs", "spaceseparator"], ["Zs"]),
    (["zl", "lineseparator"], ["Zl"]), (["zp", "paragraphseparator"], ["Zp"]),
    (["c", "other"], ["Cc", "Cf", "Cs", "Co", "Cn"]), (["cc", "control", "cntrl"], ["Cc"]),
    (["cf", "format"], ["Cf"]), (["cs", "surrogate"], ["Cs"]), (["co", "privateuse"], ["Co"]),
    (["cn", "unassigned"], ["Cn"])]

/-- The general category with the given loose name. -/
def categoryNamed? (name : String) : Option Class :=
  if name = "any" then some (range 0 0x10FFFF)
  else if name = "assigned" then some (complement (category ["Cn"]))
  else if name = "ascii" then some (range 0 0x7F)
  else (categoryNames.find? (·.1.contains name)).map fun p => category p.2

/-- The script with the given loose name. -/
def scriptNamed? (name : String) : Option Class :=
  (scriptNames.find? fun p =>
    looseName p.1.toList == name || looseName p.2.toList == name).map fun p => script p.1

/-- The class of the property with the given name. -/
def property? (name : List Char) : Option Class :=
  let loose := looseName name
  if loose = "alphabetic" ∨ loose = "alpha" then some (table alphabetic)
  else if loose = "lowercase" ∨ loose = "lower" then some (table lowercaseChars)
  else if loose = "uppercase" ∨ loose = "upper" then some (table uppercaseChars)
  else if loose = "whitespace" ∨ loose = "wspace" ∨ loose = "space" then some (space true)
  else (categoryNamed? loose).or (scriptNamed? loose)

/-- The class of the property with the given name and value. -/
def propertyValue? (name value : List Char) : Option Class :=
  let loose := looseName name
  if loose = "generalcategory" ∨ loose = "gc" then categoryNamed? (looseName value)
  else if loose = "script" ∨ loose = "sc" ∨ loose = "scriptextensions" ∨ loose = "scx" then
    scriptNamed? (looseName value)
  else Option.none

end Class

end ClusterArchive.Regex
