/-!
# Blank text

Two classes of blank are in use: Unicode white space, by which expressions, log lines and header
values are trimmed, and ASCII white space, by which an empty policy file is told from one with
contents.
-/

namespace ClusterArchive.Text

/-- The characters with the Unicode property `White_Space`. -/
def isBlank (c : Char) : Bool :=
  let n := c.toNat
  (9 ≤ n && n ≤ 13) || n == 0x20 || n == 0x85 || n == 0xA0 || n == 0x1680 ||
    (0x2000 ≤ n && n ≤ 0x200A) || n == 0x2028 || n == 0x2029 || n == 0x202F || n == 0x205F ||
    n == 0x3000

/-- Space, tab, line feed, form feed and carriage return. -/
def isBlankByte (b : UInt8) : Bool :=
  b == 0x20 || b == 0x09 || b == 0x0A || b == 0x0C || b == 0x0D

/-- The text without its leading blanks. -/
def trimStart (text : List Char) : List Char := text.dropWhile isBlank

/-- The text without its leading and trailing blanks. -/
def trim (text : List Char) : List Char :=
  (trimStart (trimStart text).reverse).reverse

/-- Whether the text consists of blanks only; the empty text does. -/
def allBlank (text : List Char) : Bool := text.all isBlank

/-- An ASCII letter in lower case, any other character as it is. -/
def asciiLower (text : List Char) : List Char := text.map Char.toLower

/-- Whether `needle` occurs in `text` as a contiguous piece; the empty needle always does. -/
def occursIn {α : Type} [BEq α] (needle : List α) : List α → Bool
  | [] => needle.isEmpty
  | c :: rest => needle.isPrefixOf (c :: rest) || occursIn needle rest

/-- The text with the strings of `parts` in order and `separator` between neighbours. -/
def joined (separator : String) (parts : List String) : String :=
  String.intercalate separator parts

end ClusterArchive.Text
