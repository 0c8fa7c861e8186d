import ClusterArchive.Yaml.Scalar.Block
import ClusterArchive.Yaml.Scalar.Plain
import ClusterArchive.Yaml.Scalar.Quoted
import ClusterArchive.Yaml.Tag

/-!
# From text to tokens

A token may turn out to be a key only when the colon behind it is met. The reader therefore
remembers, for each level of brackets, where a key may have begun, and puts the tokens for the key
and for the mapping it opens in front of it afterwards. A possible key has to end on its line and
within 1024 characters; at the indentation of the enclosing mapping there has to be one.
-/

namespace ClusterArchive.Yaml

/-- Where a key may have begun: whether it is still possible, whether there has to be one, the
number of the token that is its first, and the position. -/
structure KeyStart where
  possible : Bool
  required : Bool
  token : Nat
  index : Nat
  line : Nat
  column : Nat

/-- No possible key. -/
def KeyStart.none : KeyStart := ⟨false, false, 0, 0, 0, 0⟩

/-- The reader: the cursor, the tokens so far, the possible keys of the levels (the innermost
first), the indentation of the collections in block style (the innermost first, `-1` outside all),
whether a key may begin here, and whether the document is over. -/
structure TokenReader where
  cursor : Cursor
  tokens : Array Token
  keys : List KeyStart
  indent : Int
  outer : List Int
  keyAllowed : Bool
  done : Bool

namespace TokenReader

/-- The reader at the beginning of a text. -/
def ofText (text : List Char) : TokenReader :=
  ⟨.ofText text, #[], [.none], -1, [], true, false⟩

/-- Whether the reader is inside brackets. -/
def inFlow (r : TokenReader) : Bool := 1 < r.keys.length

/-- Adds a token. -/
def push (r : TokenReader) (t : Token) : TokenReader := { r with tokens := r.tokens.push t }

/-- Adds a token and takes `n` characters. -/
def take (r : TokenReader) (n : Nat) (t : Token) : TokenReader :=
  { r with tokens := r.tokens.push t, cursor := r.cursor.skip n }

/-! ### White space -/

/-- Takes white space, comments and line breaks. A tab counts as white space only where no key may
begin. A byte order mark may stand at the beginning. -/
def skipSpace : Nat → TokenReader → TokenReader
  | 0, r => r
  | fuel + 1, r =>
    let c := r.cursor
    let c := if c.index = 0 ∧ c.sees '\uFEFF' then c.skip 1 else c
    let tabs := r.inFlow || !r.keyAllowed
    let c := (c.skipWhile fun d => d == ' ' || (tabs && d == '\t')).skipComment
    if c.seesBreak then
      skipSpace fuel { r with cursor := c.takeBreak.2, keyAllowed := r.keyAllowed || !r.inFlow }
    else { r with cursor := c }

/-! ### Keys and indentation -/

/-- Gives up possible keys that are too far behind; fails if one of them was required. -/
def expireKeys (r : TokenReader) : Option TokenReader :=
  let expired := fun (k : KeyStart) =>
    k.possible && (k.line < r.cursor.line || k.index + 1024 < r.cursor.index)
  if r.keys.any fun k => expired k && k.required then none
  else some { r with
    keys := r.keys.map fun k => if expired k then { k with possible := false } else k }

/-- Gives up the possible key of this level; fails if it was required. -/
def dropKey (r : TokenReader) : Option TokenReader :=
  match r.keys with
  | [] => some r
  | k :: rest =>
    if k.possible && k.required then none
    else some { r with keys := { k with possible := false } :: rest }

/-- Remembers that a key may begin here. -/
def saveKey (r : TokenReader) : Option TokenReader :=
  if !r.keyAllowed then some r
  else
    match r.dropKey with
    | none => none
    | some r =>
      let required := !r.inFlow && r.indent == r.cursor.column
      let k : KeyStart :=
        ⟨true, required, r.tokens.size, r.cursor.index, r.cursor.line, r.cursor.column⟩
      some { r with keys := k :: r.keys.tail }

/-- Closes the collections that are indented deeper than the given column. -/
def unindent (column : Int) : Nat → TokenReader → TokenReader
  | 0, r => r
  | fuel + 1, r =>
    if r.inFlow then r
    else if column < r.indent then
      match r.outer with
      | [] => { r.push .blockEnd with indent := -1 }
      | i :: rest => unindent column fuel { r.push .blockEnd with indent := i, outer := rest }
    else r

/-- Closes the collections that are indented deeper than the given column. -/
def closeTo (r : TokenReader) (column : Int) : TokenReader := r.unindent column (r.outer.length + 1)

/-- Opens a collection at the given column, unless one is open there; its token goes to the given
place. -/
def openAt (r : TokenReader) (column : Nat) (place : Nat) (t : Token) : TokenReader :=
  if r.inFlow then r
  else if r.indent < (column : Int) then
    { r with
      tokens := r.tokens.insertIdxIfInBounds place t
      indent := column
      outer := r.indent :: r.outer }
  else r

/-- Opens a collection here, unless one is open. -/
def openHere (r : TokenReader) (t : Token) : TokenReader :=
  r.openAt r.cursor.column r.tokens.size t

/-! ### Tokens -/

/-- The end of the document. -/
def readEnd (r : TokenReader) : Option TokenReader :=
  (r.closeTo (-1)).dropKey.map fun r => { r with keyAllowed := false, done := true }

/-- A directive. -/
def readDirectiveLine (r : TokenReader) : Option TokenReader :=
  match (r.closeTo (-1)).dropKey with
  | none => none
  | some r =>
    (readDirective r.cursor).map fun (t, c) =>
      { r with tokens := r.tokens.push t, cursor := c, keyAllowed := false }

/-- A document marker. -/
def readMarker (r : TokenReader) (t : Token) : Option TokenReader :=
  (r.closeTo (-1)).dropKey.map fun r => { r with keyAllowed := false }.take 3 t

/-- An opening bracket. -/
def readOpening (r : TokenReader) (t : Token) : Option TokenReader :=
  r.saveKey.map fun r => { r with keys := .none :: r.keys, keyAllowed := true }.take 1 t

/-- A closing bracket. -/
def readClosing (r : TokenReader) (t : Token) : Option TokenReader :=
  r.dropKey.map fun r =>
    let keys := match r.keys with
      | _ :: k :: rest => k :: rest
      | ks => ks
    { r with keys, keyAllowed := false }.take 1 t

/-- A comma. -/
def readComma (r : TokenReader) : Option TokenReader :=
  r.dropKey.map fun r => { r with keyAllowed := true }.take 1 .flowEntry

/-- A hyphen that begins an item. -/
def readHyphen (r : TokenReader) : Option TokenReader :=
  if !r.inFlow && !r.keyAllowed then none
  else
    (r.openHere .blockSequence).dropKey.map fun r =>
      { r with keyAllowed := true }.take 1 .blockEntry

/-- A question mark that begins a key. -/
def readQuestion (r : TokenReader) : Option TokenReader :=
  if !r.inFlow && !r.keyAllowed then none
  else
    (r.openHere .blockMapping).dropKey.map fun r => { r with keyAllowed := !r.inFlow }.take 1 .key

/-- A colon: what stands before it is a key if it may be one. -/
def readColon (r : TokenReader) : Option TokenReader :=
  let simple := match r.keys with
    | k :: _ => if k.possible then some k else none
    | [] => none
  match simple with
  | some k =>
    let r := { r with tokens := r.tokens.insertIdxIfInBounds k.token .key }
    let r := r.openAt k.column k.token .blockMapping
    let keys := match r.keys with
      | k :: rest => { k with possible := false } :: rest
      | [] => []
    some ({ r with keys, keyAllowed := false }.take 1 .value)
  | none =>
    if !r.inFlow && !r.keyAllowed then none
    else some ({ r.openHere .blockMapping with keyAllowed := !r.inFlow }.take 1 .value)

/-- An anchor or an alias. -/
def readReference (r : TokenReader) (token : String → Token) : Option TokenReader :=
  match r.saveKey with
  | none => none
  | some r =>
    (readAnchor (r.cursor.skip 1)).map fun (name, c) =>
      { r with tokens := r.tokens.push (token name), cursor := c, keyAllowed := false }

/-- A tag. -/
def readTagToken (r : TokenReader) : Option TokenReader :=
  match r.saveKey with
  | none => none
  | some r =>
    (readTag r.inFlow r.cursor).map fun (t, c) =>
      { r with tokens := r.tokens.push (.tag t), cursor := c, keyAllowed := false }

/-- A block scalar. -/
def readBlockScalar (r : TokenReader) (folded : Bool) : Option TokenReader :=
  match r.dropKey with
  | none => none
  | some r =>
    (Block.read folded r.indent r.cursor).map fun (text, c) =>
      { r with tokens := r.tokens.push (.scalar text false), cursor := c, keyAllowed := true }

/-- A quoted scalar. -/
def readQuotedScalar (r : TokenReader) (single : Bool) : Option TokenReader :=
  match r.saveKey with
  | none => none
  | some r =>
    (Quoted.read single r.cursor).map fun (text, c) =>
      { r with tokens := r.tokens.push (.scalar text false), cursor := c, keyAllowed := false }

/-- A plain scalar; behind a line end a key may begin. -/
def readPlainScalar (r : TokenReader) : Option TokenReader :=
  match r.saveKey with
  | none => none
  | some r =>
    (Plain.read r.inFlow (r.indent + 1).toNat r.cursor).map fun (text, broken, c) =>
      { r with tokens := r.tokens.push (.scalar text true), cursor := c, keyAllowed := broken }

/-- Whether a plain scalar may begin here. -/
def beginsPlain (r : TokenReader) (d : Char) : Bool :=
  let c := r.cursor
  let reserved :=
    ['-', '?', ':', ',', '[', ']', '\x7b', '\x7d', '#', '&', '*', '!', '|', '>', '\'', '"', '%',
      '@', '\x60', ' ', '\t']
  !reserved.contains d || (d == '-' && !(c.at? 1).any isBlank) ||
    (!r.inFlow && (d == '?' || d == ':') && !c.blankAt 1)

/-- Reads the next token. -/
def step (r : TokenReader) : Option TokenReader :=
  match (r.skipSpace (r.cursor.rest.length + 1)).expireKeys with
  | none => none
  | some r =>
    let r := r.closeTo r.cursor.column
    let c := r.cursor
    match c.at? 0 with
    | none => r.readEnd
    | some d =>
      if c.column = 0 ∧ d = '%' then r.readDirectiveLine
      else if c.atMarker '-' then r.readMarker .documentStart
      else if c.atMarker '.' then r.readMarker .documentEnd
      else if d = '[' then r.readOpening .flowSequenceStart
      else if d = '\x7b' then r.readOpening .flowMappingStart
      else if d = ']' then r.readClosing .flowSequenceEnd
      else if d = '\x7d' then r.readClosing .flowMappingEnd
      else if d = ',' then r.readComma
      else if d = '-' ∧ c.blankAt 1 then r.readHyphen
      else if d = '?' ∧ (r.inFlow ∨ c.blankAt 1) then r.readQuestion
      else if d = ':' ∧ (r.inFlow ∨ c.blankAt 1) then r.readColon
      else if d = '*' then r.readReference .alias
      else if d = '&' then r.readReference .anchor
      else if d = '!' then r.readTagToken
      else if d = '|' ∧ !r.inFlow then r.readBlockScalar false
      else if d = '>' ∧ !r.inFlow then r.readBlockScalar true
      else if d = '\'' then r.readQuotedScalar true
      else if d = '"' then r.readQuotedScalar false
      else if r.beginsPlain d then r.readPlainScalar
      else none

/-- Reads tokens up to the end of the text. -/
def run : Nat → TokenReader → Option (List Token)
  | 0, _ => none
  | fuel + 1, r =>
    if r.done then some r.tokens.toList
    else
      match r.step with
      | some r => run fuel r
      | none => none

end TokenReader

/-- The tokens of a text. -/
def tokens? (text : List Char) : Option (List Token) :=
  if text.all isAllowed then TokenReader.run (text.length + 2) (.ofText text) else none

end ClusterArchive.Yaml
