import ClusterArchive.Expr.Lexeme

/-!
# Reading expressions

From the weakest to the strongest binding: the conditional, `||`, `&&`, one relation, sums,
products, one sign, and then what is reached from a primary expression by fields, calls and
positions. Each level is given the reader of the level below it; only brackets and conditionals come
back to whole expressions, which a count of the lexemes bounds.

A literal without a value is no fault of the syntax. It is noticed only when the lexeme behind it
shows that the literal is complete.
-/

namespace ClusterArchive.Expr

/-- Why a text is no expression. -/
inductive Unreadable
  | malformed
  | badLiteral
deriving DecidableEq, Repr

/-- A reader of something at the head of a list of lexemes. -/
abbrev Reader (α : Type) := List Lexeme → Except Unreadable (α × List Lexeme)

namespace Reader

/-! ### Parts -/

/-- Reads one given symbol. -/
def expect (s : Symbol) : Reader Unit
  | .symbol t :: rest => if t = s then .ok ((), rest) else .error .malformed
  | _ => .error .malformed

/-- Reads a name. -/
def name : Reader String
  | .name n :: rest => .ok (n, rest)
  | _ => .error .malformed

/-- The items up to a closing symbol, at most `count` of them, after a comma or an opening
symbol. -/
def itemsFrom {α : Type} (close : Symbol) (item : Reader α) : Nat → Reader (List α)
  | 0, _ => .error .malformed
  | count + 1, text =>
    if text.head? = some (.symbol close) then .ok ([], text.tail)
    else do
      let (a, rest) ← item text
      match rest with
      | .symbol .comma :: rest =>
        let (items, rest) ← itemsFrom close item count rest
        return (a :: items, rest)
      | rest =>
        let (_, rest) ← expect close rest
        return ([a], rest)

/-- Items with commas between them, one more comma allowed behind the last, up to a closing
symbol. -/
def items {α : Type} (close : Symbol) (item : Reader α) : Reader (List α) :=
  fun text => itemsFrom close item (text.length + 1) text

/-- Two things with a colon between them. -/
def pair {α β : Type} (first : Reader α) (second : Reader β) : Reader (α × β) := fun text => do
  let (a, rest) ← first text
  let (_, rest) ← expect .colon rest
  let (b, rest) ← second rest
  return ((a, b), rest)

/-- Whether the lexemes may follow a complete operand. -/
def followsOperand : List Lexeme → Bool
  | [] => true
  | .symbol s :: _ =>
    match s with
    | .or | .and | .question | .colon | .relation _ | .plus | .times | .divide | .remainder | .dot
    | .comma | .closeParen | .openBracket | .closeBracket | .openBrace | .closeBrace
    | .sign .negate => true
    | .openParen | .sign _ => false
  | _ => false

/-! ### Levels -/

/-- A name, or a call of a function by its name. -/
def named (expr : Reader Expr) : Reader Expr := fun text => do
  let (n, rest) ← name text
  match rest with
  | .symbol .openParen :: rest =>
    let (args, rest) ← items .closeParen expr rest
    return (.call n args, rest)
  | rest => return (.variable n, rest)

/-- A literal, a name, a call, a list, a map, or an expression in parentheses. -/
def primary (expr : Reader Expr) : Reader Expr
  | .literal value :: rest =>
    match value with
    | some v => .ok (.literal v, rest)
    | none => .error (if followsOperand rest then .badLiteral else .malformed)
  | .symbol .dot :: rest => named expr rest
  | .symbol .openParen :: rest => do
    let (e, rest) ← expr rest
    let (_, rest) ← expect .closeParen rest
    return (e, rest)
  | .symbol .openBracket :: rest => do
    let (es, rest) ← items .closeBracket expr rest
    return (.list es, rest)
  | .symbol .openBrace :: rest => do
    let (es, rest) ← items .closeBrace (pair expr expr) rest
    return (.map es, rest)
  | text => named expr text

/-- The fields, calls, positions and constructions behind a target, at most `count` of them. -/
def membersFrom (expr : Reader Expr) : Nat → Expr → Reader Expr
  | 0, target, text => .ok (target, text)
  | count + 1, target, text =>
    match text with
    | .symbol .dot :: .name n :: .symbol .openParen :: rest => do
      let (args, rest) ← items .closeParen expr rest
      membersFrom expr count (.method target n args) rest
    | .symbol .dot :: .name n :: rest => membersFrom expr count (.attribute target n) rest
    | .symbol .openBracket :: rest => do
      let (e, rest) ← expr rest
      let (_, rest) ← expect .closeBracket rest
      membersFrom expr count (.index target e) rest
    | .symbol .openBrace :: rest => do
      let (fields, rest) ← items .closeBrace (pair name expr) rest
      membersFrom expr count (.construct target fields) rest
    | rest => .ok (target, rest)

/-- A primary expression and what is reached from it. -/
def member (expr : Reader Expr) : Reader Expr := fun text => do
  let (e, rest) ← primary expr text
  membersFrom expr rest.length e rest

/-- An operand with at most one sign. -/
def signed (expr : Reader Expr) : Reader Expr
  | .symbol (.sign s) :: rest => do
    let (e, rest) ← member expr rest
    return (.signed s e, rest)
  | text => member expr text

/-- The operators of one level and their operands, from the left, at most `count` of them. -/
def chainFrom (op? : Symbol → Option (Expr → Expr → Expr)) (operand : Reader Expr) :
    Nat → Expr → Reader Expr
  | 0, left, text => .ok (left, text)
  | count + 1, left, text =>
    match text with
    | .symbol s :: rest =>
      match op? s with
      | some op => do
        let (right, rest) ← operand rest
        chainFrom op? operand count (op left right) rest
      | none => .ok (left, text)
    | _ => .ok (left, text)

/-- Operands of one level with operators between them, grouped from the left. -/
def chain (op? : Symbol → Option (Expr → Expr → Expr)) (operand : Reader Expr) : Reader Expr :=
  fun text => do
    let (left, rest) ← operand text
    chainFrom op? operand rest.length left rest

/-- The operation that a symbol between factors stands for. -/
def product? : Symbol → Option (Expr → Expr → Expr)
  | .times => some (.arithmetic .multiply)
  | .divide => some (.arithmetic .divide)
  | .remainder => some (.arithmetic .remainder)
  | _ => none

/-- The operation that a symbol between summands stands for. -/
def sum? : Symbol → Option (Expr → Expr → Expr)
  | .plus => some (.arithmetic .add)
  | .sign .negate => some (.arithmetic .subtract)
  | _ => none

/-- The operation that a symbol between conjuncts stands for. -/
def conjunction? : Symbol → Option (Expr → Expr → Expr)
  | .and => some .both
  | _ => none

/-- The operation that a symbol between disjuncts stands for. -/
def disjunction? : Symbol → Option (Expr → Expr → Expr)
  | .or => some .either
  | _ => none

/-- A sum of products. -/
def sum (expr : Reader Expr) : Reader Expr := chain sum? (chain product? (signed expr))

/-- At most one relation between two sums. -/
def relation (expr : Reader Expr) : Reader Expr := fun text => do
  let (left, rest) ← sum expr text
  match rest with
  | .symbol (.relation r) :: rest =>
    let (right, rest) ← sum expr rest
    return (.relation r left right, rest)
  | rest => return (left, rest)

/-- A disjunction of conjunctions. -/
def disjunction (expr : Reader Expr) : Reader Expr :=
  chain disjunction? (chain conjunction? (relation expr))

/-- A disjunction or a conditional, nested at most `depth` deep. -/
def exprFrom : Nat → Reader Expr
  | 0, _ => .error .malformed
  | depth + 1, text => do
    let expr := exprFrom depth
    let (condition, rest) ← disjunction expr text
    match rest with
    | .symbol .question :: rest =>
      let (yes, rest) ← disjunction expr rest
      let (_, rest) ← expect .colon rest
      let (no, rest) ← expr rest
      return (.conditional condition yes no, rest)
    | rest => return (condition, rest)

end Reader

/-- The expression that the lexemes make up together. -/
def ofLexemes (lexemes : List Lexeme) : Except Unreadable Expr := do
  match ← Reader.exprFrom (lexemes.length + 1) lexemes with
  | (e, []) => return e
  | _ => .error .malformed

/-- The expression that a text stands for. -/
def read (text : List Char) : Except Unreadable Expr := ofLexemes (Lexeme.all text)

end ClusterArchive.Expr
