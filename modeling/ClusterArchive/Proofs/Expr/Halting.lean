import ClusterArchive.Predicate

/-! # What halts the reading of an expression

Reading halts at a literal without a value and at nothing else. Every reader goes on with some of
the lexemes that it was given and never gets behind an invalid one, and if it halts, a literal
without a value is among them (`Within`). All of this is kept by what one reader does after another
(`Within.bind`), so it holds of readers of all levels (`keeps_exprFrom`) and of the whole text
(`mem_of_compile_halts`, `invalid_notMem_of_ofLexemes`). -/

namespace ClusterArchive.Proofs.Expr.Halting

open ClusterArchive.Expr ClusterArchive.Expr.Reader

variable {α β : Type} {text rest : List Lexeme}

/-- Whether a result is due to the given lexemes: what is left is among them, the invalid one if
there is one, and if the reading halted, so is a literal without a value. -/
structure Within (text : List Lexeme) (result : Except Unreadable (α × List Lexeme)) : Prop where
  rest : ∀ a rest, result = .ok (a, rest) → rest ⊆ text
  invalid : ∀ a rest, result = .ok (a, rest) → .invalid ∈ text → .invalid ∈ rest
  blame : result = .error .badLiteral → .literal none ∈ text

/-- Whether all results of a reader are due to the lexemes that it is given. -/
def Keeps (r : Reader α) : Prop := ∀ text, Within text (r text)

theorem Within.refl (a : α) (text : List Lexeme) : Within text (.ok (a, text)) where
  rest _ _ hr := by
    cases hr
    exact List.Subset.refl text
  invalid _ _ hr hi := by
    cases hr
    exact hi
  blame h := by cases h

theorem Within.malformed :
    Within text (.error .malformed : Except Unreadable (α × List Lexeme)) where
  rest _ _ h := by cases h
  invalid _ _ h := by cases h
  blame h := by cases h

theorem Within.mono {result : Except Unreadable (α × List Lexeme)} (h : Within rest result)
    (hs : rest ⊆ text) (hi : .invalid ∈ text → .invalid ∈ rest) : Within text result where
  rest a rest' hr := List.Subset.trans (h.rest a rest' hr) hs
  invalid a rest' hr ht := h.invalid a rest' hr (hi ht)
  blame hr := hs (h.blame hr)

theorem Within.cons {result : Except Unreadable (α × List Lexeme)} {l : Lexeme} (hl : l ≠ .invalid)
    (h : Within text result) : Within (l :: text) result :=
  h.mono (List.subset_cons_self l text) fun hi => (List.mem_cons.mp hi).resolve_left hl.symm

/-- One reader goes on where another stopped. -/
theorem Within.bind {result : Except Unreadable (α × List Lexeme)}
    {next : α × List Lexeme → Except Unreadable (β × List Lexeme)} (h : Within text result)
    (hn : ∀ a rest, Within rest (next (a, rest))) : Within text (result >>= next) := by
  cases result with
  | error e =>
    refine ⟨fun _ _ hr => (by cases hr), fun _ _ hr => (by cases hr), fun hr => h.blame ?_⟩
    cases hr
    rfl
  | ok r => exact (hn r.1 r.2).mono (h.rest r.1 r.2 rfl) (h.invalid r.1 r.2 rfl)

/-! ### Parts -/

theorem keeps_expect (s : Symbol) : Keeps (expect s) := by
  intro text
  unfold expect
  split
  · split
    · exact .cons nofun (.refl _ _)
    · exact .malformed
  · exact .malformed

theorem keeps_name : Keeps name := by
  intro text
  unfold name
  split
  · exact .cons nofun (.refl _ _)
  · exact .malformed

theorem keeps_itemsFrom {close : Symbol} {item : Reader α} (h : Keeps item) :
    ∀ count, Keeps (itemsFrom close item count)
  | 0, _ => .malformed
  | count + 1, text => by
    unfold itemsFrom
    split
    · rename_i hc
      obtain ⟨rest, rfl⟩ := List.head?_eq_some_iff.mp hc
      exact .cons nofun (.refl _ _)
    · refine (h text).bind fun a rest => ?_
      dsimp only
      split
      · exact .cons nofun ((keeps_itemsFrom h count _).bind fun _ _ => .refl _ _)
      · exact (keeps_expect close _).bind fun _ _ => .refl _ _

theorem keeps_items {close : Symbol} {item : Reader α} (h : Keeps item) :
    Keeps (items close item) :=
  fun text => keeps_itemsFrom h (text.length + 1) text

theorem keeps_pair {first : Reader α} {second : Reader β} (h : Keeps first) (h' : Keeps second) :
    Keeps (pair first second) := fun text =>
  (h text).bind fun _ rest => (keeps_expect .colon rest).bind fun _ rest =>
    (h' rest).bind fun _ _ => .refl _ _

/-! ### Levels -/

variable {expr : Reader Expr}

theorem keeps_named (h : Keeps expr) : Keeps (named expr) := fun text =>
  (keeps_name text).bind fun n rest => by
    dsimp only
    split
    · exact .cons nofun ((keeps_items h _).bind fun _ _ => .refl _ _)
    · exact .refl _ _

/-- A literal is the one place where the reading can halt. -/
theorem keeps_primary (h : Keeps expr) : Keeps (primary expr) := by
  intro text
  unfold primary
  split
  · split
    · exact .cons nofun (.refl _ _)
    · exact ⟨fun _ _ hr => (by cases hr), fun _ _ hr => (by cases hr), fun _ => List.mem_cons_self⟩
  · exact .cons nofun (keeps_named h _)
  · exact .cons nofun ((h _).bind fun _ rest => (keeps_expect _ rest).bind fun _ _ => .refl _ _)
  · exact .cons nofun ((keeps_items h _).bind fun _ _ => .refl _ _)
  · exact .cons nofun ((keeps_items (keeps_pair h h) _).bind fun _ _ => .refl _ _)
  · exact keeps_named h _

theorem keeps_membersFrom (h : Keeps expr) : ∀ count target, Keeps (membersFrom expr count target)
  | 0, target, text => .refl target text
  | count + 1, target, text => by
    unfold membersFrom
    split
    · exact .cons nofun (.cons nofun (.cons nofun
        ((keeps_items h _).bind fun _ rest => keeps_membersFrom h count _ rest)))
    · exact .cons nofun (.cons nofun (keeps_membersFrom h count _ _))
    · exact .cons nofun ((h _).bind fun _ rest => (keeps_expect _ rest).bind fun _ rest =>
        keeps_membersFrom h count _ rest)
    · exact .cons nofun ((keeps_items (keeps_pair keeps_name h) _).bind fun _ rest =>
        keeps_membersFrom h count _ rest)
    · exact .refl _ _

theorem keeps_member (h : Keeps expr) : Keeps (member expr) := fun text =>
  (keeps_primary h text).bind fun e rest => keeps_membersFrom h rest.length e rest

theorem keeps_signed (h : Keeps expr) : Keeps (Reader.signed expr) := by
  intro text
  unfold Reader.signed
  split
  · exact .cons nofun ((keeps_member h _).bind fun _ _ => .refl _ _)
  · exact keeps_member h _

theorem keeps_chainFrom {op? : Symbol → Option (Expr → Expr → Expr)} {operand : Reader Expr}
    (h : Keeps operand) : ∀ count left, Keeps (chainFrom op? operand count left)
  | 0, left, text => .refl left text
  | count + 1, left, text => by
    unfold chainFrom
    split
    · split
      · exact .cons nofun ((h _).bind fun _ rest => keeps_chainFrom h count _ rest)
      · exact .refl _ _
    · exact .refl _ _

theorem keeps_chain {op? : Symbol → Option (Expr → Expr → Expr)} {operand : Reader Expr}
    (h : Keeps operand) : Keeps (chain op? operand) := fun text =>
  (h text).bind fun left rest => keeps_chainFrom h rest.length left rest

theorem keeps_sum (h : Keeps expr) : Keeps (sum expr) := keeps_chain (keeps_chain (keeps_signed h))

theorem keeps_relation (h : Keeps expr) : Keeps (relation expr) := fun text =>
  (keeps_sum h text).bind fun left rest => by
    dsimp only
    split
    · exact .cons nofun ((keeps_sum h _).bind fun _ _ => .refl _ _)
    · exact .refl _ _

theorem keeps_disjunction (h : Keeps expr) : Keeps (disjunction expr) :=
  keeps_chain (keeps_chain (keeps_relation h))

theorem keeps_exprFrom : ∀ depth, Keeps (exprFrom depth)
  | 0, _ => .malformed
  | depth + 1, text => by
    have h := keeps_exprFrom depth
    refine (keeps_disjunction h text).bind fun condition rest => ?_
    dsimp only
    split
    · exact .cons nofun ((keeps_disjunction h _).bind fun _ rest =>
        (keeps_expect .colon rest).bind fun _ rest => (h rest).bind fun _ _ => .refl _ _)
    · exact .refl _ _

/-! ### Whole texts -/

theorem exprFrom_of_ofLexemes {lexemes : List Lexeme} {e : Expr} (h : ofLexemes lexemes = .ok e) :
    exprFrom (lexemes.length + 1) lexemes = .ok (e, []) := by
  unfold ofLexemes at h
  cases hr : exprFrom (lexemes.length + 1) lexemes with
  | error e =>
    rw [hr] at h
    cases h
  | ok r =>
    rw [hr] at h
    obtain ⟨e, _ | ⟨l, rest⟩⟩ := r <;> cases h
    rfl

/-- A literal without a value stands among the lexemes of an expression whose reading halts. -/
theorem mem_of_ofLexemes_halts {lexemes : List Lexeme}
    (h : ofLexemes lexemes = .error .badLiteral) :
    .literal none ∈ lexemes := by
  refine (keeps_exprFrom (lexemes.length + 1) lexemes).blame ?_
  unfold ofLexemes at h
  cases hr : exprFrom (lexemes.length + 1) lexemes with
  | error e =>
    rw [hr] at h
    cases h
    rfl
  | ok r =>
    rw [hr] at h
    obtain ⟨e, _ | ⟨l, rest⟩⟩ := r <;> cases h

/-- No lexeme of an expression is invalid. -/
theorem invalid_notMem_of_ofLexemes {lexemes : List Lexeme} {e : Expr}
    (h : ofLexemes lexemes = .ok e) :
    .invalid ∉ lexemes := fun hi =>
  List.not_mem_nil
    ((keeps_exprFrom (lexemes.length + 1) lexemes).invalid e [] (exprFrom_of_ofLexemes h) hi)

/-- A literal without a value stands in a condition that halts. -/
theorem mem_of_compile_halts {source : String} {halt : Halt}
    (h : Predicate.compile source = .error halt) :
    .literal none ∈ Lexeme.all source.toList := by
  refine mem_of_ofLexemes_halts ?_
  unfold Predicate.compile at h
  split at h
  · assumption
  · cases h
  · split at h <;> cases h

end ClusterArchive.Proofs.Expr.Halting
