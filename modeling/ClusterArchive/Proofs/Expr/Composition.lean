import ClusterArchive.Proofs.Expr.Halting
import ClusterArchive.Proofs.Expr.Lines

/-! # Expressions in parentheses

What reads as an expression reads as the same expression if a closing parenthesis follows, whatever
stands behind it. No reader asks for more of the lexemes than the next one that it does not take,
and a closing parenthesis is neither an operator nor the beginning of a member, so a reader stops
before it as it stops at the end (`Extends`). The counts that bound the readers grow with the
lexemes; they are never what ends the reading, since every reader takes at least one lexeme
(`Goes`). This holds of the parts, and so of all levels (`extends_exprFrom`).

From this, two expressions in parentheses with `&&` between them read as their conjunction
(`ofLexemes_conjoined`), and so do their texts if each ends its line (`read_conjunction`). -/

namespace ClusterArchive.Proofs.Expr.Composition

open ClusterArchive.Expr ClusterArchive.Expr.Reader ClusterArchive.Expr.Literal
open ClusterArchive.Proofs.Expr.Halting ClusterArchive.Proofs.Expr.Lines

variable {α β : Type} {n : ℕ} {after : List Lexeme}

/-- Lexemes with a closing parenthesis behind them, and others behind that. -/
def closed (text after : List Lexeme) : List Lexeme := text ++ .symbol .closeParen :: after

/-- Whether a result becomes another one, the same but for what is left, if a closing parenthesis
follows; less than `n` lexemes are left. -/
def Goes (after : List Lexeme) (n : ℕ) (result result' : Except Unreadable (α × List Lexeme)) :
    Prop :=
  ∀ a rest, result = .ok (a, rest) → rest.length < n ∧ result' = .ok (a, closed rest after)

/-- Whether a reader reads the same as another one does if a closing parenthesis follows. -/
def Extends (after : List Lexeme) (r r' : Reader α) : Prop :=
  ∀ text, Goes after text.length (r text) (r' (closed text after))

theorem Goes.refl (a : α) (rest : List Lexeme) :
    Goes after (rest.length + 1) (.ok (a, rest)) (.ok (a, closed rest after)) := by
  intro b rest' hr
  cases hr
  exact ⟨Nat.lt_succ_self _, rfl⟩

theorem Goes.error {e : Unreadable} {result : Except Unreadable (α × List Lexeme)} :
    Goes after n (.error e) result := by
  intro a rest hr
  cases hr

theorem Goes.mono {result result' : Except Unreadable (α × List Lexeme)} {m : ℕ}
    (h : Goes after m result result') (hm : m ≤ n) : Goes after n result result' := fun a rest hr =>
  ⟨Nat.lt_of_lt_of_le (h a rest hr).1 hm, (h a rest hr).2⟩

theorem Goes.succ {result result' : Except Unreadable (α × List Lexeme)}
    (h : Goes after n result result') :
    Goes after (n + 1) result result' := h.mono (Nat.le_succ n)

theorem Goes.cons {result result' : Except Unreadable (α × List Lexeme)} {text : List Lexeme}
    {l : Lexeme} (h : Goes after text.length result result') :
    Goes after (l :: text).length result result' := h.succ

theorem Goes.cons₂ {result result' : Except Unreadable (α × List Lexeme)} {text : List Lexeme}
    {l : Lexeme} (h : Goes after text.length result result') :
    Goes after ((l :: text).length + 1) result result' := h.succ.succ

theorem Goes.bind {result result' : Except Unreadable (α × List Lexeme)}
    {next next' : α × List Lexeme → Except Unreadable (β × List Lexeme)}
    (h : Goes after n result result')
    (hn : ∀ a rest, rest.length < n →
      Goes after (rest.length + 1) (next (a, rest)) (next' (a, closed rest after))) :
    Goes after n (result >>= next) (result' >>= next') := by
  cases result with
  | error e => exact .error
  | ok r =>
    obtain ⟨hl, hr⟩ := h r.1 r.2 rfl
    rw [hr]
    exact (hn r.1 r.2 hl).mono hl

theorem Extends.nil {r r' : Reader α} (h : Extends after r r') : ∃ e, r [] = .error e := by
  cases hr : r [] with
  | error e => exact ⟨e, rfl⟩
  | ok v => exact absurd (h [] v.1 v.2 hr).1 (Nat.not_lt_zero _)

/-- A closing parenthesis behind lexemes does not change with which other lexeme they begin. -/
theorem cons_of_closed {text rest : List Lexeme} {l : Lexeme} (h : closed text after = l :: rest)
    (hl : l ≠ .symbol .closeParen) : ∃ text', text = l :: text' ∧ closed text' after = rest := by
  cases text with
  | nil =>
    cases h
    exact absurd rfl hl
  | cons l' text =>
    cases h
    exact ⟨text, rfl, rfl⟩

/-! ### Parts -/

theorem extends_expect (s : Symbol) : Extends after (expect s) (expect s) := by
  intro text
  rcases text with _ | ⟨_ | _ | t | _, rest⟩
  · exact .error
  · exact .error
  · exact .error
  · change Goes after _ (if t = s then _ else _) (if t = s then _ else _)
    split
    · exact .refl () rest
    · exact .error
  · exact .error

theorem extends_name : Extends after name name := by
  intro text
  rcases text with _ | ⟨_ | n | _ | _, rest⟩
  · exact .error
  · exact .error
  · exact .refl n rest
  · exact .error
  · exact .error

theorem extends_itemsFrom {close : Symbol} {item item' : Reader α} (h : Extends after item item') :
    ∀ {count count' : ℕ}, count ≤ count' →
      Extends after (itemsFrom close item count) (itemsFrom close item' count')
  | 0, _, _, _ => .error
  | count + 1, count' + 1, hc, [] => by
    obtain ⟨e, he⟩ := h.nil
    unfold itemsFrom
    rw [if_neg (by simp), he]
    exact .error
  | count + 1, count' + 1, hc, l :: text => by
    unfold itemsFrom
    rw [show (closed (l :: text) after).head? = (l :: text).head? from rfl]
    split
    · exact .refl [] text
    · refine (h (l :: text)).bind fun a rest _ => ?_
      dsimp only
      split
      · rename_i rest _
        exact .cons₂
          (.bind (extends_itemsFrom h (Nat.le_of_succ_le_succ hc) rest) fun _ _ _ => .refl _ _)
      · rename_i hr
        split
        · rename_i hr'
          obtain ⟨rest', hr', -⟩ := cons_of_closed hr' nofun
          exact (hr rest' hr').elim
        · exact .succ (.bind (extends_expect close rest) fun _ _ _ => .refl _ _)

theorem length_le_closed (text : List Lexeme) : text.length ≤ (closed text after).length := by
  rw [closed, List.length_append]
  exact Nat.le_add_right _ _

theorem extends_items {close : Symbol} {item item' : Reader α} (h : Extends after item item') :
    Extends after (items close item) (items close item') := fun text =>
  extends_itemsFrom h (Nat.succ_le_succ (length_le_closed text)) text

theorem extends_pair {first first' : Reader α} {second second' : Reader β}
    (h : Extends after first first') (h' : Extends after second second') :
    Extends after (pair first second) (pair first' second') := fun text =>
  .bind (h text) fun _ rest _ => .succ (.bind (extends_expect .colon rest) fun _ rest _ =>
    .succ (.bind (h' rest) fun _ _ _ => .refl _ _))

/-! ### Levels -/

variable {expr expr' : Reader Expr}

theorem extends_named (h : Extends after expr expr') :
    Extends after (named expr) (named expr') := fun text =>
  .bind (extends_name text) fun f rest _ => by
    dsimp only
    split
    · rename_i rest _
      exact .cons₂ (.bind (extends_items h rest) fun _ _ _ => .refl _ _)
    · rename_i hr
      split
      · rename_i hr'
        obtain ⟨rest', hr', -⟩ := cons_of_closed hr' nofun
        exact (hr rest' hr').elim
      · exact .refl _ _

theorem extends_primary (h : Extends after expr expr') :
    Extends after (primary expr) (primary expr') := by
  intro text
  unfold primary
  split
  · rename_i value rest
    cases value with
    | none => exact .error
    | some v => exact .refl _ rest
  · rename_i rest
    exact .cons (extends_named h rest)
  · rename_i rest
    exact .cons (.bind (h rest) fun _ rest _ =>
      .succ (.bind (extends_expect _ rest) fun _ _ _ => .refl _ _))
  · rename_i rest
    exact .cons (.bind (extends_items h rest) fun _ _ _ => .refl _ _)
  · rename_i rest
    exact .cons (.bind (extends_items (extends_pair h h) rest) fun _ _ _ => .refl _ _)
  · rcases text with _ | ⟨_ | f | _ | _, rest⟩
    · exact .error
    · exact .error
    · exact extends_named h (.name f :: rest)
    · exact .error
    · exact .error

theorem membersFrom_nil (count : ℕ) (target : Expr) :
    membersFrom expr count target [] = .ok (target, []) := by
  cases count <;> rfl

theorem membersFrom_closeParen (count : ℕ) (target : Expr) (rest : List Lexeme) :
    membersFrom expr count target (.symbol .closeParen :: rest) =
      .ok (target, .symbol .closeParen :: rest) := by
  cases count <;> rfl

theorem membersFrom_field {rest : List Lexeme}
    (hr : ∀ rest', rest = .symbol .openParen :: rest' → False) (count : ℕ) (target : Expr)
    (f : String) :
    membersFrom expr (count + 1) target (.symbol .dot :: .name f :: rest) =
      membersFrom expr count (.attribute target f) rest := by
  rw [membersFrom]
  exact hr

/-- No more members than there are lexemes are behind a target, and none of them is a closing
parenthesis. -/
theorem goes_membersFrom (h : Extends after expr expr') :
    ∀ {count count' : ℕ} (target : Expr) (text : List Lexeme),
    text.length ≤ count → text.length ≤ count' →
      Goes after (text.length + 1) (membersFrom expr count target text)
        (membersFrom expr' count' target (closed text after))
  | 0, _, target, text, hc, _ => by
    rw [List.length_eq_zero_iff.mp (Nat.le_zero.mp hc), membersFrom_nil, closed, List.nil_append,
      membersFrom_closeParen]
    exact .refl target []
  | _, 0, target, text, _, hc' => by
    rw [List.length_eq_zero_iff.mp (Nat.le_zero.mp hc'), membersFrom_nil, closed, List.nil_append,
      membersFrom_closeParen]
    exact .refl target []
  | count + 1, count' + 1, target, text, hc, hc' => by
    unfold membersFrom
    split
    · rename_i f rest
      rw [List.length_cons, List.length_cons, List.length_cons] at hc hc'
      exact .cons₂ (.cons (.cons (.bind (extends_items h rest) fun args rest' hl =>
        goes_membersFrom h _ rest' (by omega) (by omega))))
    · rename_i f rest hr
      rw [List.length_cons, List.length_cons] at hc hc'
      have hr' : ∀ rest', closed rest after = .symbol .openParen :: rest' → False := fun _ he =>
        have ⟨rest', he, _⟩ := cons_of_closed he nofun
        hr rest' he
      change Goes after _ _
        (membersFrom expr' (count' + 1) target (.symbol .dot :: .name f :: closed rest after))
      rw [membersFrom_field hr']
      exact .succ (.succ (goes_membersFrom h _ rest (by omega) (by omega)))
    · rename_i rest
      rw [List.length_cons] at hc hc'
      exact .cons₂ (.bind (h rest) fun e rest' hl =>
          .succ (.bind (extends_expect _ rest') fun _ rest'' hl' =>
        goes_membersFrom h _ rest'' (by omega) (by omega)))
    · rename_i rest
      rw [List.length_cons] at hc hc'
      exact .cons₂ (.bind (extends_items (extends_pair extends_name h) rest) fun _ rest' hl =>
        goes_membersFrom h _ rest' (by omega) (by omega))
    · rename_i _ hf hi hc
      split
      · rename_i he
        obtain ⟨_, rfl, he'⟩ := cons_of_closed he nofun
        obtain ⟨_, rfl, -⟩ := cons_of_closed he' nofun
        exact (hf _ _ rfl).elim
      · rename_i he
        obtain ⟨_, rfl, he'⟩ := cons_of_closed he nofun
        obtain ⟨_, rfl, -⟩ := cons_of_closed he' nofun
        exact (hf _ _ rfl).elim
      · rename_i he
        obtain ⟨_, rfl, -⟩ := cons_of_closed he nofun
        exact (hi _ rfl).elim
      · rename_i he
        obtain ⟨_, rfl, -⟩ := cons_of_closed he nofun
        exact (hc _ rfl).elim
      · exact .refl target text

theorem extends_member (h : Extends after expr expr') :
    Extends after (member expr) (member expr') := fun text =>
  .bind (extends_primary h text) fun e rest _ =>
    goes_membersFrom h e rest (Nat.le_refl _) (length_le_closed rest)

theorem extends_signed (h : Extends after expr expr') :
    Extends after (Reader.signed expr) (Reader.signed expr') := by
  intro text
  unfold Reader.signed
  split
  · rename_i s rest
    exact .cons (.bind (extends_member h rest) fun _ _ _ => .refl _ _)
  · rename_i hs
    split
    · rename_i he
      obtain ⟨_, rfl, -⟩ := cons_of_closed he nofun
      exact (hs _ _ rfl).elim
    · exact extends_member h text

section Chains

variable {op? : Symbol → Option (Expr → Expr → Expr)} {operand operand' : Reader Expr}

theorem chainFrom_nil (count : ℕ) (left : Expr) :
    chainFrom op? operand count left [] = .ok (left, []) := by
  cases count <;> rfl

theorem chainFrom_none {s : Symbol} (hs : op? s = none) (count : ℕ) (left : Expr)
    (rest : List Lexeme) :
    chainFrom op? operand count left (.symbol s :: rest) = .ok (left, .symbol s :: rest) := by
  cases count with
  | zero => rfl
  | succ count =>
    rw [chainFrom]
    simp only [hs]

theorem chainFrom_some {s : Symbol} {op : Expr → Expr → Expr} (hs : op? s = some op) (count : ℕ)
    (left : Expr) (rest : List Lexeme) :
    chainFrom op? operand (count + 1) left (.symbol s :: rest) =
      operand rest >>= fun r => chainFrom op? operand count (op left r.1) r.2 := by
  rw [chainFrom]
  simp only [hs]

/-- No more operators than there are lexemes are behind an operand, and none of them is a closing
parenthesis. -/
theorem goes_chainFrom (hp : op? .closeParen = none) (h : Extends after operand operand') :
    ∀ {count count' : ℕ} (left : Expr) (text : List Lexeme), text.length ≤ count →
      text.length ≤ count' →
      Goes after (text.length + 1) (chainFrom op? operand count left text)
        (chainFrom op? operand' count' left (closed text after))
  | _, _, left, [], _, _ => by
    rw [chainFrom_nil, closed, List.nil_append, chainFrom_none hp]
    exact .refl left []
  | count + 1, count' + 1, left, .symbol s :: rest, hc, hc' => by
    rw [List.length_cons] at hc hc'
    cases hs : op? s with
    | none =>
      change Goes after _ _
        (chainFrom op? operand' (count' + 1) left (.symbol s :: closed rest after))
      rw [chainFrom_none hs, chainFrom_none hs]
      exact .refl left (.symbol s :: rest)
    | some op =>
      rw [chainFrom_some hs,
        show closed (.symbol s :: rest) after = .symbol s :: closed rest after from rfl,
        chainFrom_some hs]
      exact .cons₂ (.bind (h rest) fun right rest' hl =>
        goes_chainFrom hp h _ rest' (by omega) (by omega))
  | count + 1, count' + 1, left, .literal v :: rest, _, _ => .refl left (.literal v :: rest)
  | count + 1, count' + 1, left, .name f :: rest, _, _ => .refl left (.name f :: rest)
  | count + 1, count' + 1, left, .invalid :: rest, _, _ => .refl left (.invalid :: rest)

theorem extends_chain (hp : op? .closeParen = none) (h : Extends after operand operand') :
    Extends after (chain op? operand) (chain op? operand') := fun text =>
  .bind (h text) fun left rest _ =>
    goes_chainFrom hp h left rest (Nat.le_refl _) (length_le_closed rest)

end Chains

theorem extends_sum (h : Extends after expr expr') : Extends after (sum expr) (sum expr') :=
  extends_chain rfl (extends_chain rfl (extends_signed h))

theorem extends_relation (h : Extends after expr expr') :
    Extends after (relation expr) (relation expr') := fun text =>
  .bind (extends_sum h text) fun left rest _ => by
    dsimp only
    split
    · rename_i r rest _
      exact .cons₂ (.bind (extends_sum h rest) fun _ _ _ => .refl _ _)
    · rename_i hr
      split
      · rename_i he
        obtain ⟨_, rfl, -⟩ := cons_of_closed he nofun
        exact (hr _ _ rfl).elim
      · exact .refl left rest

theorem extends_disjunction (h : Extends after expr expr') :
    Extends after (disjunction expr) (disjunction expr') :=
  extends_chain rfl (extends_chain rfl (extends_relation h))

theorem extends_exprFrom :
    ∀ {depth depth' : ℕ}, depth ≤ depth' → Extends after (exprFrom depth) (exprFrom depth')
  | 0, _, _, _ => .error
  | depth + 1, depth' + 1, hd, text => by
    have h : Extends after (exprFrom depth) (exprFrom depth') :=
      extends_exprFrom (Nat.le_of_succ_le_succ hd)
    refine .bind (extends_disjunction h text) fun condition rest _ => ?_
    dsimp only
    split
    · rename_i rest _
      exact .cons₂ (.bind (extends_disjunction h rest) fun _ rest _ => .succ
        (.bind (extends_expect .colon rest) fun _ rest _ =>
          .succ (.bind (h rest) fun _ _ _ => .refl _ _)))
    · rename_i hr
      split
      · rename_i he
        obtain ⟨_, rfl, -⟩ := cons_of_closed he nofun
        exact (hr _ rfl).elim
      · exact .refl condition rest

/-! ### Conjunctions -/

/-- Whether nothing follows a conjunct but another one. -/
def EndsConjunct : List Lexeme → Prop
  | [] | .symbol .and :: _ => True
  | _ => False

theorem EndsConjunct.eq {rest : List Lexeme} (h : EndsConjunct rest) :
    rest = [] ∨ ∃ rest', rest = .symbol .and :: rest' := by
  unfold EndsConjunct at h
  split at h
  · exact .inl rfl
  · exact .inr ⟨_, rfl⟩
  · exact h.elim

theorem member_of_primary {text rest : List Lexeme} {e : Expr}
    (h : primary expr text = .ok (e, rest)) (hr : EndsConjunct rest) :
    member expr text = .ok (e, rest) := by
  unfold member
  rw [h]
  rcases hr.eq with rfl | ⟨rest', rfl⟩ <;> rfl

theorem chain_of_operand {op? : Symbol → Option (Expr → Expr → Expr)} {operand : Reader Expr}
    {text rest : List Lexeme} {e : Expr} (h : operand text = .ok (e, rest)) (hp : op? .and = none)
    (hr : EndsConjunct rest) : chain op? operand text = .ok (e, rest) := by
  unfold chain
  rw [h]
  rcases hr.eq with rfl | ⟨rest', rfl⟩
  · exact chainFrom_nil _ e
  · exact chainFrom_none hp _ e rest'

variable {text text' : List Lexeme} {a b : Expr}

/-- An expression in parentheses is a conjunct. -/
theorem relation_enclosed (h : expr (closed text after) = .ok (a, .symbol .closeParen :: after))
    (ha : EndsConjunct after) :
    relation expr (.symbol .openParen :: closed text after) = .ok (a, after) := by
  have hp : primary expr (.symbol .openParen :: closed text after) = .ok (a, after) := by
    change (expr (closed text after) >>= fun r => expect .closeParen r.2 >>= fun r' =>
      .ok (r.1, r'.2)) = _
    rw [h]
    rfl
  have hm : Reader.signed expr (.symbol .openParen :: closed text after) = .ok (a, after) :=
    member_of_primary hp ha
  have hs : sum expr (.symbol .openParen :: closed text after) = .ok (a, after) :=
    chain_of_operand (chain_of_operand hm rfl ha) rfl ha
  unfold Reader.relation
  rw [hs]
  rcases ha.eq with rfl | ⟨rest', rfl⟩ <;> rfl

/-- The lexemes of a conjunction of two expressions in parentheses. -/
def conjoined (text text' : List Lexeme) : List Lexeme :=
  .symbol .openParen :: closed text (.symbol .and :: .symbol .openParen :: closed text' [])

theorem disjunction_conjoined
    (ha : expr (closed text (.symbol .and :: .symbol .openParen :: closed text' [])) =
      .ok (a, .symbol .closeParen :: .symbol .and :: .symbol .openParen :: closed text' []))
    (hb : expr (closed text' []) = .ok (b, [.symbol .closeParen])) :
    disjunction expr (conjoined text text') = .ok (.both a b, []) := by
  refine chain_of_operand ?_ rfl trivial
  unfold chain conjoined
  rw [relation_enclosed ha trivial]
  change chainFrom conjunction? (Reader.relation expr) ((closed text' []).length + 1 + 1) a
    (.symbol .and :: .symbol .openParen :: closed text' []) = _
  rw [chainFrom_some rfl, relation_enclosed hb trivial]
  exact chainFrom_nil _ (.both a b)

theorem exprFrom_closed {depth : ℕ} (h : ofLexemes text = .ok a) (hd : text.length < depth)
    (after : List Lexeme) :
    exprFrom depth (closed text after) = .ok (a, .symbol .closeParen :: after) :=
  (extends_exprFrom (Nat.succ_le_of_lt hd) text a [] (exprFrom_of_ofLexemes h)).2

theorem ofLexemes_conjoined (ha : ofLexemes text = .ok a) (hb : ofLexemes text' = .ok b) :
    ofLexemes (conjoined text text') = .ok (.both a b) := by
  have hl : text.length < (conjoined text text').length ∧
      text'.length < (conjoined text text').length := by
    simp only [conjoined, closed, List.length_cons, List.length_append]
    omega
  unfold ofLexemes exprFrom
  dsimp only
  rw [disjunction_conjoined (exprFrom_closed ha hl.1 _) (exprFrom_closed hb hl.2 _)]
  rfl

/-- The text of a conjunction of two expressions in parentheses, each closed on a line of its own,
since the expression may end in a comment. -/
def conjunction (source source' : String) : String :=
  "(" ++ source ++ "\n) && (" ++ source' ++ "\n)"

theorem toList_conjunction (source source' : String) : (conjunction source source').toList =
    '(' :: lined source.toList
      (')' :: ' ' :: '&' :: '&' :: ' ' :: '(' :: lined source'.toList [')']) := by
  simp [conjunction, lined]

theorem all_openParen (rest : List Char) :
    Lexeme.all ('(' :: rest) = .symbol .openParen :: Lexeme.all rest :=
  @all_of_next? '(' rest (.symbol .openParen, rest) (by rintro ⟨_, ⟨⟩⟩) rfl
    (next?_of_plain rfl rfl rfl)

theorem all_closeParen (rest : List Char) :
    Lexeme.all (')' :: rest) = .symbol .closeParen :: Lexeme.all rest :=
  @all_of_next? ')' rest (.symbol .closeParen, rest) (by rintro ⟨_, ⟨⟩⟩) rfl
    (next?_of_plain rfl rfl rfl)

theorem all_and (rest : List Char) :
    Lexeme.all ('&' :: '&' :: rest) = .symbol .and :: Lexeme.all rest :=
  @all_of_next? '&' ('&' :: rest) (.symbol .and, rest) (by rintro ⟨_, ⟨⟩⟩) rfl
    (next?_of_plain rfl rfl rfl)

theorem all_conjunction {source source' : String} (h : .invalid ∉ Lexeme.all source.toList)
    (h' : .invalid ∉ Lexeme.all source'.toList) : Lexeme.all (conjunction source source').toList =
      conjoined (Lexeme.all source.toList) (Lexeme.all source'.toList) := by
  rw [toList_conjunction, all_openParen, all_lined h, all_closeParen, all_blank rfl, all_and,
    all_blank rfl, all_openParen, all_lined h']
  rfl

/-- **A conjunction reads as the conjunction of what its operands read as.** -/
theorem read_conjunction {source source' : String} (ha : Expr.read source.toList = .ok a)
    (hb : Expr.read source'.toList = .ok b) :
    Expr.read (conjunction source source').toList = .ok (.both a b) := by
  unfold Expr.read
  rw [all_conjunction (invalid_notMem_of_ofLexemes ha) (invalid_notMem_of_ofLexemes hb)]
  exact ofLexemes_conjoined ha hb

end ClusterArchive.Proofs.Expr.Composition
