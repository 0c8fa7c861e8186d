import ClusterArchive.Json.Reader

/-! # A value is read from characters

Whatever the reader goes past is characters, never an ill-formed piece. `Behind input rest` says
this of what lies between the input and what is left of it; it holds of every reading function, from
the blanks to the members of an object (`readsCharacters`). So an input that holds a value is all
characters (`characters_of_read?`). -/

namespace ClusterArchive.Proofs.Json.Characters

open ClusterArchive.Json

/-- Whether only characters stand between the beginning of an input and what is left of it. -/
def Behind (input rest : Input) : Prop := ∃ text : List Char, input = text.map some ++ rest

theorem Behind.refl (input : Input) : Behind input input := ⟨[], rfl⟩

theorem Behind.step (c : Char) (rest : Input) : Behind (some c :: rest) rest := ⟨[c], rfl⟩

theorem Behind.trans {input middle rest : Input} (h : Behind input middle)
    (h' : Behind middle rest) :
    Behind input rest := by
  obtain ⟨text, rfl⟩ := h
  obtain ⟨text', rfl⟩ := h'
  exact ⟨text ++ text', by rw [List.map_append, List.append_assoc]⟩

theorem Behind.cons {input rest : Input} (c : Char) (h : Behind input rest) :
    Behind (some c :: input) rest :=
  (Behind.step c input).trans h

/-! ### Blanks and words -/

theorem behind_skipSpace : ∀ input : Input, Behind input (skipSpace input)
  | [] => .refl []
  | none :: input => .refl (none :: input)
  | some c :: input => by
    unfold skipSpace
    rw [List.dropWhile_cons]
    split
    · exact .cons c (behind_skipSpace input)
    · exact .refl _

theorem behind_of_skipSpace {input rest : Input} {c : Char} (h : skipSpace input = some c :: rest) :
    Behind input rest := (h ▸ behind_skipSpace input).trans (.step c rest)

theorem behind_after? : ∀ {text : List Char} {input rest : Input}, after? text input = some rest →
    Behind input rest
  | [], input, _, h => by
    cases h
    exact .refl input
  | _ :: _, [], _, h => by cases h
  | _ :: _, none :: _, _, h => by cases h
  | c :: text, some d :: input, rest, h => by
    unfold after? at h
    split at h
    · exact .cons d (behind_after? h)
    · cases h

/-! ### Strings -/

theorem behind_stringFrom :
    ∀ {input : Input} {done : List Char} {state : StringState} {text : List Char}
    {rest : Input}, stringFrom done state input = some (text, rest) → Behind input rest
  | [], _, state, _, _, h => by cases state <;> cases h
  | none :: _, _, state, _, _, h => by cases state <;> cases h
  | some c :: input, done, state, text, rest, h => by
    cases state with
    | plain =>
      unfold stringFrom at h
      split at h
      · cases h
        exact .step c input
      split at h
      · exact .cons c (behind_stringFrom h)
      split at h
      · cases h
      · exact .cons c (behind_stringFrom h)
    | escape =>
      unfold stringFrom at h
      split at h
      · exact .cons c (behind_stringFrom h)
      split at h
      · exact .cons c (behind_stringFrom h)
      · cases h
    | unit leading value missing =>
      unfold stringFrom at h
      split at h
      · cases h
      dsimp only at h
      split at h
      · exact .cons c (behind_stringFrom h)
      split at h
      · exact .cons c (behind_stringFrom h)
      · exact .cons c (behind_stringFrom h)
      · cases h
    | halfway high backslash =>
      unfold stringFrom at h
      split at h
      · split at h
        · exact .cons c (behind_stringFrom h)
        · cases h
      split at h
      · exact .cons c (behind_stringFrom h)
      · cases h

theorem behind_string {input : Input} {r : String × Input} (h : string input = some r) :
    Behind input r.2 := by
  obtain ⟨⟨text, rest⟩, hs, rfl⟩ := Option.map_eq_some_iff.mp h
  exact behind_stringFrom hs

/-! ### Numbers -/

theorem behind_digits : ∀ input : Input, Behind input (digits input).2
  | [] => .refl []
  | none :: input => .refl (none :: input)
  | some c :: input => by
    unfold digits
    split
    · exact .cons c (behind_digits input)
    · exact .refl _

theorem behind_of_digits {input rest : Input} {ds : List Nat} (h : digits input = (ds, rest)) :
    Behind input rest := by
  have hb := behind_digits input
  rwa [h] at hb

theorem behind_wholeDigits {input : Input} {r : List Nat × Input} (h : wholeDigits input = some r) :
    Behind input r.2 := by
  unfold wholeDigits at h
  split at h
  · cases h
  · rename_i hd
    cases h
    exact behind_of_digits hd
  · cases h
  · cases h
    exact behind_digits input

theorem behind_fractionDigits {input : Input} {r : Option (List Nat) × Input}
    (h : fractionDigits input = some r) : Behind input r.2 := by
  unfold fractionDigits at h
  split at h
  · split at h
    · cases h
    · rename_i hd
      cases h
      exact .cons '.' (behind_of_digits hd)
  · cases h
    exact .refl input

theorem behind_signedExponent {up : Bool} {input : Input} {r : Option (Bool × List Nat) × Input}
    (h : signedExponent up input = some r) : Behind input r.2 := by
  unfold signedExponent at h
  split at h
  · cases h
  · rename_i hd
    cases h
    exact behind_of_digits hd

theorem behind_exponentDigits {input : Input} {r : Option (Bool × List Nat) × Input}
    (h : exponentDigits input = some r) : Behind input r.2 := by
  unfold exponentDigits at h
  split at h
  · rename_i c rest
    split at h
    · split at h
      · exact .cons c (.cons '+' (behind_signedExponent h))
      · exact .cons c (.cons '-' (behind_signedExponent h))
      · exact .cons c (behind_signedExponent h)
    · cases h
      exact .refl _
  · cases h
    exact .refl input

theorem behind_numberText {input : Input} {r : NumberText × Input} (h : numberText input = some r) :
    Behind input r.2 := by
  unfold numberText at h
  split at h
  rename_i negative unsigned hu
  have hb : Behind input unsigned := by
    split at hu
    · cases hu
      exact .step '-' _
    · cases hu
      exact .refl input
  split at h
  · cases h
  rename_i hw
  split at h
  · cases h
  rename_i hf
  split at h
  · cases h
  rename_i he
  cases h
  exact hb.trans
    ((behind_wholeDigits hw).trans ((behind_fractionDigits hf).trans (behind_exponentDigits he)))

theorem behind_number {input : Input} {r : Value × Input} (h : number input = some r) :
    Behind input r.2 := by
  unfold number at h
  split at h
  · cases h
  · rename_i ht
    obtain ⟨n, -, rfl⟩ := Option.map_eq_some_iff.mp h
    exact behind_numberText ht

/-! ### Values -/

theorem behind_memberName {input : Input} {r : String × Input} (h : memberName input = some r) :
    Behind input r.2 := by
  unfold memberName at h
  split at h
  · rename_i hq
    split at h
    · cases h
    rename_i hs
    split at h
    · rename_i hc
      cases h
      exact (behind_of_skipSpace hq).trans ((behind_string hs).trans (behind_of_skipSpace hc))
    · cases h
  · cases h

/-- What is left of an input by the reading functions for values, items and members. -/
structure ReadsCharacters (fuel : Nat) : Prop where
  value : ∀ {depth input r}, valueFrom fuel depth input = some r → Behind input r.2
  items : ∀ {depth input r}, itemsFrom fuel depth input = some r → Behind input r.2
  members : ∀ {depth input r}, membersFrom fuel depth input = some r → Behind input r.2

/-- A value that is written as a word, its first character being read. -/
theorem behind_word {c : Char} {word : List Char} {v : Value} {input rest : Input}
    {r : Value × Input} (hs : skipSpace input = some c :: rest)
    (h : (after? word rest).map (v, ·) = some r) :
    Behind input r.2 := by
  obtain ⟨rest, hr, rfl⟩ := Option.map_eq_some_iff.mp h
  exact (behind_of_skipSpace hs).trans (behind_after? hr)

theorem behind_valueFrom_succ {fuel : Nat} (ih : ReadsCharacters fuel) {depth : Nat} {input : Input}
    {r : Value × Input} (h : valueFrom (fuel + 1) depth input = some r) : Behind input r.2 := by
  unfold valueFrom at h
  split at h
  · rename_i hs
    exact behind_word hs h
  · rename_i hs
    exact behind_word hs h
  · rename_i hs
    exact behind_word hs h
  · rename_i hs
    obtain ⟨q, hq, rfl⟩ := Option.map_eq_some_iff.mp h
    exact (behind_of_skipSpace hs).trans (behind_string hq)
  · rename_i rest hs
    split at h
    · cases h
    split at h
    · rename_i hc
      cases h
      exact (behind_of_skipSpace hs).trans (behind_of_skipSpace hc)
    · obtain ⟨q, hq, rfl⟩ := Option.map_eq_some_iff.mp h
      exact (behind_of_skipSpace hs).trans ((behind_skipSpace rest).trans (ih.items hq))
  · rename_i rest hs
    split at h
    · cases h
    split at h
    · rename_i hc
      cases h
      exact (behind_of_skipSpace hs).trans (behind_of_skipSpace hc)
    · obtain ⟨q, hq, rfl⟩ := Option.map_eq_some_iff.mp h
      exact (behind_of_skipSpace hs).trans ((behind_skipSpace rest).trans (ih.members hq))
  · rename_i c rest _ _ _ _ _ _ hs
    split at h
    · have hb := behind_number h
      rw [← hs] at hb
      exact (behind_skipSpace input).trans hb
    · cases h
  · cases h

theorem behind_itemsFrom_succ {fuel : Nat} (ih : ReadsCharacters fuel) {depth : Nat} {input : Input}
    {r : List Value × Input} (h : itemsFrom (fuel + 1) depth input = some r) :
    Behind input r.2 := by
  unfold itemsFrom at h
  split at h
  · cases h
  rename_i hv
  split at h
  · rename_i hs
    obtain ⟨q, hq, rfl⟩ := Option.map_eq_some_iff.mp h
    have hi := ih.items hq
    exact (ih.value hv).trans ((behind_of_skipSpace hs).trans hi)
  · rename_i hs
    cases h
    exact (ih.value hv).trans (behind_of_skipSpace hs)
  · cases h

theorem behind_membersFrom_succ {fuel : Nat} (ih : ReadsCharacters fuel) {depth : Nat}
    {input : Input} {r : List (String × Value) × Input}
    (h : membersFrom (fuel + 1) depth input = some r) :
    Behind input r.2 := by
  unfold membersFrom at h
  split at h
  · cases h
  rename_i hn
  split at h
  · cases h
  rename_i hv
  have hb := (behind_memberName hn).trans (ih.value hv)
  split at h
  · rename_i hs
    obtain ⟨q, hq, rfl⟩ := Option.map_eq_some_iff.mp h
    have hm := ih.members hq
    exact hb.trans ((behind_of_skipSpace hs).trans hm)
  · rename_i hs
    cases h
    exact hb.trans (behind_of_skipSpace hs)
  · cases h

theorem readsCharacters : ∀ fuel : Nat, ReadsCharacters fuel
  | 0 => by constructor <;> intros _ _ _ h <;> cases h
  | fuel + 1 =>
    have ih := readsCharacters fuel
    ⟨behind_valueFrom_succ ih, behind_itemsFrom_succ ih, behind_membersFrom_succ ih⟩

/-- An input that holds a value is all characters. -/
theorem characters_of_read? {input : Input} {v : Value} (h : read? input = some v) :
    ∃ text : List Char, input = text.map some := by
  unfold read? at h
  split at h
  · rename_i rest hv
    split at h
    · rename_i hd
      have hr : skipSpace rest = [] := List.isEmpty_iff.mp hd
      have hb : Behind input (skipSpace rest) :=
        ((readsCharacters _).value hv).trans (behind_skipSpace rest)
      rw [hr] at hb
      obtain ⟨text, ht⟩ := hb
      exact ⟨text, by rw [ht, List.append_nil]⟩
    · cases h
  · cases h

end ClusterArchive.Proofs.Json.Characters
