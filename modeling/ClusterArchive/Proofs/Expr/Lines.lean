import ClusterArchive.Expr.Lexeme
import Mathlib.Data.List.Basic

/-! # Lexemes end with their line

A line end belongs to no lexeme but to a text between quotes, and it ends a comment. So what is cut
out of a text is the same if a line end and more follow (`all_lined`). One thing is in the way: a
quote that is left open in the text may be closed in what follows. But an open quote leaves an
invalid lexeme (`mem_all_of_open`), so this cannot happen if all lexemes are valid.

The lengths of the possible forms of a number look only at the line that they are in (`Local`); a
quoted text that is closed in its line stays what it is (`quoted?_lined_some`), and so does every
lexeme (`next?_lined`). -/

namespace ClusterArchive.Proofs.Expr.Lines

open ClusterArchive.Expr ClusterArchive.Expr.Literal

/-- A text as a line of its own, before others. -/
def lined (text tail : List Char) : List Char := text ++ '\n' :: tail

variable {tail : List Char}

theorem drop_lined {n : Nat} {text : List Char} (h : n ≤ text.length) :
    (lined text tail).drop n = lined (text.drop n) tail := List.drop_append_of_le_length h

theorem take_lined {n : Nat} {text : List Char} (h : n ≤ text.length) :
    (lined text tail).take n = text.take n := List.take_append_of_le_length h

theorem takeWhile_lined {p : Char → Bool} (hp : p '\n' = false) : ∀ text : List Char,
    (lined text tail).takeWhile p = text.takeWhile p
  | [] => List.takeWhile_cons_of_neg (by simp [hp])
  | c :: text => by
    change (c :: lined text tail).takeWhile p = _
    rw [List.takeWhile_cons, List.takeWhile_cons, takeWhile_lined hp text]

theorem dropWhile_lined {p : Char → Bool} (hp : p '\n' = false) : ∀ text : List Char,
    (lined text tail).dropWhile p = lined (text.dropWhile p) tail
  | [] => List.dropWhile_cons_of_neg (by simp [hp])
  | c :: text => by
    change (c :: lined text tail).dropWhile p = _
    rw [List.dropWhile_cons, List.dropWhile_cons, dropWhile_lined hp text]
    split <;> rfl

/-! ### Lengths of numbers -/

/-- Whether the length of something at the head of a text does not change if the text is a line. -/
structure Local (length : List Char → Nat) : Prop where
  lined : ∀ text tail, length (lined text tail) = length text
  le : ∀ text, length text ≤ text.length

theorem Local.drop_lined {length : List Char → Nat} (h : Local length) (text tail : List Char) :
    (Lines.lined text tail).drop (length (Lines.lined text tail)) =
      Lines.lined (text.drop (length text)) tail := by
  rw [h.lined, Lines.drop_lined (h.le text)]

theorem local_run {p : Char → Bool} (hp : p '\n' = false) :
    Local fun text => (text.takeWhile p).length where
  lined text _ := congrArg List.length (takeWhile_lined hp text)
  le _ := (List.takeWhile_sublist p).length_le

theorem local_digits : Local digitsLength := local_run rfl

/-- The length of a sign of an exponent or a double. -/
def anySign : List Char → Nat
  | '+' :: _ | '-' :: _ => 1
  | _ => 0

/-- The length of a sign of a whole number. -/
def minusSign : List Char → Nat
  | '-' :: _ => 1
  | _ => 0

theorem anySign_cons (c : Char) (text : List Char) :
    anySign (c :: text) = if c = '+' ∨ c = '-' then 1 else 0 := by
  unfold anySign
  split <;> simp_all

theorem minusSign_cons (c : Char) (text : List Char) :
    minusSign (c :: text) = if c = '-' then 1 else 0 := by
  unfold minusSign
  split <;> simp_all

theorem local_anySign : Local anySign where
  lined text tail := by
    cases text with
    | nil => rfl
    | cons c text => exact (anySign_cons c _).trans (anySign_cons c text).symm
  le text := by
    cases text with
    | nil => exact Nat.le_refl 0
    | cons c text =>
      rw [anySign_cons]
      split <;> simp

theorem local_minusSign : Local minusSign where
  lined text tail := by
    cases text with
    | nil => rfl
    | cons c text => exact (minusSign_cons c _).trans (minusSign_cons c text).symm
  le text := by
    cases text with
    | nil => exact Nat.le_refl 0
    | cons c text =>
      rw [minusSign_cons]
      split <;> simp

theorem exponentLength_cons (c : Char) (rest : List Char) : exponentLength (c :: rest) =
    if (c = 'e' ∨ c = 'E') ∧ digitsLength (rest.drop (anySign rest)) ≠ 0 then
      digitsLength (rest.drop (anySign rest)) + 1 + anySign rest
    else 0 := by
  unfold exponentLength
  dsimp only
  by_cases hc : c = 'e' ∨ c = 'E'
  · rw [if_pos hc]
    split
    · rename_i hd
      exact (if_neg fun h => h.2 hd).symm
    · rename_i n hd
      change digitsLength (rest.drop (anySign rest)) = n + 1 at hd
      rw [if_pos ⟨hc, by omega⟩, hd]
      rfl
  · rw [if_neg hc, if_neg fun h => hc h.1]

theorem local_exponent : Local exponentLength where
  lined text tail := by
    cases text with
    | nil => rfl
    | cons c rest =>
      change exponentLength (c :: lined rest tail) = _
      rw [exponentLength_cons, exponentLength_cons, local_anySign.lined,
        drop_lined (local_anySign.le rest), local_digits.lined]
  le text := by
    cases text with
    | nil => exact Nat.le_refl 0
    | cons c rest =>
      have hd := local_digits.le (rest.drop (anySign rest))
      rw [List.length_drop] at hd
      rw [exponentLength_cons, List.length_cons]
      split_ifs <;> omega

/-- The length of a double whose sign and first digits have been read. -/
def doubleFrom (sign whole : Nat) : List Char → Nat
  | '.' :: rest =>
    match digitsLength rest with
    | 0 => 0
    | n + 1 => sign + whole + n + 2 + exponentLength (rest.drop (n + 1))
  | rest =>
    match whole, exponentLength rest with
    | 0, _ | _, 0 => 0
    | whole, exponent => sign + whole + exponent

theorem doubleFrom_point (sign whole : Nat) (rest : List Char) :
    doubleFrom sign whole ('.' :: rest) =
    if digitsLength rest = 0 then 0
    else sign + whole + digitsLength rest + 1 + exponentLength (rest.drop (digitsLength rest)) := by
  rw [doubleFrom.eq_1]
  split
  · rename_i hd
    rw [if_pos hd]
  · rename_i n hd
    rw [if_neg (by omega), hd]
    rfl

theorem doubleFrom_cons {c : Char} (hc : c ≠ '.') (sign whole : Nat) (rest : List Char) :
    doubleFrom sign whole (c :: rest) =
      if whole = 0 ∨ exponentLength (c :: rest) = 0 then 0
        else sign + whole + exponentLength (c :: rest) := by
  unfold doubleFrom
  split
  · simp_all
  · split <;> simp_all

theorem doubleFrom_lined (sign whole : Nat) (text : List Char) :
    doubleFrom sign whole (lined text tail) = doubleFrom sign whole text := by
  cases text with
  | nil => rfl
  | cons c rest =>
    change doubleFrom sign whole (c :: lined rest tail) = _
    by_cases hc : c = '.'
    · subst hc
      rw [doubleFrom_point, doubleFrom_point, local_digits.lined, drop_lined (local_digits.le rest),
        local_exponent.lined]
    · have he : exponentLength (c :: lined rest tail) = exponentLength (c :: rest) :=
        local_exponent.lined (c :: rest) tail
      rw [doubleFrom_cons hc, doubleFrom_cons hc, he]

theorem doubleFrom_le (sign whole : Nat) (text : List Char) :
    doubleFrom sign whole text ≤ sign + whole + text.length := by
  cases text with
  | nil => cases whole <;> exact Nat.zero_le _
  | cons c rest =>
    by_cases hc : c = '.'
    · subst hc
      have hd := local_digits.le rest
      have he := local_exponent.le (rest.drop (digitsLength rest))
      rw [List.length_drop] at he
      rw [doubleFrom_point, List.length_cons]
      split_ifs <;> omega
    · have he := local_exponent.le (c :: rest)
      rw [doubleFrom_cons hc]
      split_ifs <;> omega

theorem doubleLength_eq (text : List Char) :
    doubleLength text = doubleFrom (anySign text) (digitsLength (text.drop (anySign text)))
      ((text.drop (anySign text)).drop (digitsLength (text.drop (anySign text)))) := rfl

theorem local_double : Local doubleLength where
  lined text tail := by
    rw [doubleLength_eq, doubleLength_eq, local_anySign.lined, drop_lined (local_anySign.le text),
      local_digits.lined, drop_lined (local_digits.le _), doubleFrom_lined]
  le text := by
    have hs := local_anySign.le text
    have hd := local_digits.le (text.drop (anySign text))
    have hf := doubleFrom_le (anySign text) (digitsLength (text.drop (anySign text)))
      ((text.drop (anySign text)).drop (digitsLength (text.drop (anySign text))))
    rw [doubleLength_eq]
    simp only [List.length_drop] at hd hf
    omega

theorem intLength_eq (text : List Char) : intLength text =
    if digitsLength (text.drop (minusSign text)) = 0 then 0
    else minusSign text + digitsLength (text.drop (minusSign text)) := by
  unfold intLength
  dsimp only
  split
  · rename_i hd
    exact (if_pos hd).symm
  · rename_i hd
    exact (if_neg hd).symm

theorem local_int : Local intLength where
  lined text tail := by
    rw [intLength_eq, intLength_eq, local_minusSign.lined, drop_lined (local_minusSign.le text),
      local_digits.lined]
  le text := by
    have hs := local_minusSign.le text
    have hd := local_digits.le (text.drop (minusSign text))
    rw [List.length_drop] at hd
    rw [intLength_eq]
    split_ifs <;> omega

/-- The length of a run of hexadecimal digits. -/
def hexDigitsLength (text : List Char) : Nat :=
  (text.takeWhile fun c => (Text.hexDigit? c).isSome).length

theorem local_hexDigits : Local hexDigitsLength := local_run rfl

/-- The length of a hexadecimal number whose sign has been read. -/
def hexFrom (sign : Nat) : List Char → Nat
  | '0' :: x :: rest =>
    if x = 'x' ∨ x = 'X' then
      match hexDigitsLength rest with
      | 0 => 0
      | n => sign + 2 + n
    else 0
  | _ => 0

theorem hexFrom_single (sign : Nat) (c : Char) : hexFrom sign [c] = 0 := by
  unfold hexFrom
  split <;> simp_all

theorem hexFrom_cons (sign : Nat) (c x : Char) (rest : List Char) :
    hexFrom sign (c :: x :: rest) =
      if c = '0' ∧ (x = 'x' ∨ x = 'X') ∧ hexDigitsLength rest ≠ 0
      then sign + 2 + hexDigitsLength rest else 0 := by
  unfold hexFrom
  split
  · rename_i h
    cases h
    cases hexDigitsLength rest <;> simp
  · rename_i h
    have hc : c ≠ '0' := fun hc => h x rest (by rw [hc])
    rw [if_neg fun h => hc h.1]

theorem hexFrom_lined (sign : Nat) (text : List Char) :
    hexFrom sign (lined text tail) = hexFrom sign text := by
  rcases text with _ | ⟨c, _ | ⟨x, rest⟩⟩
  · cases tail with
    | nil => exact hexFrom_single sign '\n'
    | cons d tail =>
      exact (hexFrom_cons sign '\n' d tail).trans (if_neg fun h => absurd h.1 (by decide))
  · refine (hexFrom_cons sign c '\n' tail).trans
      ((if_neg fun h => ?_).trans (hexFrom_single sign c).symm)
    exact absurd h.2.1 (by decide)
  · change hexFrom sign (c :: x :: lined rest tail) = _
    rw [hexFrom_cons, hexFrom_cons, local_hexDigits.lined]

theorem hexFrom_le (sign : Nat) (text : List Char) : hexFrom sign text ≤ sign + text.length := by
  rcases text with _ | ⟨c, _ | ⟨x, rest⟩⟩
  · exact Nat.zero_le _
  · rw [hexFrom_single]
    exact Nat.zero_le _
  · have hd := local_hexDigits.le rest
    rw [hexFrom_cons, List.length_cons, List.length_cons]
    split_ifs <;> omega

theorem hexLength_eq (text : List Char) :
    hexLength text = hexFrom (minusSign text) (text.drop (minusSign text)) := rfl

theorem local_hex : Local hexLength where
  lined text tail := by
    rw [hexLength_eq, hexLength_eq, local_minusSign.lined, drop_lined (local_minusSign.le text),
      hexFrom_lined]
  le text := by
    have hs := local_minusSign.le text
    have hf := hexFrom_le (minusSign text) (text.drop (minusSign text))
    rw [List.length_drop] at hf
    rw [hexLength_eq]
    omega

/-- Whether a text begins with the mark of an unsigned number. -/
def isMarked : List Char → Bool
  | ' ' :: 'u' :: _ | ' ' :: 'U' :: _ => true
  | _ => false

theorem isMarked_single (c : Char) : isMarked [c] = false := by
  unfold isMarked
  split <;> simp_all

theorem isMarked_cons (c d : Char) (rest : List Char) :
    isMarked (c :: d :: rest) = decide (c = ' ' ∧ (d = 'u' ∨ d = 'U')) := by
  unfold isMarked
  split <;> simp_all

theorem isMarked_lined (text : List Char) : isMarked (lined text tail) = isMarked text := by
  rcases text with _ | ⟨c, _ | ⟨d, rest⟩⟩
  · cases tail with
    | nil => exact isMarked_single '\n'
    | cons d tail => exact (isMarked_cons '\n' d tail).trans (by simp [isMarked])
  · exact (isMarked_cons c '\n' tail).trans (by simp [isMarked_single])
  · exact (isMarked_cons c d (lined rest tail)).trans (isMarked_cons c d rest).symm

theorem length_of_isMarked {text : List Char} (h : isMarked text = true) : 2 ≤ text.length := by
  rcases text with _ | ⟨c, _ | ⟨d, rest⟩⟩
  · cases h
  · rw [isMarked_single] at h
    cases h
  · simp

theorem unsignedLength_eq (length : Nat) (text : List Char) :
    unsignedLength length text =
      if length ≠ 0 ∧ isMarked (text.drop length) then length + 2 else 0 := by
  unfold unsignedLength isMarked
  cases length with
  | zero => rfl
  | succ n => split <;> simp_all

theorem local_unsigned {length : List Char → Nat} (h : Local length) :
    Local fun text => unsignedLength (length text) text where
  lined text tail := by
    rw [unsignedLength_eq, unsignedLength_eq, h.lined, drop_lined (h.le text), isMarked_lined]
  le text := by
    rw [unsignedLength_eq]
    split_ifs with hm
    · have hl := length_of_isMarked hm.2
      rw [List.length_drop] at hl
      omega
    · exact Nat.zero_le _

theorem Local.max {first second : List Char → Nat} (h : Local first) (h' : Local second) :
    Local fun text => Max.max (first text) (second text) where
  lined text tail := by rw [h.lined, h'.lined]
  le text := Nat.max_le.mpr ⟨h.le text, h'.le text⟩

/-- The length of a number without a value. -/
def otherLength (text : List Char) : Nat :=
  max (hexLength text)
    (max (unsignedLength (intLength text) text) (unsignedLength (hexLength text) text))

theorem local_other : Local otherLength :=
  local_hex.max ((local_unsigned local_int).max (local_unsigned local_hex))

/-- The length of a number. -/
def numberLength (text : List Char) : Nat :=
  max (intLength text) (max (doubleLength text) (otherLength text))

theorem local_number : Local numberLength := local_int.max (local_double.max local_other)

/-- The value of a number. -/
def numberValue (text : List Char) : Option Literal :=
  if numberLength text = otherLength text then none
  else if numberLength text = doubleLength text then
    (Binary64.ofText? (text.take (numberLength text))).map .double
  else intValue? (text.take (numberLength text))

theorem number?_eq (text : List Char) : number? text =
    if numberLength text = 0 then none
      else some (numberValue text, text.drop (numberLength text)) := rfl

theorem number?_lined (text : List Char) :
    number? (lined text tail) = (number? text).map fun r => (r.1, lined r.2 tail) := by
  have hl := local_number.lined text tail
  have hv : numberValue (lined text tail) = numberValue text := by
    unfold numberValue
    rw [hl, local_other.lined, local_double.lined, take_lined (local_number.le text)]
  rw [number?_eq, number?_eq, hl, hv, drop_lined (local_number.le text)]
  split <;> rfl

theorem length_of_number? {text : List Char} {r : Option Literal × List Char}
    (h : number? text = some r) :
    r.2.length < text.length := by
  have hl := local_number.le text
  rw [number?_eq] at h
  split at h
  · cases h
  · cases h
    rw [List.length_drop]
    omega

/-! ### Quoted texts -/

section Quotes

variable {q : Char} {lines : Bool}

theorem untilQuote?_cons {c : Char} (hc : c ≠ '\\') (rest : List Char) :
    untilQuote? q lines (c :: rest) =
    if c = q then some ([], rest)
    else if c = '\n' ∧ !lines then none
    else (untilQuote? q lines rest).map fun r => (c :: r.1, r.2) := by
  rw [untilQuote?]
  · simp only [hc, false_or]
  · intro d rest' h
    exact absurd h (by simp [hc])

theorem untilQuote?_backslash (hq : q ≠ '\\') : untilQuote? q lines ['\\'] = none := by
  rw [untilQuote?]
  · simp [hq.symm]
  · simp

theorem untilQuote?_escaped (c : Char) (rest : List Char) :
    untilQuote? q lines ('\\' :: c :: rest) =
    if c = '\n' then none else (untilQuote? q lines rest).map fun r => ('\\' :: c :: r.1, r.2) := by
  rw [untilQuote?]

/-- Quoted text is read character by character, but a backslash takes the next one with it. -/
theorem quoted_induction {P : List Char → Prop} (nil : P []) (lone : P ['\\'])
    (escaped : ∀ c rest, P rest → P ('\\' :: c :: rest))
    (plain : ∀ c rest, c ≠ '\\' → P rest → P (c :: rest)) :
    ∀ text, P text
  | [] => nil
  | [c] => by
    by_cases hc : c = '\\'
    · exact hc ▸ lone
    · exact plain c [] hc nil
  | c :: d :: rest => by
    by_cases hc : c = '\\'
    · exact hc ▸ escaped d rest (quoted_induction nil lone escaped plain rest)
    · exact plain c (d :: rest) hc (quoted_induction nil lone escaped plain (d :: rest))

/-- What ends in a line ends at the same place, whatever lines follow. -/
theorem untilQuote?_lined (hq : q ≠ '\\') (text : List Char) : ∀ {r : List Char × List Char},
    untilQuote? q lines text = some r →
      untilQuote? q lines (lined text tail) = some (r.1, lined r.2 tail) ∧
        r.2.length < text.length := by
  induction text using quoted_induction with
  | nil =>
    intro r h
    cases h
  | lone =>
    intro r h
    rw [untilQuote?_backslash hq] at h
    cases h
  | escaped c rest ih =>
    intro r h
    change untilQuote? q lines ('\\' :: c :: lined rest tail) = _ ∧ _
    rw [untilQuote?_escaped] at h ⊢
    split_ifs at h ⊢
    obtain ⟨r, hr, rfl⟩ := Option.map_eq_some_iff.mp h
    obtain ⟨hl, hs⟩ := ih hr
    rw [hl]
    exact ⟨rfl, Nat.lt_succ_of_lt (Nat.lt_succ_of_lt hs)⟩
  | plain c rest hc ih =>
    intro r h
    change untilQuote? q lines (c :: lined rest tail) = _ ∧ _
    rw [untilQuote?_cons hc] at h ⊢
    split_ifs at h ⊢
    · cases h
      exact ⟨rfl, by simp⟩
    · obtain ⟨r, hr, rfl⟩ := Option.map_eq_some_iff.mp h
      obtain ⟨hl, hs⟩ := ih hr
      rw [hl]
      exact ⟨rfl, Nat.lt_succ_of_lt hs⟩

/-- A text that ends where line ends are allowed, but not where they are not, has a line end in
it. -/
theorem untilQuote?_broken (hq : q ≠ '\\') (text : List Char) : untilQuote? q true text ≠ none →
    untilQuote? q false text = none → untilQuote? q false (lined text tail) = none := by
  induction text using quoted_induction with
  | nil => exact fun h _ => absurd rfl h
  | lone => exact fun h _ => absurd (untilQuote?_backslash hq) h
  | escaped c rest ih =>
    intro h h'
    change untilQuote? q false ('\\' :: c :: lined rest tail) = none
    rw [untilQuote?_escaped] at h h' ⊢
    split_ifs at h h' ⊢
    · rfl
    · simp only [ne_eq, Option.map_eq_none_iff] at h h' ⊢
      exact ih h h'
  | plain c rest hc ih =>
    intro h h'
    change untilQuote? q false (c :: lined rest tail) = none
    rw [untilQuote?_cons hc] at h h' ⊢
    split_ifs at h h' ⊢ <;> simp_all

/-- Whether a text begins with a quote that is not closed. -/
def Unclosed : List Char → Prop
  | [] => False
  | q :: rest => isQuote q = true ∧ untilQuote? q true rest = none

/-- Whether a text begins with a quote, marked or not, that is not closed. -/
def Open (text : List Char) : Prop :=
  Unclosed text ∨ ∃ c rest, text = c :: rest ∧ c ∈ ['r', 'R', 'b'] ∧ Unclosed rest

theorem ne_backslash_of_isQuote {q : Char} (h : isQuote q = true) : q ≠ '\\' := by
  rintro rfl
  cases h

/-- The literal that is made of the text up to a quote. -/
def closedBy (q : Char) (lines : Bool) (make : List Char → Option Literal) (text : List Char) :
    Option (Option Literal × List Char) := (untilQuote? q lines text).map fun r => (make r.1, r.2)

theorem closedBy_lined (hq : isQuote q = true) {make : List Char → Option Literal}
    {text : List Char} {r : Option Literal × List Char} (h : closedBy q lines make text = some r) :
    closedBy q lines make (lined text tail) = some (r.1, lined r.2 tail) ∧
      r.2.length < text.length := by
  obtain ⟨b, hb, rfl⟩ := Option.map_eq_some_iff.mp h
  obtain ⟨hl, hs⟩ := untilQuote?_lined (ne_backslash_of_isQuote hq) text hb
  rw [closedBy, hl]
  exact ⟨rfl, hs⟩

theorem closedBy_eq_none {make : List Char → Option Literal} {text : List Char} :
    closedBy q lines make text = none ↔ untilQuote? q lines text = none := Option.map_eq_none_iff

theorem quoted?_quote (hq : isQuote q = true) (rest : List Char) : quoted? (q :: rest) =
    closedBy q true (fun text => (unescape? q text).map fun t => .string (String.ofList t)) rest :=
  if_pos hq

theorem quoted?_single {c : Char} (hc : isQuote c = false) : quoted? [c] = none :=
  if_neg (by rw [hc]; exact Bool.false_ne_true)

theorem quoted?_marked {c : Char} (hc : isQuote c = false) (q : Char) (rest : List Char) :
    quoted? (c :: q :: rest) =
    if isQuote q = false then none
    else if c = 'r' ∨ c = 'R' then
      closedBy q true (fun text => some (.string (String.ofList (unescapeRaw q text)))) rest
    else if c = 'b' then closedBy q false (fun text => (bytesFrom text.length text).map .bytes) rest
    else none := by
  refine (if_neg (by rw [hc]; exact Bool.false_ne_true)).trans ?_
  cases isQuote q <;> rfl

theorem quoted?_lined_some {text : List Char} {r : Option Literal × List Char}
    (h : quoted? text = some r) :
    quoted? (lined text tail) = some (r.1, lined r.2 tail) ∧ r.2.length < text.length := by
  rcases text with _ | ⟨c, rest⟩
  · cases h
  by_cases hc : isQuote c = true
  · change quoted? (c :: lined rest tail) = _ ∧ _
    rw [quoted?_quote hc] at h ⊢
    obtain ⟨hl, hs⟩ := closedBy_lined hc h
    exact ⟨hl, Nat.lt_succ_of_lt hs⟩
  rw [Bool.not_eq_true] at hc
  rcases rest with _ | ⟨q, rest⟩
  · rw [quoted?_single hc] at h
    cases h
  change quoted? (c :: q :: lined rest tail) = _ ∧ _
  rw [quoted?_marked hc] at h ⊢
  split_ifs at h ⊢ with hq h₁ h₂
  all_goals
    obtain ⟨hl, hs⟩ := closedBy_lined (Bool.not_eq_false _ ▸ hq) h
    exact ⟨hl, Nat.lt_succ_of_lt (Nat.lt_succ_of_lt hs)⟩

theorem quoted?_lined_none {text : List Char} (h : quoted? text = none) (ho : ¬ Open text)
    (hn : text ≠ []) :
    quoted? (lined text tail) = none := by
  rcases text with _ | ⟨c, rest⟩
  · exact absurd rfl hn
  by_cases hc : isQuote c = true
  · rw [quoted?_quote hc, closedBy_eq_none] at h
    exact absurd (.inl ⟨hc, h⟩) ho
  rw [Bool.not_eq_true] at hc
  rcases rest with _ | ⟨q, rest⟩
  · exact (quoted?_marked hc '\n' tail).trans (if_pos rfl)
  change quoted? (c :: q :: lined rest tail) = none
  rw [quoted?_marked hc] at h ⊢
  split_ifs at h ⊢ with hq h₁ h₂
  · rfl
  · have hq : isQuote q = true := Bool.not_eq_false _ ▸ hq
    have hm : c ∈ ['r', 'R', 'b'] := by rcases h₁ with rfl | rfl <;> decide
    exact absurd (.inr ⟨c, q :: rest, rfl, hm, hq, closedBy_eq_none.mp h⟩) ho
  · have hq : isQuote q = true := Bool.not_eq_false _ ▸ hq
    have hm : c ∈ ['r', 'R', 'b'] := by rw [h₂]; decide
    rw [closedBy_eq_none] at h ⊢
    exact untilQuote?_broken (ne_backslash_of_isQuote hq) rest
      (fun hu => ho (.inr ⟨c, q :: rest, rfl, hm, hq, hu⟩)) h
  · rfl

end Quotes

/-! ### One lexeme -/

theorem next?_of_number {text : List Char} {r : Option Literal × List Char}
    (h : number? text = some r) :
    Lexeme.next? text = some (.literal r.1, r.2) := by
  unfold Lexeme.next?
  simp only [h]

theorem next?_of_quoted {text : List Char} {r : Option Literal × List Char}
    (hn : number? text = none) (h : quoted? text = some r) :
    Lexeme.next? text = some (.literal r.1, r.2) := by
  unfold Lexeme.next?
  simp only [hn, h]

theorem next?_of_none {c : Char} {rest : List Char} (hn : number? (c :: rest) = none)
    (hq : quoted? (c :: rest) = none) : Lexeme.next? (c :: rest) =
      if Lexeme.startsName c then
        some (Lexeme.ofWord ((c :: rest).takeWhile Lexeme.continuesName),
          (c :: rest).dropWhile Lexeme.continuesName)
      else (Lexeme.symbol? (c :: rest)).map fun s => (.symbol s.1, s.2) := by
  unfold Lexeme.next?
  simp only [hn, hq]

/-- A character that begins neither a number nor a quote nor a name can only begin a symbol. -/
theorem next?_of_plain {c : Char} {rest : List Char} (hn : number? (c :: rest) = none)
    (hq : isQuote c = false) (hs : Lexeme.startsName c = false) :
    Lexeme.next? (c :: rest) = (Lexeme.symbol? (c :: rest)).map fun s => (.symbol s.1, s.2) := by
  have hm : c ≠ 'r' ∧ c ≠ 'R' ∧ c ≠ 'b' := by
    refine ⟨?_, ?_, ?_⟩ <;> rintro rfl <;> cases hs
  have hq : quoted? (c :: rest) = none := by
    cases rest with
    | nil => exact quoted?_single hq
    | cons q rest =>
      rw [quoted?_marked hq, if_neg (not_or.mpr ⟨hm.1, hm.2.1⟩), if_neg hm.2.2, ite_self]
  rw [next?_of_none hn hq, hs]
  rfl

theorem ne_lined {c : Char} {text : List Char} (h : ∀ rest, text = c :: rest → False)
    (hc : c ≠ '\n') (rest : List Char) : lined text tail = c :: rest → False := by
  cases text with
  | nil => exact fun he => hc (List.cons.inj he).1.symm
  | cons d text =>
    intro he
    exact h text (by rw [(List.cons.inj he).1])

theorem symbol?_lined {text : List Char} {r : Symbol × List Char}
    (h : Lexeme.symbol? text = some r) :
    Lexeme.symbol? (lined text tail) = some (r.1, lined r.2 tail) ∧ r.2.length < text.length := by
  unfold Lexeme.symbol? at h
  split at h
  all_goals cases h
  all_goals refine ⟨?_, by simp only [List.length_cons]; omega⟩
  -- a symbol of one character that may be the first one of a longer symbol
  case h_4.refl rest hr => exact Lexeme.symbol?.eq_4 _ (ne_lined hr (by decide))
  case h_6.refl rest hr => exact Lexeme.symbol?.eq_6 _ (ne_lined hr (by decide))
  case h_10.refl rest hr hr' =>
    exact Lexeme.symbol?.eq_10 _ (ne_lined hr (by decide)) (ne_lined hr' (by decide))
  case h_12.refl rest hr => exact Lexeme.symbol?.eq_12 _ (ne_lined hr (by decide))
  all_goals rfl

theorem isQuote_iff {q : Char} : isQuote q = true ↔ q = '\'' ∨ q = '"' := by
  rw [isQuote, Bool.or_eq_true, beq_iff_eq, beq_iff_eq]

theorem symbol?_isQuote {q : Char} (hq : isQuote q = true) (rest : List Char) :
    Lexeme.symbol? (q :: rest) = none := by
  rcases isQuote_iff.mp hq with rfl | rfl <;> rfl

theorem continuesName_of_startsName {c : Char} (h : Lexeme.startsName c = true) :
    Lexeme.continuesName c = true := by
  unfold Lexeme.startsName at h
  unfold Lexeme.continuesName Char.isAlphanum
  rw [Bool.or_eq_true] at h
  rcases h with h | h <;> simp [h]

theorem length_of_next? {text : List Char} {r : Lexeme × List Char}
    (h : Lexeme.next? text = some r) :
    r.2.length < text.length := by
  cases hn : number? text with
  | some v =>
    rw [next?_of_number hn] at h
    cases h
    exact length_of_number? hn
  | none =>
    cases hq : quoted? text with
    | some v =>
      rw [next?_of_quoted hn hq] at h
      cases h
      exact (@quoted?_lined_some [] text v hq).2
    | none =>
      cases text with
      | nil => cases h
      | cons c rest =>
        rw [next?_of_none hn hq] at h
        split at h
        · rename_i hs
          cases h
          rw [List.dropWhile_cons_of_pos (continuesName_of_startsName hs)]
          exact Nat.lt_succ_of_le (List.dropWhile_sublist _).length_le
        · obtain ⟨s, hs, rfl⟩ := Option.map_eq_some_iff.mp h
          exact (@symbol?_lined [] _ s hs).2

/-- A lexeme is cut out of a line in the same way, whatever lines follow, unless a quote is left
open. -/
theorem next?_lined {text : List Char} {r : Lexeme × List Char} (h : Lexeme.next? text = some r)
    (ho : number? text = none → quoted? text = none → ¬ Open text) :
    Lexeme.next? (lined text tail) = some (r.1, lined r.2 tail) := by
  have hl := @number?_lined tail text
  cases hn : number? text with
  | some v =>
    rw [next?_of_number hn] at h
    cases h
    rw [hn] at hl
    exact next?_of_number hl
  | none =>
    rw [hn] at hl
    cases hq : quoted? text with
    | some v =>
      rw [next?_of_quoted hn hq] at h
      cases h
      exact next?_of_quoted hl (quoted?_lined_some hq).1
    | none =>
      cases text with
      | nil => cases h
      | cons c rest =>
        have hql := @quoted?_lined_none tail _ hq (ho hn hq) (List.cons_ne_nil c rest)
        have hlx : Lexeme.next? (lined (c :: rest) tail) = _ := next?_of_none hl hql
        rw [next?_of_none hn hq] at h
        rw [hlx]
        split_ifs at h ⊢
        · cases h
          change some (Lexeme.ofWord ((lined (c :: rest) tail).takeWhile _),
            (lined (c :: rest) tail).dropWhile _) = _
          rw [takeWhile_lined rfl, dropWhile_lined rfl]
        · obtain ⟨s, hs, rfl⟩ := Option.map_eq_some_iff.mp h
          change (Lexeme.symbol? (lined (c :: rest) tail)).map _ = _
          rw [(symbol?_lined hs).1]
          rfl

/-! ### All lexemes -/

theorem length_afterComment (text : List Char) : (Lexeme.afterComment text).length ≤ text.length :=
  Nat.le_trans (List.dropWhile_sublist _).length_le (List.dropWhile_sublist _).length_le

/-- Whether a text begins a comment. -/
def IsComment (text : List Char) : Prop := ∃ rest, text = '/' :: '/' :: rest

theorem not_isComment_lined {c : Char} {rest : List Char} (h : ¬ IsComment (c :: rest)) :
    ¬ IsComment (c :: lined rest tail) := by
  rintro ⟨rest', hr⟩
  rcases rest with _ | ⟨d, rest⟩
  · cases hr
  · cases hr
    exact h ⟨rest, rfl⟩

theorem allFrom_cons {c : Char} {rest : List Char} (hc : ¬ IsComment (c :: rest)) (count : Nat) :
    Lexeme.allFrom (count + 1) (c :: rest) =
      if Text.isBlank c then Lexeme.allFrom count rest
      else
        match Lexeme.next? (c :: rest) with
        | none => [.invalid]
        | some (l, rest) => l :: Lexeme.allFrom count rest := by
  rw [Lexeme.allFrom.eq_def]
  dsimp only
  split
  · rename_i h
    cases h
  · rename_i rest' h
    exact absurd ⟨rest', h⟩ hc
  · rename_i h
    cases h
    rfl

/-- As many steps as a text has characters are enough. -/
theorem allFrom_congr :
    ∀ (count count' : Nat) {text : List Char}, text.length ≤ count → text.length ≤ count' →
    Lexeme.allFrom count text = Lexeme.allFrom count' text
  | 0, count', text, h, _ => by
    rw [List.length_eq_zero_iff.mp (Nat.le_zero.mp h)]
    cases count' <;> rfl
  | count + 1, 0, text, _, h' => by
    rw [List.length_eq_zero_iff.mp (Nat.le_zero.mp h')]
    rfl
  | count + 1, count' + 1, [], _, _ => rfl
  | count + 1, count' + 1, c :: rest, h, h' => by
    rw [List.length_cons] at h h'
    by_cases hc : IsComment (c :: rest)
    · obtain ⟨rest', hr⟩ := hc
      have hl := length_afterComment rest'
      rw [hr]
      cases hr
      rw [List.length_cons] at h h'
      exact allFrom_congr count count' (by omega) (by omega)
    · rw [allFrom_cons hc, allFrom_cons hc]
      split
      · exact allFrom_congr count count' (by omega) (by omega)
      · split
        · rfl
        · rename_i l rest' hn
          have hl : rest'.length < rest.length + 1 := length_of_next? hn
          rw [allFrom_congr count count' (by omega) (by omega)]

theorem allFrom_eq {count : Nat} {text : List Char} (h : text.length ≤ count) :
    Lexeme.allFrom count text = Lexeme.all text := allFrom_congr _ _ h (Nat.le_refl _)

theorem all_blank {c : Char} (hb : Text.isBlank c = true) (rest : List Char) :
    Lexeme.all (c :: rest) = Lexeme.all rest := by
  have hc : ¬ IsComment (c :: rest) := by
    rintro ⟨rest', hr⟩
    cases hr
    cases hb
  rw [Lexeme.all, List.length_cons, allFrom_cons hc, if_pos hb]
  exact allFrom_eq (Nat.le_refl _)

theorem all_of_next? {c : Char} {rest : List Char} {r : Lexeme × List Char}
    (hc : ¬ IsComment (c :: rest)) (hb : Text.isBlank c = false)
    (h : Lexeme.next? (c :: rest) = some r) :
    Lexeme.all (c :: rest) = r.1 :: Lexeme.all r.2 := by
  rw [Lexeme.all, List.length_cons, allFrom_cons hc, hb, h]
  exact congrArg (r.1 :: ·) (allFrom_eq (Nat.le_of_lt_succ (length_of_next? h)))

theorem all_of_next?_none {c : Char} {rest : List Char} (hc : ¬ IsComment (c :: rest))
    (hb : Text.isBlank c = false) (h : Lexeme.next? (c :: rest) = none) :
    Lexeme.all (c :: rest) = [.invalid] := by
  rw [Lexeme.all, List.length_cons, allFrom_cons hc, hb, h]
  rfl

theorem all_dropWhile {p : Char → Bool} (hp : ∀ c, p c = true → Text.isBlank c = true) :
    ∀ text : List Char, Lexeme.all (text.dropWhile p) = Lexeme.all text
  | [] => rfl
  | c :: text => by
    rw [List.dropWhile_cons]
    split
    · rename_i hc
      rw [all_dropWhile hp text, all_blank (hp c hc)]
    · rfl

/-- Whether a character does not end a line, as all characters of a comment. -/
def inLine (c : Char) : Bool := !(c == '\n' || c == '\r')

/-- A comment leaves no lexemes, with or without the line ends behind it. -/
theorem all_comment (rest : List Char) :
    Lexeme.all ('/' :: '/' :: rest) = Lexeme.all (rest.dropWhile inLine) := by
  refine (allFrom_eq (Nat.le_trans (length_afterComment rest) (Nat.le_succ _))).trans
    (all_dropWhile ?_ _)
  intro c hc
  rw [Bool.or_eq_true, beq_iff_eq, beq_iff_eq] at hc
  rcases hc with rfl | rfl <;> rfl

theorem number?_isQuote {q : Char} (hq : isQuote q = true) (rest : List Char) :
    number? (q :: rest) = none := by
  rcases isQuote_iff.mp hq with rfl | rfl <;> rfl

/-- A quote left open begins no lexeme. -/
theorem all_unclosed {text : List Char} (h : Unclosed text) : Lexeme.all text = [.invalid] := by
  rcases text with _ | ⟨q, rest⟩
  · exact h.elim
  obtain ⟨hq, hu⟩ := h
  have hc : ¬ IsComment (q :: rest) := by
    rintro ⟨rest', hr⟩
    cases hr
    cases hq
  have hb : Text.isBlank q = false ∧ Lexeme.startsName q = false := by
    rcases isQuote_iff.mp hq with rfl | rfl <;> decide
  have hn : Lexeme.next? (q :: rest) = none := by
    rw [next?_of_none (number?_isQuote hq rest) (by rw [quoted?_quote hq, closedBy_eq_none, hu]),
      hb.2, symbol?_isQuote hq]
    rfl
  exact all_of_next?_none hc hb.1 hn

/-- A quote left open leaves an invalid lexeme, also behind a mark, which is a name then. -/
theorem mem_all_of_open {text : List Char} (ho : Open text) (hn : number? text = none)
    (hq : quoted? text = none) :
    .invalid ∈ Lexeme.all text := by
  rcases ho with hu | ⟨c, rest, rfl, hm, hu⟩
  · rw [all_unclosed hu]
    exact List.mem_singleton_self _
  have hc : ¬ IsComment (c :: rest) := by
    rintro ⟨rest', hr⟩
    cases hr
    revert hm
    decide
  have hs : Text.isBlank c = false ∧ Lexeme.startsName c = true := by
    simp only [List.mem_cons, List.not_mem_nil, or_false] at hm
    rcases hm with rfl | rfl | rfl <;> decide
  have hr : rest.dropWhile Lexeme.continuesName = rest := by
    rcases rest with _ | ⟨q, rest⟩
    · rfl
    · refine List.dropWhile_cons_of_neg ?_
      rcases isQuote_iff.mp hu.1 with rfl | rfl <;> decide
  have hx := next?_of_none hn hq
  rw [if_pos hs.2, List.dropWhile_cons_of_pos (continuesName_of_startsName hs.2), hr] at hx
  rw [all_of_next? hc hs.1 hx, all_unclosed hu]
  exact List.mem_cons_of_mem _ (List.mem_singleton_self _)

/-- **Lexemes end with their line**: a text has the same lexemes whatever lines follow, unless one
of them is invalid. -/
theorem all_lined {text : List Char} (h : .invalid ∉ Lexeme.all text) :
    Lexeme.all (lined text tail) = Lexeme.all text ++ Lexeme.all tail := by
  induction hn : text.length using Nat.strongRecOn generalizing text with
  | _ n ih =>
    subst hn
    rcases text with _ | ⟨c, rest⟩
    · exact all_blank rfl tail
    by_cases hc : IsComment (c :: rest)
    · obtain ⟨rest', hr⟩ := hc
      cases hr
      have hl := (List.dropWhile_sublist inLine (l := rest')).length_le
      change Lexeme.all ('/' :: '/' :: lined rest' tail) = _
      rw [all_comment] at h ⊢
      rw [all_comment, dropWhile_lined rfl]
      exact ih _ (by simp only [List.length_cons]; omega) h rfl
    have hc' : ¬ IsComment (c :: lined rest tail) := not_isComment_lined hc
    change Lexeme.all (c :: lined rest tail) = _
    cases hb : Text.isBlank c with
    | true =>
      rw [all_blank hb] at h ⊢
      rw [all_blank hb]
      exact ih _ (Nat.lt_succ_self _) h rfl
    | false =>
      cases hx : Lexeme.next? (c :: rest) with
      | none =>
        rw [all_of_next?_none hc hb hx] at h
        exact absurd (List.mem_singleton_self _) h
      | some r =>
        have hx' : Lexeme.next? (c :: lined rest tail) = some (r.1, lined r.2 tail) :=
          next?_lined hx fun hn hq ho => h (mem_all_of_open ho hn hq)
        rw [all_of_next? hc hb hx] at h ⊢
        rw [all_of_next? hc' hb hx',
          ih _ (length_of_next? hx) (fun hi => h (List.mem_cons_of_mem _ hi)) rfl]
        rfl

end ClusterArchive.Proofs.Expr.Lines
