import ClusterArchive.Json.Printer
import ClusterArchive.Proofs.Json.Canonical

/-! # Reading what was written

The text of a value is read as the value (`read_text`), whatever stands behind it that cannot go on
with a number, if the value fits the depth and its numbers are whole. Characters are read through
their escapes (`stringFrom_escapeChar`), whole numbers through their digits (`number_integerText`),
and objects are put together again because their members stand in order. Two steps are spent on a
character at most, so the budget for an input is enough (`readText?_text`). -/

namespace ClusterArchive.Proofs.Json.RoundTrip

open ClusterArchive.Json ClusterArchive.Proofs.Json.Canonical

/-! ### Strings -/

theorem hexDigit?_hexDigit : ∀ n < 16, Text.hexDigit? (hexDigit n) = some n := by
  decide

theorem finishUnit_small {n : Nat} (h : n < 0x20) :
    finishUnit none n = some (.inl (Char.ofNat n)) := by
  unfold finishUnit
  rw [if_neg (by omega), if_neg (by omega)]

/-- A character is read through its escape. -/
theorem stringFrom_escapeChar (c : Char) (done : List Char) (input : Input) :
    stringFrom done .plain ((escapeChar c).map some ++ input) =
      stringFrom (c :: done) .plain input := by
  unfold escapeChar
  split_ifs with h₁ h₂ h₃ h₄ h₅ h₆ h₇ h₈
  · rw [h₁]; rfl
  · rw [h₂]; rfl
  · rw [h₃]; rfl
  · rw [h₄]; rfl
  · rw [h₅]; rfl
  · rw [h₆]; rfl
  · rw [h₇]; rfl
  · have hh := hexDigit?_hexDigit (c.toNat / 16) (by omega)
    have hl := hexDigit?_hexDigit (c.toNat % 16) (by omega)
    have hn : ((0 * 16 + 0) * 16 + 0) * 16 + c.toNat / 16 = c.toNat / 16 := by omega
    have hc : c.toNat / 16 * 16 + c.toNat % 16 = c.toNat := by omega
    change stringFrom done (.unit none (((0 * 16 + 0) * 16 + 0)) 2)
      (some (hexDigit (c.toNat / 16)) :: some (hexDigit (c.toNat % 16)) :: input) = _
    have hu : finishUnit none c.toNat = some (.inl (Char.ofNat c.toNat)) := finishUnit_small h₈
    simp [stringFrom, hh, hl, hc, hu, Char.ofNat_toNat]
  · change stringFrom done .plain (some c :: input) = _
    rw [stringFrom, if_neg h₁, if_neg h₂, if_neg h₈]

theorem stringFrom_escaped : ∀ (text done : List Char) (rest : Input),
    stringFrom done .plain ((text.flatMap escapeChar).map some ++ some '"' :: rest) =
      some (done.reverse ++ text, rest)
  | [], done, rest => by rw [List.append_nil]; rfl
  | c :: text, done, rest => by
    rw [List.flatMap_cons, List.map_append, List.append_assoc, stringFrom_escapeChar,
      stringFrom_escaped text]
    simp

/-- A text in quotes is read as the text, its opening quote being read already. -/
theorem string_quoted (s : String) (rest : Input) :
    string ((s.toList.flatMap escapeChar ++ ['"']).map some ++ rest) = some (s, rest) := by
  rw [string, List.map_append, List.append_assoc]
  exact (congrArg _ (stringFrom_escaped s.toList [] rest)).trans (by simp)

/-! ### Whole numbers -/

/-- Whether an input is at its end or goes on with a comma or a closing bracket. -/
def Stops (rest : Input) : Prop :=
  rest = [] ∨ ∃ c input, rest = some c :: input ∧ c ∈ [',', ']', '\x7d']

/-- The number that digits stand for, read after another one. -/
def valueOf (n : Nat) (ds : List Nat) : Nat := ds.foldl (fun n d => n * 10 + d) n

/-- Whether digits are those of a number, zero being the only one that begins with zero. -/
structure Decimal (n : Nat) (ds : List Nat) : Prop where
  lt_ten : ∀ d ∈ ds, d < 10
  value : valueOf 0 ds = n
  leading : ∃ d rest, ds = d :: rest ∧ (rest = [] ∨ d ≠ 0)

theorem exists_decimal (n : Nat) :
    ∃ ds, Decimal n ds ∧ Shortest.digits n = ds.map Nat.digitChar := by
  induction n using Nat.strongRecOn with
  | ind n ih =>
    rcases Nat.lt_or_ge n 10 with h | h
    · refine ⟨[n], ⟨by simpa using h, by simp [valueOf], n, [], rfl, .inl rfl⟩, ?_⟩
      exact Nat.toDigits_of_lt_base h
    · obtain ⟨ds, hd, ht⟩ := ih (n / 10) (by omega)
      obtain ⟨d, rest, rfl, hl⟩ := hd.leading
      have hv : valueOf 0 (d :: rest) = n / 10 := hd.value
      have hd0 : d ≠ 0 := by
        rcases hl with rfl | hl
        · simp only [valueOf, List.foldl_cons, List.foldl_nil] at hv
          omega
        · exact hl
      refine ⟨d :: rest ++ [n % 10], ⟨?_, ?_, d, rest ++ [n % 10], rfl, .inr hd0⟩, ?_⟩
      · exact List.forall_mem_append.mpr ⟨hd.lt_ten, by simpa using Nat.mod_lt n (by decide)⟩
      · rw [valueOf, List.foldl_append]
        change valueOf 0 (d :: rest) * 10 + n % 10 = n
        omega
      · rw [Shortest.digits, Nat.toDigits_of_base_le (by decide) h, List.map_append]
        exact congrArg (· ++ _) ht

theorem le_valueOf (ds : List Nat) : ∀ n, n ≤ valueOf n ds := by
  induction ds with
  | nil => exact Nat.le_refl
  | cons d ds ih => exact fun n => (by omega : n ≤ n * 10 + d).trans (ih _)

/-- Digits of a number that fits 64 bits all count. -/
theorem scaleWhole_eq : ∀ (ds : List Nat) (n : Nat), valueOf n ds < Word.count →
    NumberText.scaleWhole ds n = ⟨valueOf n ds, 0⟩
  | [], n, _ => rfl
  | d :: ds, n, h => by
    have hf : NumberText.fits n d = true := decide_eq_true ((le_valueOf ds _).trans_lt h)
    rw [NumberText.scaleWhole, if_pos hf]
    exact scaleWhole_eq ds _ h

theorem digit?_digitChar : ∀ d < 10, digit? (some (Nat.digitChar d)) = some d := by
  decide

theorem digits_of_stops {rest : Input} (h : Stops rest) : digits rest = ([], rest) := by
  rcases h with rfl | ⟨c, input, rfl, hc⟩
  · rfl
  · simp only [List.mem_cons, List.not_mem_nil, or_false] at hc
    rcases hc with rfl | rfl | rfl <;> rfl

theorem digits_eq {rest : Input} (hr : Stops rest) : ∀ {ds : List Nat}, (∀ d ∈ ds, d < 10) →
    digits ((ds.map Nat.digitChar).map some ++ rest) = (ds, rest)
  | [], _ => digits_of_stops hr
  | d :: ds, h => by
    have hd := digit?_digitChar d (h d List.mem_cons_self)
    have ih := digits_eq hr fun d' hd' => h d' (List.mem_cons_of_mem d hd')
    change digits (some d.digitChar :: ((ds.map Nat.digitChar).map some ++ rest)) = _
    rw [digits, hd]
    simp only [ih]

theorem wholeDigits_eq {n : Nat} {ds : List Nat} (h : Decimal n ds) {rest : Input}
    (hr : Stops rest) :
    wholeDigits ((ds.map Nat.digitChar).map some ++ rest) = some (ds, rest) := by
  rw [wholeDigits, digits_eq hr h.lt_ten]
  obtain ⟨d, l, rfl, hl⟩ := h.leading
  rcases l with _ | ⟨e, l⟩
  · rfl
  · obtain ⟨d, rfl⟩ := Nat.exists_eq_succ_of_ne_zero (hl.resolve_left (List.cons_ne_nil e l))
    rfl

theorem fractionDigits_of_stops {rest : Input} (h : Stops rest) :
    fractionDigits rest = some (none, rest) := by
  rcases h with rfl | ⟨c, input, rfl, hc⟩
  · rfl
  · simp only [List.mem_cons, List.not_mem_nil, or_false] at hc
    rcases hc with rfl | rfl | rfl <;> rfl

theorem exponentDigits_of_stops {rest : Input} (h : Stops rest) :
    exponentDigits rest = some (none, rest) := by
  rcases h with rfl | ⟨c, input, rfl, hc⟩
  · rfl
  · simp only [List.mem_cons, List.not_mem_nil, or_false] at hc
    rcases hc with rfl | rfl | rfl <;> rfl

theorem ne_minus_of_digit : ∀ d < 10, Nat.digitChar d ≠ '-' := by
  decide

section Digits

variable {n : Nat} {ds : List Nat} {rest : Input}

/-- Digits as they stand in the input, before the rest of it. -/
def written (ds : List Nat) (rest : Input) : Input := (ds.map Nat.digitChar).map some ++ rest

theorem numberText_minus (h : Decimal n ds) (hr : Stops rest) :
    numberText (some '-' :: written ds rest) = some (⟨true, ds, none, none⟩, rest) := by
  simp only [numberText, written, wholeDigits_eq h hr, fractionDigits_of_stops hr,
    exponentDigits_of_stops hr]

theorem numberText_plain (h : Decimal n ds) (hr : Stops rest) :
    numberText (written ds rest) = some (⟨false, ds, none, none⟩, rest) := by
  have hw := wholeDigits_eq h hr
  unfold numberText
  split
  rename_i negative input hs
  split at hs
  · rename_i he
    obtain ⟨d, l, rfl, -⟩ := h.leading
    exact absurd (Option.some.inj (List.cons.inj he).1)
      (ne_minus_of_digit d (h.lt_ten d List.mem_cons_self))
  · cases hs
    simp only [written, hw, fractionDigits_of_stops hr, exponentDigits_of_stops hr]

/-- Digits that need no scaling are a whole number, if it has no sign or fits with it. -/
theorem number?_of_digits (hs : NumberText.scaleWhole ds 0 = ⟨n, 0⟩) :
    NumberText.number? ⟨false, ds, none, none⟩ = some (.integer n) := by
  unfold NumberText.number?
  dsimp only
  rw [hs]
  rfl

theorem number?_of_minus (hs : NumberText.scaleWhole ds 0 = ⟨n, 0⟩) (hz : n ≠ 0)
    (hh : Word.holdsSigned (-(n : Int)) = true) :
    NumberText.number? ⟨true, ds, none, none⟩ = some (.integer (-(n : Int))) := by
  unfold NumberText.number?
  dsimp only
  rw [hs]
  dsimp only
  rw [if_neg hz, if_pos hh]
  rfl

/-- Whether a number is whole and fits 64 bits, with or without a sign. -/
def IsWhole (i : Int) : Prop := Word.least ≤ i ∧ i ≤ Word.greatestUnsigned

theorem number_integerText {i : Int} (hi : IsWhole i) (hr : Stops rest) :
    number ((integerText i).map some ++ rest) = some (.number (.integer i), rest) := by
  obtain ⟨hl, hu⟩ := hi
  unfold Word.least at hl
  unfold Word.greatestUnsigned at hu
  obtain ⟨ds, hd, ht⟩ := exists_decimal i.natAbs
  have hs : NumberText.scaleWhole ds 0 = ⟨i.natAbs, 0⟩ := by
    rw [scaleWhole_eq ds 0 (by rw [hd.value, Word.count]; omega), hd.value]
  unfold integerText number
  split_ifs with hn
  · have hz : i.natAbs ≠ 0 := by omega
    have he : -(i.natAbs : Int) = i := by omega
    have hh : Word.holdsSigned (-(i.natAbs : Int)) = true := by
      unfold Word.holdsSigned Word.least Word.greatest
      exact decide_eq_true (by omega)
    have hx := numberText_minus hd hr
    rw [written, ← ht] at hx
    rw [List.map_cons, List.cons_append, hx]
    dsimp only
    rw [number?_of_minus hs hz hh, he]
    rfl
  · have he : (i.natAbs : Int) = i := by omega
    have hx := numberText_plain hd hr
    rw [written, ← ht] at hx
    rw [hx]
    dsimp only
    rw [number?_of_digits hs, he]
    rfl

end Digits

/-! ### Values -/

/-- Whether all numbers in a value are whole and fit 64 bits. -/
inductive Whole : Value → Prop
  | null : Whole .null
  | bool (b : Bool) : Whole (.bool b)
  | number {i : Int} (h : IsWhole i) : Whole (.number (.integer i))
  | string (s : String) : Whole (.string s)
  | array {items : List Value} (h : ∀ v ∈ items, Whole v) : Whole (.array items)
  | object {members : List (String × Value)} (h : ∀ m ∈ members, Whole m.2) :
    Whole (.object members)

/-- Whether the text of a value is read as the value at a distance from the depth limit, if as many
steps are left as it has characters, twice over. -/
def ReadsBack (depth : Nat) (v : Value) : Prop :=
  ∀ fuel rest, 2 * v.text.length ≤ fuel → Stops rest →
    valueFrom fuel depth (v.text.map some ++ rest) = some (v, rest)

/-- The characters that values begin with. -/
def heads : List Char :=
  ['n', 't', 'f', '"', '[', '\x7b', '-', '0', '1', '2', '3', '4', '5', '6', '7', '8', '9']

theorem valueFrom_number {c : Char} (hc : c ∈ heads.drop 6) (fuel depth : Nat) (rest : Input) :
    valueFrom (fuel + 1) depth (some c :: rest) = number (some c :: rest) := by
  simp only [heads, List.drop_succ_cons, List.drop_zero, List.mem_cons, List.not_mem_nil,
    or_false] at hc
  rcases hc with rfl | rfl | rfl | rfl | rfl | rfl | rfl | rfl | rfl | rfl | rfl <;> rfl

theorem digitChar_mem : ∀ d < 10, Nat.digitChar d ∈ heads.drop 6 := by
  decide

theorem integerText_head (i : Int) : ∃ c text, integerText i = c :: text ∧ c ∈ heads.drop 6 := by
  unfold integerText
  split_ifs
  · exact ⟨'-', _, rfl, List.mem_cons_self⟩
  · obtain ⟨ds, hd, ht⟩ := exists_decimal i.natAbs
    obtain ⟨d, l, rfl, -⟩ := hd.leading
    exact ⟨_, _, ht, digitChar_mem d (hd.lt_ten d List.mem_cons_self)⟩

theorem text_head {v : Value} (hw : Whole v) : ∃ c text, v.text = c :: text ∧ c ∈ heads := by
  cases hw with
  | null => exact ⟨'n', _, rfl, by decide⟩
  | bool b => cases b <;> exact ⟨_, _, rfl, by decide⟩
  | number hi =>
    obtain ⟨c, text, ht, hc⟩ := integerText_head _
    exact ⟨c, text, ht, List.mem_of_mem_drop hc⟩
  | string s => exact ⟨'"', _, rfl, by decide⟩
  | array h => exact ⟨'[', _, rfl, by decide⟩
  | object h => exact ⟨'\x7b', _, rfl, by decide⟩

theorem isSpace_of_heads {c : Char} (hc : c ∈ heads) : isSpace (some c) = false := by
  simp only [heads, List.mem_cons, List.not_mem_nil, or_false] at hc
  rcases hc with rfl | rfl | rfl | rfl | rfl | rfl | rfl | rfl | rfl | rfl | rfl | rfl | rfl | rfl |
      rfl | rfl | rfl <;>
    rfl

theorem skipSpace_of_heads {c : Char} (hc : c ∈ heads) (rest : Input) :
    skipSpace (some c :: rest) = some c :: rest := by
  rw [skipSpace, List.dropWhile_cons_of_neg]
  rw [isSpace_of_heads hc]
  exact Bool.false_ne_true

section Values

variable {depth : Nat}

/-- At least one step is left, as the text of a value is not empty. -/
theorem readsBack_of {v : Value} (hw : Whole v)
    (h : ∀ fuel rest, 2 * v.text.length ≤ fuel + 1 → Stops rest →
      valueFrom (fuel + 1) depth (v.text.map some ++ rest) = some (v, rest)) :
    ReadsBack depth v := by
  intro fuel rest hf hr
  obtain ⟨c, text, ht, -⟩ := text_head hw
  cases fuel with
  | zero =>
    rw [ht, List.length_cons] at hf
    omega
  | succ fuel => exact h fuel rest hf hr

theorem readsBack_number {i : Int} (hi : IsWhole i) : ReadsBack depth (.number (.integer i)) := by
  refine readsBack_of (.number hi) fun fuel rest _ hr => ?_
  obtain ⟨c, text, ht, hc⟩ := integerText_head i
  have hx := number_integerText hi hr
  change valueFrom (fuel + 1) depth ((integerText i).map some ++ rest) = _
  rw [ht] at hx ⊢
  rw [List.map_cons, List.cons_append, valueFrom_number hc]
  exact hx

/-- The texts of items are read as the items, where each of them is. -/
theorem itemsFrom_text : ∀ {items : List Value}, items ≠ [] → (∀ v ∈ items, ReadsBack depth v) →
    ∀ fuel rest, 2 * (itemsText items).length + 1 ≤ fuel →
      itemsFrom fuel depth ((itemsText items).map some ++ some ']' :: rest) = some (items, rest)
  | [], hne, _, _, _, _ => absurd rfl hne
  | [v], _, h, fuel, rest, hf => by
    obtain ⟨fuel, rfl⟩ : ∃ f, fuel = f + 1 := ⟨fuel - 1, by omega⟩
    rw [itemsText] at hf ⊢
    have hv := h v List.mem_cons_self fuel (some ']' :: rest) (by omega)
      (.inr ⟨']', rest, rfl, by decide⟩)
    rw [itemsFrom, hv]
    rfl
  | v :: w :: items, _, h, fuel, rest, hf => by
    obtain ⟨fuel, rfl⟩ : ∃ f, fuel = f + 1 := ⟨fuel - 1, by omega⟩
    have ht : itemsText (v :: w :: items) = v.text ++ ',' :: itemsText (w :: items) := by
      rw [itemsText]; simp
    rw [ht, List.length_append, List.length_cons] at hf
    have hi := itemsFrom_text (List.cons_ne_nil w items)
      (fun x hx => h x (List.mem_cons_of_mem v hx)) fuel rest (by omega)
    rw [ht, List.map_append, List.append_assoc, List.map_cons, List.cons_append]
    have hv := h v List.mem_cons_self fuel
      (some ',' :: ((itemsText (w :: items)).map some ++ some ']' :: rest))
      (by omega) (.inr ⟨',', _, rfl, by decide⟩)
    rw [itemsFrom, hv]
    change (itemsFrom fuel depth _).map _ = _
    rw [hi]
    rfl

theorem memberName_quoted (name : String) (rest : Input) :
    memberName ((quoted name.toList ++ [':']).map some ++ rest) = some (name, rest) := by
  have hs := string_quoted name (some ':' :: rest)
  have hq : (quoted name.toList ++ [':']).map some ++ rest =
      some '"' :: ((name.toList.flatMap escapeChar ++ ['"']).map some ++ some ':' :: rest) := by
    simp [quoted]
  rw [hq, memberName, skipSpace_of_heads (by decide)]
  simp only [hs]
  rfl

/-- The texts of members are read as the members, where the value of each is. -/
theorem membersFrom_text : ∀ {members : List (String × Value)}, members ≠ [] →
    (∀ m ∈ members, ReadsBack depth m.2) →
    ∀ fuel rest, 2 * (membersText members).length + 1 ≤ fuel →
      membersFrom fuel depth ((membersText members).map some ++ some '\x7d' :: rest) =
        some (members, rest)
  | [], hne, _, _, _, _ => absurd rfl hne
  | [(name, v)], _, h, fuel, rest, hf => by
    obtain ⟨fuel, rfl⟩ : ∃ f, fuel = f + 1 := ⟨fuel - 1, by omega⟩
    have ht : membersText [(name, v)] = (quoted name.toList ++ [':']) ++ v.text := by
      rw [membersText, List.append_assoc, List.singleton_append]
    rw [ht, List.length_append] at hf
    have hl : 2 * v.text.length ≤ fuel := by omega
    have hv := h (name, v) List.mem_cons_self fuel (some '\x7d' :: rest) hl
      (.inr ⟨'\x7d', rest, rfl, by decide⟩)
    rw [ht, List.map_append, List.append_assoc, membersFrom, memberName_quoted]
    dsimp only
    rw [hv]
    rfl
  | (name, v) :: m :: members, _, h, fuel, rest, hf => by
    obtain ⟨fuel, rfl⟩ : ∃ f, fuel = f + 1 := ⟨fuel - 1, by omega⟩
    have ht : membersText ((name, v) :: m :: members) =
        (quoted name.toList ++ [':']) ++ (v.text ++ ',' :: membersText (m :: members)) := by
      rw [membersText]
      · rw [List.append_assoc, List.singleton_append]
      · simp
    simp only [ht, List.length_append, List.length_cons] at hf
    have hl : 2 * v.text.length ≤ fuel := by omega
    have hm := membersFrom_text (List.cons_ne_nil m members)
      (fun x hx => h x (List.mem_cons_of_mem _ hx)) fuel rest (by omega)
    have hv := h (name, v) List.mem_cons_self fuel
      (some ',' :: ((membersText (m :: members)).map some ++ some '\x7d' :: rest)) hl
      (.inr ⟨',', _, rfl, by decide⟩)
    rw [ht, List.map_append, List.append_assoc, membersFrom, memberName_quoted]
    dsimp only
    rw [List.map_append, List.append_assoc, List.map_cons, List.cons_append, hv]
    change (membersFrom fuel depth _).map _ = _
    rw [hm]
    rfl

theorem itemsText_head {items : List Value} (hne : items ≠ []) (h : ∀ v ∈ items, Whole v) :
    ∃ c text, itemsText items = c :: text ∧ c ∈ heads := by
  obtain ⟨v, rest, rfl⟩ := List.exists_cons_of_ne_nil hne
  obtain ⟨c, text, ht, hc⟩ := text_head (h v List.mem_cons_self)
  cases rest with
  | nil => exact ⟨c, text, ht, hc⟩
  | cons w rest =>
    refine ⟨c, text ++ ',' :: itemsText (w :: rest), ?_, hc⟩
    rw [itemsText, ht, List.cons_append]
    simp

theorem membersText_head {members : List (String × Value)} (hne : members ≠ []) :
    ∃ text, membersText members = '"' :: text := by
  obtain ⟨⟨name, v⟩, rest, rfl⟩ := List.exists_cons_of_ne_nil hne
  cases rest with
  | nil => exact ⟨_, rfl⟩
  | cons m rest =>
    refine ⟨name.toList.flatMap escapeChar ++ ['"'] ++ ':' ::
      (v.text ++ ',' :: membersText (m :: rest)), ?_⟩
    rw [membersText]
    · rfl
    · simp

theorem readsBack_array {items : List Value} (hd : 1 < depth) (hw : ∀ v ∈ items, Whole v)
    (h : ∀ v ∈ items, ReadsBack (depth - 1) v) : ReadsBack depth (.array items) := by
  refine readsBack_of (.array hw) fun fuel rest hf _ => ?_
  have ht : (Value.array items).text.map some ++ rest =
      some '[' :: ((itemsText items).map some ++ some ']' :: rest) := by
    simp [Value.text]
  have hl : (Value.array items).text.length = (itemsText items).length + 2 := by simp [Value.text]
  rw [ht, valueFrom, skipSpace_of_heads (by decide)]
  simp only [if_neg (Nat.not_le.mpr hd)]
  by_cases hne : items = []
  · subst hne
    rfl
  · have hi := itemsFrom_text hne h fuel rest (by omega)
    obtain ⟨c, text, hc, hm⟩ := itemsText_head hne hw
    rw [hc, List.map_cons, List.cons_append] at hi ⊢
    rw [skipSpace_of_heads hm]
    split
    · rename_i he
      cases he
      exact absurd hm (by decide)
    · rw [hi]
      rfl

theorem readsBack_object {members : List (String × Value)} (hd : 1 < depth) (hs : Ascending members)
    (hw : ∀ m ∈ members, Whole m.2) (h : ∀ m ∈ members, ReadsBack (depth - 1) m.2) :
    ReadsBack depth (.object members) := by
  refine readsBack_of (.object hw) fun fuel rest hf _ => ?_
  have ht : (Value.object members).text.map some ++ rest =
      some '\x7b' :: ((membersText members).map some ++ some '\x7d' :: rest) := by
    simp [Value.text]
  have hl : (Value.object members).text.length = (membersText members).length + 2 := by
    simp [Value.text]
  rw [ht, valueFrom, skipSpace_of_heads (by decide)]
  simp only [if_neg (Nat.not_le.mpr hd)]
  by_cases hne : members = []
  · subst hne
    rfl
  · have hm := membersFrom_text hne h fuel rest (by omega)
    obtain ⟨text, hq⟩ := membersText_head hne
    rw [hq, List.map_cons, List.cons_append] at hm ⊢
    rw [skipSpace_of_heads (by decide)]
    change (membersFrom fuel (depth - 1) _).map _ = _
    rw [hm, Option.map_some, ofMembers_of_ascending hs]

/-- **The text of a value is read as the value.** -/
theorem read_text {v : Value} (h : Fits depth v) (hw : Whole v) : ReadsBack depth v := by
  induction h with
  | array hd h ih =>
    cases hw with
    | array hw => exact readsBack_array hd hw fun v hv => ih v hv (hw v hv)
  | object hd hs h ih =>
    cases hw with
    | object hw => exact readsBack_object hd hs hw fun m hm => ih m hm (hw m hm)
  | number _ n =>
    cases hw with
    | number hi => exact readsBack_number hi
  | null => exact readsBack_of .null fun _ _ _ _ => rfl
  | bool _ b => cases b <;> exact readsBack_of (.bool _) fun _ _ _ _ => rfl
  | string _ s =>
    refine readsBack_of (.string s) fun fuel rest _ _ => ?_
    change (string ((s.toList.flatMap escapeChar ++ ['"']).map some ++ rest)).map _ = _
    rw [string_quoted]
    rfl

end Values

/-- A value that nests no deeper than the reader allows is read back from its text. -/
theorem readText?_text {depth : Nat} {v : Value} (h : Fits depth v) (hd : depth ≤ depthLimit)
    (hw : Whole v) :
    readText? v.text = some v := by
  have hr :=
    read_text (h.mono hd) hw (budget (v.text.map some)) [] (by rw [budget, List.length_map]; omega)
    (.inl rfl)
  rw [List.append_nil] at hr
  rw [readText?, read?, value, hr]
  rfl

end ClusterArchive.Proofs.Json.RoundTrip
