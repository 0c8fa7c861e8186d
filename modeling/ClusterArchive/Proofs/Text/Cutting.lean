import ClusterArchive.Text.Pieces

/-! # Cutting at the first separator and at all of them

`pieces` is `cut` taken again and again (`pieces_eq_of_cut`). A text that arrives in two parts is
cut in the first part, if there is a separator, and in the second otherwise (`cut_append`). -/

namespace ClusterArchive.Proofs.Text.Cutting

open ClusterArchive.Text

variable {α : Type} [BEq α] {separator : α}

theorem fst_of_cut_none : ∀ {l line : List α}, cut separator l = (line, none) → line = l
  | [], _, h => by cases h; rfl
  | c :: l, _, h => by
    unfold cut at h
    split at h
    · cases h
    · cases hl : cut separator l with
      | mk line rest =>
        rw [hl] at h
        cases h
        rw [fst_of_cut_none hl]

/-- A text in two parts. -/
theorem cut_append (more : List α) : ∀ l : List α,
    cut separator (l ++ more) =
      match cut separator l with
      | (line, some rest) => (line, some (rest ++ more))
      | (line, none) => (line ++ (cut separator more).1, (cut separator more).2)
  | [] => rfl
  | c :: l => by
    rw [List.cons_append, cut, cut]
    split
    · rfl
    · rw [cut_append more l]
      cases hl : cut separator l with
      | mk line rest => cases rest <;> rfl

theorem cut_append_of_some {l line rest : List α} (h : cut separator l = (line, some rest))
    (more : List α) : cut separator (l ++ more) = (line, some (rest ++ more)) := by
  rw [cut_append, h]

/-- The first part of a text without separator has none. -/
theorem cut_of_append_none {l more line : List α} (h : cut separator (l ++ more) = (line, none)) :
    cut separator l = (l, none) := by
  cases hl : cut separator l with
  | mk line' rest =>
    cases rest with
    | none => rw [fst_of_cut_none hl]
    | some rest =>
      rw [cut_append_of_some hl] at h
      cases h

theorem pieces_eq_of_cut : ∀ l : List α,
    pieces separator l =
      match cut separator l with
      | (line, some rest) => line :: pieces separator rest
      | (line, none) => [line]
  | [] => rfl
  | c :: l => by
    rw [pieces, cut]
    split
    · rfl
    · rw [pieces_eq_of_cut l]
      cases hl : cut separator l with
      | mk line rest => cases rest <;> rfl

theorem pieces_ne_nil (l : List α) : pieces separator l ≠ [] := by
  rw [pieces_eq_of_cut]
  split <;> exact List.cons_ne_nil _ _

/-- There is one piece more than there are separators. -/
theorem length_pieces : ∀ l : List α, (pieces separator l).length = l.count separator + 1
  | [] => rfl
  | c :: l => by
    rw [pieces, List.count_cons]
    split
    · rw [List.length_cons, length_pieces l]
    · have hl := length_pieces l
      cases hp : pieces separator l with
      | nil => exact absurd hp (pieces_ne_nil l)
      | cons first more =>
        rw [hp] at hl
        exact hl

/-! ### Texts without the separator -/

variable [LawfulBEq α]

theorem bne_of_not_mem {c : α} {l : List α} (h : separator ∉ c :: l) : ¬ (c == separator) = true :=
  fun he => h (eq_of_beq he ▸ List.mem_cons_self)

theorem cut_of_not_mem {l : List α} (h : separator ∉ l) (rest : List α) :
    cut separator (l ++ separator :: rest) = (l, some rest) := by
  induction l with
  | nil => simp [cut]
  | cons c l ih =>
    rw [List.cons_append, cut, if_neg (bne_of_not_mem h),
      ih fun hm => h (List.mem_cons_of_mem c hm)]

theorem pieces_append_of_not_mem {l : List α} (h : separator ∉ l) (rest : List α) :
    pieces separator (l ++ separator :: rest) = l :: pieces separator rest := by
  rw [pieces_eq_of_cut, cut_of_not_mem h]

theorem pieces_of_not_mem : ∀ {l : List α}, separator ∉ l → pieces separator l = [l]
  | [], _ => rfl
  | c :: l, h => by
    rw [pieces, if_neg (bne_of_not_mem h),
      pieces_of_not_mem fun hm => h (List.mem_cons_of_mem c hm)]

/-- A name in front of a slash is the first piece. -/
theorem pieces_append_slash {name : String} (h : '/' ∉ name.toList) (rest : String) :
    pieces '/' (name ++ ("/" ++ rest)).toList = name.toList :: pieces '/' rest.toList := by
  rw [String.toList_append, String.toList_append]
  exact pieces_append_of_not_mem h rest.toList

end ClusterArchive.Proofs.Text.Cutting
