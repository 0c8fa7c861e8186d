/-!
# Cutting text at a separator

`pieces` cuts at every occurrence of one separator and so gives one piece more than there are
separators. Joining the pieces with the separator gives the text back.
-/

namespace ClusterArchive.Text

/-- The text up to the first separator, and what follows it if there is one. -/
def cut {α : Type} [BEq α] (separator : α) : List α → List α × Option (List α)
  | [] => ([], none)
  | c :: rest =>
    if c == separator then ([], some rest)
    else let r := cut separator rest; (c :: r.1, r.2)

/-- A separator found leaves less behind it. -/
theorem length_cut {α : Type} [BEq α] {separator : α} :
    ∀ {l line rest : List α}, cut separator l = (line, some rest) →
      l.length = line.length + rest.length + 1
  | [], _, _, h => by simp [cut] at h
  | c :: l, line, rest, h => by
    unfold cut at h
    split at h
    · simp only [Prod.mk.injEq, Option.some.injEq] at h
      obtain ⟨rfl, rfl⟩ := h
      simp
    · simp only [Prod.mk.injEq] at h
      obtain ⟨rfl, h⟩ := h
      have hl : cut separator l = ((cut separator l).1, some rest) := Prod.ext rfl h
      have := length_cut hl
      simp only [List.length_cons]
      omega

/-- The pieces between separators. -/
def pieces {α : Type} [BEq α] (separator : α) : List α → List (List α)
  | [] => [[]]
  | c :: rest =>
    if c == separator then [] :: pieces separator rest
    else
      match pieces separator rest with
      | [] => [[c]]
      | piece :: more => (c :: piece) :: more

/-- The text without the given ending, if it has it. -/
def withoutEnding? (ending text : List Char) : Option (List Char) :=
  if ending.isSuffixOf text then some (text.take (text.length - ending.length)) else none

end ClusterArchive.Text
