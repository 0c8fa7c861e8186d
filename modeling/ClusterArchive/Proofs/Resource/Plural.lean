import ClusterArchive.Resource.Target

/-! # Plurals

Lower-casing turns every character into one or more (`lowerChar_ne_nil`), and a plural is the noun
itself or has an ending behind it or its stem. So the plural is empty for the empty kind and for no
other (`guessPlural_ne_empty_iff`). -/

namespace ClusterArchive.Proofs.Resource.Plural

open ClusterArchive.Text

theorem lowerChar_ne_nil (c : Char) : lowerChar c ≠ [] := by
  unfold lowerChar
  split
  · exact List.cons_ne_nil _ _
  split <;> exact List.cons_ne_nil _ _

theorem lowercase_eq_nil_iff (text : List Char) : lowercase text = [] ↔ text = [] := by
  unfold lowercase
  cases text with
  | nil => exact iff_of_true rfl rfl
  | cons c rest =>
    refine iff_of_false ?_ (List.cons_ne_nil c rest)
    rw [lowerAfter]
    refine List.append_ne_nil_of_left_ne_nil ?_ _
    split
    · split <;> exact List.cons_ne_nil _ _
    · exact lowerChar_ne_nil c

theorem pluralOfNoun_eq_nil_iff (noun : List Char) : pluralOfNoun noun = [] ↔ noun = [] := by
  unfold pluralOfNoun
  split
  · exact Iff.rfl
  rename_i h
  have hn : noun ≠ [] := fun he => h (by rw [he]; rfl)
  refine iff_of_false ?_ hn
  split
  · exact List.append_ne_nil_of_left_ne_nil hn _
  split
  · exact List.append_ne_nil_of_right_ne_nil _ (List.cons_ne_nil _ _)
  · exact List.append_ne_nil_of_left_ne_nil hn _

theorem guessPlural_ne_empty_iff (kind : String) : guessPlural kind ≠ "" ↔ kind ≠ "" := by
  refine not_congr ?_
  rw [guessPlural, String.ofList_eq_empty_iff, pluralOfNoun_eq_nil_iff, lowercase_eq_nil_iff,
    String.toList_eq_nil_iff]

end ClusterArchive.Proofs.Resource.Plural
