import ClusterArchive.Proofs.Text.Cutting
import ClusterArchive.Resource.Gvk
import Mathlib.Data.List.Basic

/-! # What an `apiVersion` says

An `apiVersion` is read as a version, as a group and a version or, if it has several slashes, as
neither (`splits_ofApiVersion`), so no slash is left in them. Reading does not keep all texts apart:
those with several slashes are one with the empty text, and an empty group in front of a slash is
the core group, which is not written. All others are kept apart, since two texts name one type
exactly if they have one plain form (`ofApiVersion_eq_iff`). There is a version unless there are
several slashes or nothing behind the last one (`version_ne_empty_iff`). -/

namespace ClusterArchive.Proofs.Resource.ApiVersion

open ClusterArchive.Text ClusterArchive.Proofs.Text.Cutting

/-- How an `apiVersion` is read as a group and a version. -/
inductive Splits : List Char → List Char → List Char → Prop
  | core {version : List Char} (hv : '/' ∉ version) : Splits version [] version
  | grouped {group version : List Char} (hg : '/' ∉ group) (hv : '/' ∉ version) :
    Splits (group ++ '/' :: version) group version
  | malformed {apiVersion : List Char} (h : 2 ≤ apiVersion.count '/') : Splits apiVersion [] []

variable {apiVersion group version : List Char}

theorem exists_splits (apiVersion : List Char) :
    ∃ group version, Splits apiVersion group version := by
  by_cases hm : '/' ∈ apiVersion
  · obtain ⟨front, back, rfl, hf⟩ := List.eq_append_cons_of_mem hm
    by_cases hb : '/' ∈ back
    · refine ⟨[], [], .malformed ?_⟩
      have hc : 1 ≤ back.count '/' := List.one_le_count_iff.mpr hb
      rw [List.count_append, List.count_cons_self]
      omega
    · exact ⟨front, back, .grouped hf hb⟩
  · exact ⟨[], apiVersion, .core hm⟩

theorem exists_pieces_of_count (h : 2 ≤ apiVersion.count '/') :
    ∃ first second third rest, pieces '/' apiVersion = first :: second :: third :: rest := by
  have hl : (pieces '/' apiVersion).length = apiVersion.count '/' + 1 := length_pieces apiVersion
  match hp : pieces '/' apiVersion, hl with
  | first :: second :: third :: rest, _ => exact ⟨first, second, third, rest, rfl⟩
  | [], hl | [_], hl | [_, _], hl =>
    simp only [List.length_cons, List.length_nil] at hl
    omega

theorem ofApiVersion_of_splits {apiVersion : String} (h : Splits apiVersion.toList group version)
    (kind : String) :
    Gvk.ofApiVersion apiVersion kind = ⟨String.ofList group, String.ofList version, kind⟩ := by
  unfold Gvk.ofApiVersion
  generalize apiVersion.toList = text at h ⊢
  cases h with
  | core hv => rw [pieces_of_not_mem hv]
  | grouped hg hv => rw [pieces_append_of_not_mem hg, pieces_of_not_mem hv]
  | malformed h =>
    obtain ⟨first, second, third, rest, hp⟩ := exists_pieces_of_count h
    rw [hp]

theorem splits_ofApiVersion (apiVersion kind : String) :
    Splits apiVersion.toList (Gvk.ofApiVersion apiVersion kind).group.toList
      (Gvk.ofApiVersion apiVersion kind).version.toList := by
  obtain ⟨group, version, h⟩ := exists_splits apiVersion.toList
  rw [ofApiVersion_of_splits h kind, String.toList_ofList, String.toList_ofList]
  exact h

theorem Splits.not_mem_group (h : Splits apiVersion group version) : '/' ∉ group := by
  cases h with
  | core _ => exact List.not_mem_nil
  | grouped hg _ => exact hg
  | malformed _ => exact List.not_mem_nil

theorem Splits.not_mem_version (h : Splits apiVersion group version) : '/' ∉ version := by
  cases h with
  | core hv => exact hv
  | grouped _ hv => exact hv
  | malformed _ => exact List.not_mem_nil

theorem not_mem_group_ofApiVersion (apiVersion kind : String) :
    '/' ∉ (Gvk.ofApiVersion apiVersion kind).group.toList :=
  (splits_ofApiVersion apiVersion kind).not_mem_group

theorem not_mem_version_ofApiVersion (apiVersion kind : String) :
    '/' ∉ (Gvk.ofApiVersion apiVersion kind).version.toList :=
  (splits_ofApiVersion apiVersion kind).not_mem_version

theorem kind_ofApiVersion (apiVersion kind : String) :
    (Gvk.ofApiVersion apiVersion kind).kind = kind := by
  obtain ⟨group, version, h⟩ := exists_splits apiVersion.toList
  rw [ofApiVersion_of_splits h]

/-! ### Texts that name one type -/

/-- The text that stands for all that are read alike: none for a text with several slashes, and
without a slash in front. -/
def plainForm (apiVersion : List Char) : List Char :=
  if 2 ≤ apiVersion.count '/' then []
  else if apiVersion.head? = some '/' then apiVersion.tail else apiVersion

/-- Whether a text has one slash at most and does not begin with it. -/
def Plain (apiVersion : List Char) : Prop := apiVersion.count '/' ≤ 1 ∧ apiVersion.head? ≠ some '/'

theorem plainForm_of_plain (h : Plain apiVersion) : plainForm apiVersion = apiVersion := by
  rw [plainForm, if_neg (Nat.not_le.mpr (Nat.lt_succ_of_le h.1)), if_neg h.2]

theorem head?_ne_of_not_mem {l : List Char} (h : '/' ∉ l) : l.head? ≠ some '/' := fun he =>
  h (List.mem_of_head? he)

theorem count_grouped (hg : '/' ∉ group) (hv : '/' ∉ version) :
    (group ++ '/' :: version).count '/' = 1 := by
  rw [List.count_append, List.count_cons_self, List.count_eq_zero.mpr hg, List.count_eq_zero.mpr hv]

theorem plainForm_of_splits (h : Splits apiVersion group version) :
    plainForm apiVersion = if group = [] then version else group ++ '/' :: version := by
  cases h with
  | core hv =>
    rw [if_pos rfl]
    exact plainForm_of_plain ⟨by simp [List.count_eq_zero.mpr hv], head?_ne_of_not_mem hv⟩
  | grouped hg hv =>
    cases group with
    | nil =>
      rw [if_pos rfl, plainForm, if_neg (by simp [List.count_eq_zero.mpr hv])]
      rfl
    | cons c group =>
      rw [if_neg (List.cons_ne_nil c group)]
      exact plainForm_of_plain ⟨Nat.le_of_eq (count_grouped hg hv),
        by simpa using head?_ne_of_not_mem hg⟩
  | malformed h => rw [if_pos rfl, plainForm, if_pos h]

/-- The plain form is read as what it stands for. -/
theorem splits_plainForm (h : Splits apiVersion group version) :
    Splits (plainForm apiVersion) group version := by
  rw [plainForm_of_splits h]
  cases h with
  | core hv => exact .core hv
  | grouped hg hv =>
    split
    · rename_i hn
      subst hn
      exact .core hv
    · exact .grouped hg hv
  | malformed h => exact .core List.not_mem_nil

theorem ofApiVersion_plainForm (apiVersion kind : String) :
    Gvk.ofApiVersion (String.ofList (plainForm apiVersion.toList)) kind =
      .ofApiVersion apiVersion kind := by
  obtain ⟨group, version, h⟩ := exists_splits apiVersion.toList
  rw [ofApiVersion_of_splits h]
  refine ofApiVersion_of_splits ?_ kind
  rw [String.toList_ofList]
  exact splits_plainForm h

/-- **Two texts name one type exactly if they have one plain form.** -/
theorem ofApiVersion_eq_iff {a b kind kind' : String} :
    Gvk.ofApiVersion a kind = .ofApiVersion b kind' ↔
      plainForm a.toList = plainForm b.toList ∧ kind = kind' := by
  constructor
  · intro h
    refine ⟨?_, ?_⟩
    · rw [plainForm_of_splits (splits_ofApiVersion a kind),
        plainForm_of_splits (splits_ofApiVersion b kind'), h]
    · rw [← kind_ofApiVersion a kind, h, kind_ofApiVersion]
  · rintro ⟨h, rfl⟩
    rw [← ofApiVersion_plainForm a, h, ofApiVersion_plainForm]

/-! ### The version -/

/-- Whether a text has one slash at most and something behind it, or something and no slash. -/
def NamesVersion (apiVersion : List Char) : Prop :=
  apiVersion.count '/' ≤ 1 ∧ apiVersion ≠ [] ∧ apiVersion.getLast? ≠ some '/'

theorem getLast?_ne_of_not_mem {l : List Char} (h : '/' ∉ l) : l.getLast? ≠ some '/' := fun he =>
  h (List.mem_of_getLast? he)

theorem version_ne_nil_iff (h : Splits apiVersion group version) :
    version ≠ [] ↔ NamesVersion apiVersion := by
  cases h with
  | core hv => simp [NamesVersion, List.count_eq_zero.mpr hv, getLast?_ne_of_not_mem hv]
  | grouped hg hv =>
    unfold NamesVersion
    rw [count_grouped hg hv, List.getLast?_append_cons]
    cases version with
    | nil => simp
    | cons c version =>
      rw [List.getLast?_cons_cons]
      simpa using getLast?_ne_of_not_mem hv
  | malformed h =>
    refine iff_of_false (fun hn => hn rfl) fun hn => ?_
    exact absurd hn.1 (Nat.not_le.mpr h)

theorem version_ne_empty_iff (apiVersion kind : String) :
    (Gvk.ofApiVersion apiVersion kind).version ≠ "" ↔ NamesVersion apiVersion.toList := by
  rw [← version_ne_nil_iff (splits_ofApiVersion apiVersion kind), Ne, Ne, String.toList_eq_nil_iff]

end ClusterArchive.Proofs.Resource.ApiVersion
