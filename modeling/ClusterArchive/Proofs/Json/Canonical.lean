import ClusterArchive.Json.Reader
import Mathlib.Data.List.Pairwise
import Mathlib.Data.String.Basic

/-! # Values as they are read

Members are put in their places one by one, so those of an object stand in ascending order of their
names (`ascending_insertMember`), and putting members that stand so already changes nothing
(`ofMembers_of_ascending`). A value that is read has such objects only and nests less deep than the
reader allows (`fits_of_read`); it may stand wherever there is more room (`Fits.mono`). -/

namespace ClusterArchive.Proofs.Json.Canonical

open ClusterArchive.Json

/-! ### Members in order -/

section Members

variable {α : Type} {name : String} {value : α} {members : List (String × α)}

/-- Whether members stand in ascending order of their names, each name once. -/
def Ascending (members : List (String × α)) : Prop := members.Pairwise fun m m' => m.1 < m'.1

theorem mem_insertMember {m : String × α} (h : m ∈ insertMember name value members) :
    m = (name, value) ∨ m ∈ members := by
  induction members with
  | nil => exact .inl (List.mem_singleton.mp h)
  | cons m' members ih =>
    unfold insertMember at h
    split at h
    · exact List.mem_cons.mp h
    split at h
    · exact (List.mem_cons.mp h).imp_right (List.mem_cons_of_mem m')
    · rcases List.mem_cons.mp h with rfl | h
      · exact .inr List.mem_cons_self
      · exact (ih h).imp_right (List.mem_cons_of_mem m')

theorem ascending_insertMember (h : Ascending members) :
    Ascending (insertMember name value members) := by
  induction members with
  | nil => exact List.pairwise_singleton _ _
  | cons m members ih =>
    obtain ⟨hm, hs⟩ := List.pairwise_cons.mp h
    unfold insertMember
    split
    · rename_i hlt
      refine List.pairwise_cons.mpr ⟨fun m' h' => ?_, h⟩
      rcases List.mem_cons.mp h' with rfl | h'
      · exact hlt
      · exact hlt.trans (hm m' h')
    split
    · rename_i he
      subst he
      exact List.pairwise_cons.mpr ⟨hm, hs⟩
    · rename_i hlt hne
      refine List.pairwise_cons.mpr ⟨fun m' h' => ?_, ih hs⟩
      rcases mem_insertMember h' with rfl | h'
      · exact lt_of_le_of_ne (not_lt.mp hlt) (Ne.symm hne)
      · exact hm m' h'

/-- A member with the last name is put at the end. -/
theorem insertMember_of_last (h : ∀ m ∈ members, m.1 < name) :
    insertMember name value members = members ++ [(name, value)] := by
  induction members with
  | nil => rfl
  | cons m members ih =>
    have hm := h m List.mem_cons_self
    unfold insertMember
    rw [if_neg hm.not_gt, if_neg hm.ne', ih fun m' h' => h m' (List.mem_cons_of_mem m h'),
      List.cons_append]

/-- Members with one more for each of a list. -/
def insertAll (members new : List (String × α)) : List (String × α) :=
  new.foldl (fun sorted m => insertMember m.1 m.2 sorted) members

theorem ascending_insertAll (new : List (String × α)) : ∀ {members : List (String × α)},
    Ascending members → Ascending (insertAll members new) := by
  induction new with
  | nil => exact id
  | cons m new ih => exact fun h => ih (ascending_insertMember h)

theorem mem_insertAll {m : String × α} (new : List (String × α)) : ∀ {members : List (String × α)},
    m ∈ insertAll members new → m ∈ members ∨ m ∈ new := by
  induction new with
  | nil => exact .inl
  | cons m' new ih =>
    intro members h
    rcases ih h with h | h
    · rcases mem_insertMember h with rfl | h
      · exact .inr List.mem_cons_self
      · exact .inl h
    · exact .inr (List.mem_cons_of_mem m' h)

theorem insertAll_of_ascending : ∀ {new members : List (String × α)}, Ascending (members ++ new) →
    insertAll members new = members ++ new
  | [], members, _ => (List.append_nil members).symm
  | m :: new, members, h => by
    have hm : ∀ m' ∈ members, m'.1 < m.1 := fun m' h' =>
      (List.pairwise_append.mp h).2.2 m' h' m List.mem_cons_self
    have hs : Ascending ((members ++ [m]) ++ new) := by
      rwa [List.append_assoc, List.singleton_append]
    change insertAll (insertMember m.1 m.2 members) new = _
    rw [insertMember_of_last hm, insertAll_of_ascending hs, List.append_assoc,
      List.singleton_append]

end Members

/-- An object whose members stand in ascending order is made of them as they are. -/
theorem ofMembers_of_ascending {members : List (String × Value)} (h : Ascending members) :
    Value.ofMembers members = .object members :=
  congrArg Value.object (@insertAll_of_ascending Value members [] h)

/-! ### Values -/

/-- Whether a value has only objects with members in ascending order, and nests less than `depth`
deep. -/
inductive Fits : Nat → Value → Prop
  | null (depth : Nat) : Fits depth .null
  | bool (depth : Nat) (b : Bool) : Fits depth (.bool b)
  | number (depth : Nat) (n : Number) : Fits depth (.number n)
  | string (depth : Nat) (s : String) : Fits depth (.string s)
  | array {depth : Nat} {items : List Value} (hd : 1 < depth)
    (h : ∀ v ∈ items, Fits (depth - 1) v) :
    Fits depth (.array items)
  | object {depth : Nat} {members : List (String × Value)} (hd : 1 < depth) (hs : Ascending members)
    (h : ∀ m ∈ members, Fits (depth - 1) m.2) : Fits depth (.object members)

theorem Fits.mono {depth depth' : Nat} {v : Value} (h : Fits depth v) (hd : depth ≤ depth') :
    Fits depth' v := by
  induction h generalizing depth' with
  | null => exact .null _
  | bool _ b => exact .bool _ b
  | number _ n => exact .number _ n
  | string _ s => exact .string _ s
  | array hp h ih => exact .array (hp.trans_le hd) fun v hv => ih v hv (Nat.sub_le_sub_right hd 1)
  | object hp hs h ih =>
    exact .object (hp.trans_le hd) hs fun m hm => ih m hm (Nat.sub_le_sub_right hd 1)

theorem fits_ofMembers {depth : Nat} {members : List (String × Value)} (hd : 1 < depth)
    (h : ∀ m ∈ members, Fits (depth - 1) m.2) : Fits depth (.ofMembers members) := by
  refine .object hd (ascending_insertAll members List.Pairwise.nil) fun m hm => ?_
  rcases mem_insertAll members hm with hm | hm
  · cases hm
  · exact h m hm

/-! ### What is read -/

/-- What the reading functions give. -/
structure ReadsFitting (fuel : Nat) : Prop where
  value : ∀ {depth input r}, valueFrom fuel depth input = some r → Fits depth r.1
  items : ∀ {depth input r}, itemsFrom fuel depth input = some r → ∀ v ∈ r.1, Fits depth v
  members : ∀ {depth input r}, membersFrom fuel depth input = some r → ∀ m ∈ r.1, Fits depth m.2

theorem fits_valueFrom_succ {fuel : Nat} (ih : ReadsFitting fuel) {depth : Nat} {input : Input}
    {r : Value × Input} (h : valueFrom (fuel + 1) depth input = some r) : Fits depth r.1 := by
  unfold valueFrom at h
  split at h
  · obtain ⟨_, -, rfl⟩ := Option.map_eq_some_iff.mp h
    exact .null depth
  · obtain ⟨_, -, rfl⟩ := Option.map_eq_some_iff.mp h
    exact .bool depth true
  · obtain ⟨_, -, rfl⟩ := Option.map_eq_some_iff.mp h
    exact .bool depth false
  · obtain ⟨q, -, rfl⟩ := Option.map_eq_some_iff.mp h
    exact .string depth q.1
  · split at h
    · cases h
    rename_i hd
    have hd : 1 < depth := Nat.lt_of_not_le hd
    split at h
    · cases h
      exact .array hd (by simp)
    · obtain ⟨q, hq, rfl⟩ := Option.map_eq_some_iff.mp h
      exact .array hd (ih.items hq)
  · split at h
    · cases h
    rename_i hd
    have hd : 1 < depth := Nat.lt_of_not_le hd
    split at h
    · cases h
      exact .object hd List.Pairwise.nil (by simp)
    · obtain ⟨q, hq, rfl⟩ := Option.map_eq_some_iff.mp h
      exact fits_ofMembers hd (ih.members hq)
  · split at h
    · unfold number at h
      split at h
      · cases h
      · obtain ⟨n, -, rfl⟩ := Option.map_eq_some_iff.mp h
        exact .number depth n
    · cases h
  · cases h

theorem fits_itemsFrom_succ {fuel : Nat} (ih : ReadsFitting fuel) {depth : Nat} {input : Input}
    {r : List Value × Input} (h : itemsFrom (fuel + 1) depth input = some r) :
    ∀ v ∈ r.1, Fits depth v := by
  unfold itemsFrom at h
  split at h
  · cases h
  rename_i hv
  split at h
  · obtain ⟨q, hq, rfl⟩ := Option.map_eq_some_iff.mp h
    exact List.forall_mem_cons.mpr ⟨ih.value hv, ih.items hq⟩
  · cases h
    exact List.forall_mem_singleton.mpr (ih.value hv)
  · cases h

theorem fits_membersFrom_succ {fuel : Nat} (ih : ReadsFitting fuel) {depth : Nat} {input : Input}
    {r : List (String × Value) × Input} (h : membersFrom (fuel + 1) depth input = some r) :
    ∀ m ∈ r.1, Fits depth m.2 := by
  unfold membersFrom at h
  split at h
  · cases h
  split at h
  · cases h
  rename_i hv
  split at h
  · obtain ⟨q, hq, rfl⟩ := Option.map_eq_some_iff.mp h
    exact List.forall_mem_cons.mpr ⟨ih.value hv, ih.members hq⟩
  · cases h
    exact List.forall_mem_singleton.mpr (ih.value hv)
  · cases h

theorem readsFitting : ∀ fuel : Nat, ReadsFitting fuel
  | 0 => by constructor <;> intros _ _ _ h <;> cases h
  | fuel + 1 =>
    have ih := readsFitting fuel
    ⟨fits_valueFrom_succ ih, fits_itemsFrom_succ ih, fits_membersFrom_succ ih⟩

/-- A value that is read fits where it is read. -/
theorem fits_of_read {depth : Nat} {input : Input} {r : Value × Input}
    (h : value depth input = some r) :
    Fits depth r.1 := (readsFitting _).value h

end ClusterArchive.Proofs.Json.Canonical
