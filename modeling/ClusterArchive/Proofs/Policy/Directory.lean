import ClusterArchive.Proofs.Policy.LastDefinition

/-! # The rules of a directory

A directory whose files can be read is loaded as the table of all definitions in its policy files
(`exists_load`). Each file speaks for one scope, and in a directory every scope has at most one file
(`eq_of_scope`). Under the keys of a scope, the table therefore holds what the file of that scope
gives and nothing else (`get?_table_files`). The order in which the entries are listed plays no part
(`policyFiles_perm`). -/

namespace ClusterArchive.Proofs.Policy.Directory

open ClusterArchive.Policy ClusterArchive.Proofs.Policy.RuleTable
open ClusterArchive.Proofs.Policy.LastDefinition

/-! ### The definitions of a file -/

/-- The definitions in a file; one that cannot be read, is blank or malformed has none. -/
def definitionsIn (file : Files.Entry) : List Definition :=
  match file.read with
  | .error _ => []
  | .ok contents =>
    if contents.all Text.isBlankByte then [] else (Definition.ofBytes? contents).getD []

/-- The scope that a file speaks for. -/
def scopeOf (file : Files.Entry) : Scope := .ofFileName file.name

/-- The definitions in a file, each in the file's scope. -/
def scopedIn (file : Files.Entry) : List Scoped := (definitionsIn file).map (scopeOf file, ·)

/-- Whether no condition in a file halts the reading. -/
def Reads (file : Files.Entry) : Prop := ∀ d ∈ definitionsIn file, ∀ a, ¬ Halts (condition d a)

theorem scope_of_mem_scopedIn {file : Files.Entry} {x : Scoped} (h : x ∈ scopedIn file) :
    x.1 = scopeOf file := by
  obtain ⟨d, -, rfl⟩ := List.mem_map.mp h
  rfl

theorem ofFileName_injective : Function.Injective Scope.ofFileName := by
  intro name name' h
  unfold Scope.ofFileName at h
  split at h <;> split at h
  · rename_i hn hn'
    exact hn.trans hn'.symm
  · cases h
  · cases h
  · exact (Scope.namespaced.injEq _ _).mp h

/-! ### Loading -/

theorem exists_addFile {file : Files.Entry} (h : Reads file) (l : Loaded) (directory : String) :
    ∃ l', l.addFile directory file = .ok l' ∧
      ∀ a, rulesFor l'.rules a = table a (rulesFor l.rules a) (scopedIn file) := by
  unfold Reads at h
  unfold Loaded.addFile scopedIn
  unfold definitionsIn at h ⊢
  cases hr : file.read with
  | error e => exact ⟨_, rfl, fun _ => rfl⟩
  | ok contents =>
    simp only [hr] at h ⊢
    cases hb : contents.all Text.isBlankByte with
    | true => exact ⟨l, rfl, fun _ => rfl⟩
    | false =>
      simp only [hb, Bool.false_eq_true, if_false] at h ⊢
      cases hd : Definition.ofBytes? contents with
      | none => exact ⟨_, rfl, fun _ => rfl⟩
      | some ds =>
        simp only [hd, Option.getD_some] at h ⊢
        exact exists_add (.ofFileName file.name) l h

theorem exists_addFiles (directory : String) : ∀ {files : List Files.Entry} (l : Loaded),
    (∀ file ∈ files, Reads file) → ∃ l', l.addFiles directory files = .ok l' ∧
      ∀ a, rulesFor l'.rules a = table a (rulesFor l.rules a) (files.flatMap scopedIn)
  | [], l, _ => ⟨l, rfl, fun _ => rfl⟩
  | file :: files, l, h => by
    obtain ⟨l₁, h₁, hr₁⟩ := exists_addFile (h file List.mem_cons_self) l directory
    obtain ⟨l₂, h₂, hr₂⟩ := exists_addFiles directory l₁ fun f hf => h f (List.mem_cons_of_mem _ hf)
    refine ⟨l₂, (congrArg (· >>= _) h₁).trans h₂, fun a => ?_⟩
    rw [hr₂, hr₁, table, table, ← List.foldl_append]
    rfl

/-- A directory of which no file halts the reading is loaded, and the rules of each action are the
table of all definitions in its policy files. -/
theorem exists_load {path : String} (hp : path ≠ "") {entries : List Files.Entry}
    (h : ∀ file ∈ policyFiles entries, Reads file) :
    ∃ l, load path (.ok entries) = .ok l ∧
      ∀ a, rulesFor l.rules a = table a [] ((policyFiles entries).flatMap scopedIn) := by
  obtain ⟨l, hl, hr⟩ := exists_addFiles path .empty h
  have hr' :
      ∀ a, rulesFor l.rules a = table a [] ((policyFiles entries).flatMap scopedIn) := fun a => by
    rw [hr a]
    cases a <;> rfl
  unfold load
  rw [if_neg (by rwa [String.isEmpty_iff])]
  simp only [hl]
  by_cases he : l.rules.isEmpty = true
  · exact ⟨_, congrArg Except.ok (if_pos he), hr'⟩
  · exact ⟨_, congrArg Except.ok (if_neg he), hr'⟩

/-! ### Policy files -/

/-- Whether an entry is a policy file. -/
def isPolicyFile (e : Files.Entry) : Bool := !(e.name.startsWith ".." || e.isDirectory)

theorem policyFiles_perm_filter (entries : List Files.Entry) :
    (policyFiles entries).Perm (entries.filter isPolicyFile) := List.mergeSort_perm _ _

theorem mem_policyFiles {entries : List Files.Entry} {e : Files.Entry} :
    e ∈ policyFiles entries ↔ e ∈ entries ∧ isPolicyFile e = true := by
  rw [(policyFiles_perm_filter entries).mem_iff, List.mem_filter]

theorem sorted_policyFiles (entries : List Files.Entry) :
    (policyFiles entries).Pairwise fun a b => a.name ≤ b.name := by
  have htrans : ∀ a b c : Files.Entry, decide (a.name ≤ b.name) = true →
      decide (b.name ≤ c.name) = true → decide (a.name ≤ c.name) = true := fun _ _ _ hab hbc =>
    decide_eq_true (String.le_trans (of_decide_eq_true hab) (of_decide_eq_true hbc))
  have htotal : ∀ a b : Files.Entry,
      (decide (a.name ≤ b.name) || decide (b.name ≤ a.name)) = true := fun a b => by
    simpa using String.le_total a.name b.name
  have hs := List.pairwise_mergeSort htrans htotal (entries.filter isPolicyFile)
  exact hs.imp of_decide_eq_true

/-- The order in which entries with different names are listed plays no part. -/
theorem policyFiles_perm {entries entries' : List Files.Entry}
    (hn : (entries.map Files.Entry.name).Nodup) (h : entries'.Perm entries) :
    policyFiles entries' = policyFiles entries := by
  refine List.Perm.eq_of_pairwise (fun a b ha hb hab hba => ?_) (sorted_policyFiles entries')
    (sorted_policyFiles entries) ?_
  · have hb' := (mem_policyFiles.mp hb).1
    have ha' := h.mem_iff.mp (mem_policyFiles.mp ha).1
    exact List.inj_on_of_nodup_map hn ha' hb' (String.le_antisymm hab hba)
  · exact (policyFiles_perm_filter entries').trans
      ((h.filter isPolicyFile).trans (policyFiles_perm_filter entries).symm)

/-- In a directory no two files speak for one scope. -/
theorem eq_of_scope {entries : List Files.Entry} (hn : (entries.map Files.Entry.name).Nodup)
    {e e' : Files.Entry} (h : e ∈ entries) (h' : e' ∈ entries) (hs : scopeOf e = scopeOf e') :
    e = e' :=
  List.inj_on_of_nodup_map hn h h' (ofFileName_injective hs)

/-! ### The files of a scope -/

/-- The policy files that speak for a scope. -/
def filesFor (scope : Scope) (entries : List Files.Entry) : List Files.Entry :=
  (policyFiles entries).filter (scopeOf · = scope)

theorem mem_filesFor {scope : Scope} {entries : List Files.Entry} {e : Files.Entry} :
    e ∈ filesFor scope entries ↔ (e ∈ entries ∧ isPolicyFile e = true) ∧ scopeOf e = scope := by
  rw [filesFor, List.mem_filter, mem_policyFiles, decide_eq_true_iff]

theorem nodup_filesFor (scope : Scope) {entries : List Files.Entry}
    (hn : (entries.map Files.Entry.name).Nodup) : (filesFor scope entries).Nodup :=
  (((policyFiles_perm_filter entries).nodup_iff).mpr (hn.of_map.filter _)).filter _

/-- Directories with the same files for a scope have the same list of them: there is at most one. -/
theorem filesFor_congr {scope : Scope} {entries entries' : List Files.Entry}
    (hn : (entries.map Files.Entry.name).Nodup) (hn' : (entries'.map Files.Entry.name).Nodup)
    (h : ∀ e, scopeOf e = scope → (e ∈ entries ↔ e ∈ entries')) :
    filesFor scope entries = filesFor scope entries' := by
  have hm : ∀ e, e ∈ filesFor scope entries ↔ e ∈ filesFor scope entries' := fun e => by
    rw [mem_filesFor, mem_filesFor]
    exact and_congr_left fun hs => and_congr_left fun _ => h e hs
  have hp : (filesFor scope entries).Perm (filesFor scope entries') :=
    (List.perm_ext_iff_of_nodup (nodup_filesFor scope hn) (nodup_filesFor scope hn')).mpr hm
  refine @List.Perm.eq_of_pairwise _ (fun _ _ => True) _ _ (fun a b ha hb _ _ => ?_) ?_ ?_ hp
  · obtain ⟨⟨hb, -⟩, hs⟩ := mem_filesFor.mp ((hm b).mpr hb)
    obtain ⟨⟨ha, -⟩, hs'⟩ := mem_filesFor.mp ha
    exact eq_of_scope hn ha hb (hs'.trans hs.symm)
  · exact List.pairwise_of_forall fun _ _ => trivial
  · exact List.pairwise_of_forall fun _ _ => trivial

/-- What a table holds under a key is not changed by leaving out definitions with other keys. -/
theorem get?_table_filter (a : Action) (k : Key) {p : Scoped → Bool} :
    ∀ {xs : List Scoped} {rules rules' : Rules}, (∀ x ∈ xs, keyOf x = k → p x = true) →
      rules.get? k = rules'.get? k →
        (table a rules xs).get? k = (table a rules' (xs.filter p)).get? k
  | [], _, _, _, hr => hr
  | x :: xs, rules, rules', hx, hr => by
    have hxs : ∀ y ∈ xs, keyOf y = k → p y = true := fun y hy => hx y (List.mem_cons_of_mem _ hy)
    change (table a (putRule rules (keyOf x) (predicate? a x)) xs).get? k = _
    cases hp : p x with
    | true =>
      rw [List.filter_cons_of_pos hp]
      refine get?_table_filter a k hxs ?_
      rw [get?_putRule, get?_putRule, hr]
    | false =>
      rw [List.filter_cons_of_neg (by rw [hp]; exact Bool.false_ne_true)]
      refine get?_table_filter a k hxs ?_
      have hk : keyOf x ≠ k := fun hk => by
        rw [hx x List.mem_cons_self hk] at hp
        cases hp
      rw [get?_putRule, if_neg hk, hr]

theorem filter_scopedIn (scope : Scope) (file : Files.Entry) :
    (scopedIn file).filter (·.1 = scope) = if scopeOf file = scope then scopedIn file else [] := by
  split
  · rename_i hs
    exact List.filter_eq_self.mpr fun x hx => decide_eq_true ((scope_of_mem_scopedIn hx).trans hs)
  · rename_i hs
    refine List.filter_eq_nil_iff.mpr fun x hx hd => hs ?_
    rw [← of_decide_eq_true hd, scope_of_mem_scopedIn hx]

theorem filter_flatMap_scopedIn (scope : Scope) (files : List Files.Entry) :
    (files.flatMap scopedIn).filter (·.1 = scope) =
      (files.filter (scopeOf · = scope)).flatMap scopedIn := by
  induction files with
  | nil => rfl
  | cons file files ih =>
    rw [List.flatMap_cons, List.filter_append, ih, filter_scopedIn, List.filter_cons]
    by_cases hs : scopeOf file = scope <;> simp [hs]

/-- Under the keys of a scope the table of a directory holds what the files of that scope give. -/
theorem get?_table_files (a : Action) (scope : Scope) (gvk : Gvk) (entries : List Files.Entry) :
    (table a [] ((policyFiles entries).flatMap scopedIn)).get? ⟨scope, gvk⟩ =
      (table a [] ((filesFor scope entries).flatMap scopedIn)).get? ⟨scope, gvk⟩ := by
  rw [filesFor, ← filter_flatMap_scopedIn]
  exact get?_table_filter a _ (fun x _ hk => decide_eq_true (congrArg Key.scope hk)) rfl

end ClusterArchive.Proofs.Policy.Directory
