import ClusterArchive.Proofs.Policy.Directory

/-! # Tenants are isolated

What the rules of a directory say of a resource is decided by two files, the one for the whole
cluster and the one named like the resource's namespace (`verdicts_congr`). All other files may be
replaced, broken, added or removed; a file for one namespace is never heard in another; and a new
file can only add to what is archived and deleted (`tenants_isolated`). -/

namespace ClusterArchive.Proofs.Policy.Tenants

open ClusterArchive.Policy ClusterArchive.Proofs.Policy.RuleTable
open ClusterArchive.Proofs.Policy.LastDefinition ClusterArchive.Proofs.Policy.Directory

/-- What the rules say of a resource: whether it is to be archived, and whether it is to be
deleted. -/
def verdicts (s : RuleSet) (r : Resource) : Bool × Bool :=
  (s.mustArchive (some r), s.mustDelete (some r))

/-- Whether a file speaks for the whole cluster or bears the name of a namespace. -/
def Concerns (namespace_ : String) (file : Files.Entry) : Prop :=
  file.name = globalName ∨ file.name = namespace_

instance (namespace_ : String) (file : Files.Entry) : Decidable (Concerns namespace_ file) := by
  unfold Concerns
  infer_instance

/-- A directory as it is found: no two entries have one name, and no condition halts the reading. -/
structure Sound (entries : List Files.Entry) : Prop where
  names : (entries.map Files.Entry.name).Nodup
  reads : ∀ file ∈ policyFiles entries, Reads file

variable {entries entries' : List Files.Entry} {l l' : Loaded} {r : Resource}

theorem Sound.filter (h : Sound entries) (p : Files.Entry → Bool) : Sound (entries.filter p) where
  names := h.names.sublist (List.filter_sublist.map _)
  reads file hf := by
    obtain ⟨hm, hp⟩ := mem_policyFiles.mp hf
    exact h.reads file (mem_policyFiles.mpr ⟨List.mem_of_mem_filter hm, hp⟩)

/-- What a directory is loaded as. -/
def LoadedFrom (entries : List Files.Entry) (l : Loaded) : Prop :=
  ∀ a, rulesFor l.rules a = table a [] ((policyFiles entries).flatMap scopedIn)

theorem Sound.exists_load (h : Sound entries) {path : String} (hp : path ≠ "") :
    ∃ l, load path (.ok entries) = .ok l ∧ LoadedFrom entries l := Directory.exists_load hp h.reads

/-! ### Two directories -/

/-- A file that speaks for a scope that a resource is judged by concerns its namespace. -/
theorem concerns_of_scopeOf {namespace_ : String} {scope : Scope} {file : Files.Entry}
    (hs : scope = .everywhere ∨ scope = .namespaced namespace_) (h : scopeOf file = scope) :
    Concerns namespace_ file := by
  unfold scopeOf Scope.ofFileName at h
  split at h
  · rename_i hn
    exact Or.inl hn
  · rcases hs with rfl | rfl
    · cases h
    · exact Or.inr ((Scope.namespaced.injEq _ _).mp h)

/-- The rules of an action say the same of a resource if the files for its scopes are the same. -/
theorem apply_eq_of_files (hl : LoadedFrom entries l) (hl' : LoadedFrom entries' l')
    (h : ∀ scope, (scope = .everywhere ∨ scope = .namespaced r.identity.namespace_) →
      filesFor scope entries = filesFor scope entries') (a : Action) :
    (rulesFor l.rules a).apply r = (rulesFor l'.rules a).apply r := by
  refine apply_congr fun scope hs => ?_
  rw [hl a, hl' a, get?_table_files, get?_table_files, h scope hs]

/-- **Two files decide**: directories with the same files for the cluster and for a resource's
namespace give the same verdicts on it. -/
theorem verdicts_congr (h : Sound entries) (h' : Sound entries') (hl : LoadedFrom entries l)
    (hl' : LoadedFrom entries' l')
    (hc : ∀ f, Concerns r.identity.namespace_ f → (f ∈ entries ↔ f ∈ entries')) :
    verdicts l.rules r = verdicts l'.rules r := by
  have hf : ∀ scope, (scope = .everywhere ∨ scope = .namespaced r.identity.namespace_) →
      filesFor scope entries = filesFor scope entries' := fun scope hs =>
    filesFor_congr h.names h'.names fun f hf => hc f (concerns_of_scopeOf hs hf)
  have hd : l.rules.delete.apply r = l'.rules.delete.apply r := apply_eq_of_files hl hl' hf .delete
  have ha : l.rules.archive.apply r = l'.rules.archive.apply r :=
    apply_eq_of_files hl hl' hf .archive
  simp only [verdicts, RuleSet.mustArchive, RuleSet.mustDelete, Option.any_some, hd, ha]

/-- A scope that has a file keeps its files when a file with a new name is added. -/
theorem filesFor_cons {file : Files.Entry} {scope : Scope}
    (hn : ((file :: entries).map Files.Entry.name).Nodup) (h : filesFor scope entries ≠ []) :
    filesFor scope (file :: entries) = filesFor scope entries := by
  obtain ⟨f, hf⟩ := List.exists_mem_of_ne_nil _ h
  obtain ⟨⟨hm, -⟩, hs⟩ := mem_filesFor.mp hf
  refine filesFor_congr hn hn.of_cons fun e he => ⟨fun hc => ?_, List.mem_cons_of_mem file⟩
  -- a file for the scope is `f`, which is not the new one
  rw [eq_of_scope hn hc (List.mem_cons_of_mem file hm) (he.trans hs.symm)]
  exact hm

/-- With a file added, rules that applied to a resource still do. -/
theorem apply_mono {file : Files.Entry} (hn : ((file :: entries).map Files.Entry.name).Nodup)
    (hl : LoadedFrom entries l) (hl' : LoadedFrom (file :: entries) l') {a : Action}
    (h : (rulesFor l.rules a).apply r = true) : (rulesFor l'.rules a).apply r = true := by
  obtain ⟨scope, hs, p, hp, ht⟩ := apply_iff.mp h
  refine apply_iff.mpr ⟨scope, hs, p, ?_, ht⟩
  rw [hl a, get?_table_files] at hp
  have hf : filesFor scope entries ≠ [] := fun he => by
    rw [he] at hp
    cases hp
  rw [hl' a, get?_table_files, filesFor_cons hn hf]
  exact hp

theorem verdicts_mono {file : Files.Entry} (hn : ((file :: entries).map Files.Entry.name).Nodup)
    (hl : LoadedFrom entries l) (hl' : LoadedFrom (file :: entries) l') :
    (l.rules.mustArchive (some r) = true → l'.rules.mustArchive (some r) = true) ∧
      (l.rules.mustDelete (some r) = true → l'.rules.mustDelete (some r) = true) := by
  have hd : l.rules.delete.apply r = true → l'.rules.delete.apply r = true :=
    apply_mono hn hl hl' (a := .delete)
  have ha : l.rules.archive.apply r = true → l'.rules.archive.apply r = true :=
    apply_mono hn hl hl' (a := .archive)
  simp only [RuleSet.mustArchive, RuleSet.mustDelete, Option.any_some, Bool.or_eq_true]
  exact ⟨Or.imp hd ha, hd⟩

theorem load_perm (hn : (entries.map Files.Entry.name).Nodup) (h : entries'.Perm entries)
    (path : String) :
    load path (.ok entries') = load path (.ok entries) := by
  unfold load
  simp only [policyFiles_perm hn h]

/-! ### Isolation -/

/-- How the rules made of a directory depend on its files, and on those of any other directory. -/
structure Isolated (entries : List Files.Entry) (s : RuleSet) : Prop where
  /-- The files for the cluster and for a resource's namespace give the verdicts on it. -/
  two_files : ∀ path, path ≠ "" → ∀ r : Resource,
    ∃ l, load path (.ok (entries.filter (Concerns r.identity.namespace_ ·))) = .ok l ∧
      verdicts s r = verdicts l.rules r
  /-- Other files may be replaced, broken, added or removed. -/
  others : ∀ path, path ≠ "" → ∀ entries', Sound entries' →
    ∃ l, load path (.ok entries') = .ok l ∧
      ∀ r : Resource, (∀ f, Concerns r.identity.namespace_ f → (f ∈ entries ↔ f ∈ entries')) →
        verdicts s r = verdicts l.rules r
  /-- A file for a namespace is heard in that namespace only. -/
  one_namespace : ∀ path, path ≠ "" → ∀ entries', Sound entries' → ∀ name, name ≠ globalName →
    (∀ f : Files.Entry, f.name ≠ name → (f ∈ entries ↔ f ∈ entries')) →
      ∃ l, load path (.ok entries') = .ok l ∧
        ∀ r : Resource, verdicts s r ≠ verdicts l.rules r → r.identity.namespace_ = name
  /-- A new file can only add to what is archived and deleted. -/
  added : ∀ path, path ≠ "" → ∀ file, Sound (file :: entries) →
    ∃ l, load path (.ok (file :: entries)) = .ok l ∧ ∀ r,
      (s.mustArchive (some r) = true → l.rules.mustArchive (some r) = true) ∧
        (s.mustDelete (some r) = true → l.rules.mustDelete (some r) = true)

theorem isolated_of_loadedFrom (h : Sound entries) (hl : LoadedFrom entries l) :
    Isolated entries l.rules where
  two_files path hp r := by
    have h' := h.filter (Concerns r.identity.namespace_ ·)
    obtain ⟨l', hl', hr'⟩ := h'.exists_load hp
    refine ⟨l', hl', verdicts_congr h h' hl hr' fun f hf => ?_⟩
    rw [List.mem_filter, decide_eq_true_iff, and_iff_left hf]
  others path hp entries' h' := by
    obtain ⟨l', hl', hr'⟩ := h'.exists_load hp
    exact ⟨l', hl', fun r hc => verdicts_congr h h' hl hr' hc⟩
  one_namespace path hp entries' h' name hg hc := by
    obtain ⟨l', hl', hr'⟩ := h'.exists_load hp
    refine ⟨l', hl', fun r hv => ?_⟩
    by_contra hn
    refine hv (verdicts_congr h h' hl hr' fun f hf => hc f ?_)
    rintro rfl
    exact hf.elim hg fun hr => hn hr.symm
  added path hp file h' := by
    obtain ⟨l', hl', hr'⟩ := h'.exists_load hp
    exact ⟨l', hl', fun r => verdicts_mono h'.names hl hr'⟩

/-- **Tenants are isolated**: a directory is loaded, in whatever order its entries are listed, and
its verdicts on a resource depend on two of its files alone. -/
theorem tenants_isolated {path : String} (hp : path ≠ "") {entries : List Files.Entry}
    (h : Sound entries) :
    ∃ l, load path (.ok entries) = .ok l ∧ Isolated entries l.rules ∧
      ∀ entries' : List Files.Entry, entries'.Perm entries → load path (.ok entries') = .ok l := by
  obtain ⟨l, hl, hr⟩ := h.exists_load hp
  exact ⟨l, hl, isolated_of_loadedFrom h hr,
    fun entries' he => (load_perm h.names he path).trans hl⟩

theorem reads_of_isOk {file : Files.Entry}
    (h : (definitionsIn file).all fun d =>
      (Predicate.compile d.archiveWhen).isOk && (Predicate.compile d.deleteWhen).isOk) :
    Reads file := by
  intro d hd a
  have hc := Bool.and_eq_true_iff.mp (List.all_eq_true.mp h d hd)
  cases a with
  | archive => exact not_halts_of_isOk hc.1
  | delete => exact not_halts_of_isOk hc.2

/-- A directory with a file for the cluster, one for a namespace that deletes finished pods, one for
another namespace that is broken, and a hidden directory. -/
def twoTenants : List Files.Entry :=
  [⟨"web", some (.file (.ok (utf8Bytes
      "- selector:\n    apiVersion: v1\n    kind: Pod\n  deleteWhen: status.phase == 'Done'\n"))
      0)⟩,
    ⟨"_global", some (.file (.ok (utf8Bytes
      ("- selector:\n    apiVersion: batch/v1\n    kind: Job\n" ++
        "  archiveWhen: true\n  deleteWhen: status.n +\n"))) 0)⟩,
    ⟨"..data", some (.directory [])⟩,
    ⟨"db", some (.file (.ok (utf8Bytes "- selector: [")) 0)⟩]

theorem isolated_twoTenants : "/policies" ≠ "" ∧ Sound twoTenants ∧
    ∃ l, load "/policies" (.ok twoTenants) = .ok l ∧ Isolated twoTenants l.rules ∧
      ∀ entries' : List Files.Entry, entries'.Perm twoTenants →
        load "/policies" (.ok entries') = .ok l := by
  have hr : twoTenants.all (fun file => (definitionsIn file).all fun d =>
      (Predicate.compile d.archiveWhen).isOk && (Predicate.compile d.deleteWhen).isOk) = true := by
    decide +kernel
  have h : Sound twoTenants :=
    ⟨by decide,
      fun file hf => reads_of_isOk (List.all_eq_true.mp hr file (mem_policyFiles.mp hf).1)⟩
  have hp : "/policies" ≠ "" := by decide
  exact ⟨hp, h, tenants_isolated hp h⟩

end ClusterArchive.Proofs.Policy.Tenants
