import ClusterArchive.Policy.Report
import ClusterArchive.Proofs.Policy.Errors
import ClusterArchive.Proofs.Policy.Tenants
import ClusterArchive.Proofs.Text.Order

/-! # Errors are accounted for

The files of a directory are gone through in the order of the bytes of their names
(`considered_policyFiles`), and the errors of each stand in the order of its definitions and of
their conditions. Nothing else is reported, but for one more error where no predicate is left. The
rules are those of the conditions that compile, whatever else is wrong; a malformed file leaves no
trace among them (`get?_malformed`, `rules_without`). So there is no error, and a check succeeds, if
and only if all files are in order, all conditions compile, and there is a predicate
(`errors_accounted`). -/

namespace ClusterArchive.Proofs.Policy.Accounting

open ClusterArchive.Policy ClusterArchive.Proofs.Policy.RuleTable
open ClusterArchive.Proofs.Policy.LastDefinition ClusterArchive.Proofs.Policy.Directory
open ClusterArchive.Proofs.Policy.Tenants ClusterArchive.Proofs.Policy.Errors

variable {path : String} {entries : List Files.Entry} {l : Loaded} {file : Files.Entry}

/-! ### The files that are considered -/

/-- Whether files are those of a directory that are considered, in ascending order of the bytes of
their names. -/
structure Considered (entries files : List Files.Entry) : Prop where
  perm : files.Perm (entries.filter isPolicyFile)
  ascending : files.Pairwise fun a b => utf8Bytes a.name < utf8Bytes b.name

theorem considered_policyFiles (hn : (entries.map Files.Entry.name).Nodup) :
    Considered entries (policyFiles entries) := by
  refine ⟨policyFiles_perm_filter entries, ?_⟩
  have hd : ((policyFiles entries).map Files.Entry.name).Nodup :=
    ((policyFiles_perm_filter entries).map _).nodup_iff.mpr (hn.sublist (List.filter_sublist.map _))
  refine ((sorted_policyFiles entries).and (List.pairwise_map.mp hd)).imp fun h => ?_
  exact Text.Order.bytes_lt_iff.mpr (lt_of_le_of_ne h.1 h.2)

theorem policyFiles_filter (hn : (entries.map Files.Entry.name).Nodup) (p : Files.Entry → Bool) :
    policyFiles (entries.filter p) = (policyFiles entries).filter p := by
  refine List.Perm.eq_of_pairwise (fun a b ha hb hab hba => ?_) (sorted_policyFiles _)
    ((sorted_policyFiles entries).filter p) ?_
  · have ha' := List.mem_of_mem_filter (mem_policyFiles.mp ha).1
    have hb' := (mem_policyFiles.mp (List.mem_of_mem_filter hb)).1
    exact List.inj_on_of_nodup_map hn ha' hb' (String.le_antisymm hab hba)
  · refine (policyFiles_perm_filter _).trans ?_
    rw [List.filter_comm]
    exact ((policyFiles_perm_filter entries).filter p).symm

/-- Files without definitions may be left out. -/
theorem flatMap_scopedIn_filter {p : Files.Entry → Bool} {files : List Files.Entry}
    (h : ∀ f ∈ files, p f = false → scopedIn f = []) :
    (files.filter p).flatMap scopedIn = files.flatMap scopedIn := by
  induction files with
  | nil => rfl
  | cons f files ih =>
    have ih := ih fun g hg => h g (List.mem_cons_of_mem f hg)
    cases hp : p f with
    | true => rw [List.filter_cons_of_pos hp, List.flatMap_cons, List.flatMap_cons, ih]
    | false =>
      rw [List.filter_cons_of_neg (by simp [hp]), List.flatMap_cons, h f List.mem_cons_self hp, ih,
        List.nil_append]

/-! ### Malformed files -/

/-- Whether a file can be read and is not blank, but is no list of definitions. -/
def Malformed (file : Files.Entry) : Prop :=
  ∃ contents, file.read = .ok contents ∧ contents.all Text.isBlankByte = false ∧
    Definition.ofBytes? contents = none

theorem Malformed.scopedIn (h : Malformed file) : scopedIn file = [] := by
  obtain ⟨contents, hr, hb, hd⟩ := h
  simp [Directory.scopedIn, definitionsIn, hr, hb, hd]

/-- There are no rules for the scope of a malformed file. -/
theorem get?_malformed (hn : (entries.map Files.Entry.name).Nodup) (hl : LoadedFrom entries l)
    (hf : file ∈ entries) (h : Malformed file) (a : Action) (gvk : Gvk) :
    (rulesFor l.rules a).get? ⟨scopeOf file, gvk⟩ = none := by
  have hs : (filesFor (scopeOf file) entries).flatMap Directory.scopedIn = [] := by
    refine List.flatMap_eq_nil_iff.mpr fun e he => ?_
    obtain ⟨⟨hm, -⟩, hs⟩ := mem_filesFor.mp he
    rw [eq_of_scope hn hm hf hs, h.scopedIn]
  rw [hl a, get?_table_files, hs]
  rfl

/-- Without a malformed file, a directory is loaded with the same rules. -/
theorem rules_without (h : Sound entries) (hp : path ≠ "") (hl : LoadedFrom entries l)
    (hf : file ∈ entries) (hm : Malformed file) :
    ∃ l', load path (.ok (entries.filter (·.name ≠ file.name))) = .ok l' ∧ l'.rules = l.rules := by
  obtain ⟨l', hl', hr'⟩ := (h.filter (·.name ≠ file.name)).exists_load hp
  have hs : (policyFiles (entries.filter (·.name ≠ file.name))).flatMap Directory.scopedIn =
      (policyFiles entries).flatMap Directory.scopedIn := by
    rw [policyFiles_filter h.names]
    refine flatMap_scopedIn_filter fun f hm' hn => ?_
    rw [List.inj_on_of_nodup_map h.names (mem_policyFiles.mp hm').1 hf (by simpa using hn),
      hm.scopedIn]
  have ha : ∀ a, rulesFor l'.rules a = rulesFor l.rules a := fun a => by rw [hr' a, hl a, hs]
  exact ⟨l', hl', RuleSet.mk.injEq .. ▸ ⟨ha .archive, ha .delete⟩⟩

/-! ### Nothing is wrong -/

/-- Whether a file can be read and is blank or a list of definitions. -/
def InOrder (file : Files.Entry) : Prop :=
  ∃ contents, file.read = .ok contents ∧
    (contents.all Text.isBlankByte = true ∨
      ∃ definitions, Definition.ofBytes? contents = some definitions)

/-- Whether a condition is blank or compiles. -/
def Compiles (condition : String) : Prop :=
  Text.allBlank condition.toList = true ∨ ∃ p, Predicate.compile condition = .ok (.ok p)

theorem refusal?_eq_none_iff {c : String} (h : ¬ Halts c) : refusal? c = none ↔ Compiles c := by
  unfold refusal? Compiles
  unfold Halts at h
  cases hb : Text.allBlank c.toList with
  | true => simp
  | false =>
    cases hc : Predicate.compile c with
    | error halt => exact absurd ⟨hb, halt, hc⟩ h
    | ok result => cases result <;> simp

theorem errorsOf_eq_nil_iff {x : Scoped} (h : ∀ a, ¬ Halts (condition x.2 a)) :
    errorsOf x = [] ↔ ∀ a, Compiles (condition x.2 a) := by
  have hc : ∀ k a, refused k a (condition x.2 a) = [] ↔ Compiles (condition x.2 a) := fun k a => by
    rw [← refusal?_eq_none_iff (h a), refused, Option.toList_eq_nil_iff, Option.map_eq_none_iff]
  rw [errorsOf, List.append_eq_nil_iff]
  constructor
  · rintro ⟨ha, hd⟩ (_ | _)
    · exact (hc _ .archive).mp ha
    · exact (hc _ .delete).mp hd
  · exact fun hx => ⟨(hc _ .archive).mpr (hx .archive), (hc _ .delete).mpr (hx .delete)⟩

theorem errorsIn_eq_nil_iff (h : Reads file) :
    errorsIn path file = [] ↔
      InOrder file ∧ ∀ d ∈ definitionsIn file, ∀ a, Compiles (condition d a) := by
  unfold Reads at h
  unfold errorsIn InOrder
  unfold definitionsIn at h ⊢
  cases hr : file.read with
  | error e => simp
  | ok contents =>
    simp only [hr] at h ⊢
    cases hb : contents.all Text.isBlankByte with
    | true => exact iff_of_true rfl ⟨⟨contents, rfl, .inl hb⟩, by simp⟩
    | false =>
      cases hd : Definition.ofBytes? contents with
      | none =>
        refine iff_of_false (List.cons_ne_nil _ _) fun ⟨⟨contents', hc, ho⟩, _⟩ => ?_
        rw [← Except.ok.inj hc, hb, hd] at ho
        simp at ho
      | some ds =>
        simp only [hb, hd, Bool.false_eq_true, if_false, Option.getD_some] at h ⊢
        rw [List.flatMap_eq_nil_iff]
        have he : ∀ d ∈ ds, errorsOf (scopeOf file, d) = [] ↔
            ∀ a, Compiles (condition d a) := fun d hm =>
          errorsOf_eq_nil_iff (h d hm)
        rw [forall₂_congr he]
        exact ⟨fun hc => ⟨⟨contents, rfl, .inr ⟨ds, hd⟩⟩, hc⟩, fun hc => hc.2⟩

theorem isEmpty_rules_iff {rules : Rules} :
    rules.isEmpty = false ↔ ∃ k p, rules.get? k = some p := by
  cases rules with
  | nil => simp [Rules.get?]
  | cons x rules => simpa using ⟨x.1, x.2, by simp [Rules.get?]⟩

theorem isEmpty_iff {s : RuleSet} :
    s.isEmpty = false ↔ ∃ a k p, (rulesFor s a).get? k = some p := by
  rw [RuleSet.isEmpty, Bool.and_eq_false_iff, isEmpty_rules_iff, isEmpty_rules_iff]
  refine ⟨fun h => h.elim (⟨.archive, ·⟩) (⟨.delete, ·⟩), fun ⟨a, h⟩ => ?_⟩
  cases a with
  | archive => exact .inl h
  | delete => exact .inr h

/-- The account that a directory's errors give of its files. -/
structure Accounted (path : String) (entries files : List Files.Entry) (l : Loaded) : Prop where
  /-- The errors of the files, one after another, and one more if there are no rules. -/
  errors : l.errors =
    files.flatMap (errorsIn path) ++ if l.rules.isEmpty then [.noDefinitions path] else []
  /-- Under a key there is what the last definition gives that has the key and a condition that
  compiles. -/
  rules : ∀ a k p, (rulesFor l.rules a).get? k = some p ↔ LastGives a k (files.flatMap scopedIn) p
  /-- No predicate comes from a malformed file. -/
  malformed : ∀ file ∈ files, Malformed file →
    (∀ a gvk, (rulesFor l.rules a).get? ⟨scopeOf file, gvk⟩ = none) ∧
      ∃ l', load path (.ok (entries.filter (·.name ≠ file.name))) = .ok l' ∧ l'.rules = l.rules
  /-- There is no error if and only if nothing is wrong. -/
  flawless : l.errors = [] ↔
    (∀ file ∈ files, InOrder file ∧ ∀ d ∈ definitionsIn file, ∀ a, Compiles (condition d a)) ∧
      ∃ a k p, (rulesFor l.rules a).get? k = some p
  /-- A check succeeds if and only if there is no error. -/
  check : (Report.of path l).code = 0 ↔ l.errors = []

/-- **Errors are accounted for**: a directory is loaded, and its errors are those of the files that
are considered, in order and each once. -/
theorem errors_accounted (hp : path ≠ "") (h : Sound entries) :
    ∃ files l, Considered entries files ∧ load path (.ok entries) = .ok l ∧
      Accounted path entries files l := by
  obtain ⟨l, hl, hr⟩ := h.exists_load hp
  have he := (errors_of_load hp hl).2
  refine ⟨policyFiles entries, l, considered_policyFiles h.names, hl, he, fun a k p => ?_,
    fun file hf hm => ?_, ?_, ?_⟩
  · rw [hr a, get?_table_nil]
  · have hf := (mem_policyFiles.mp hf).1
    exact ⟨get?_malformed h.names hr hf hm, rules_without h hp hr hf hm⟩
  · rw [he, List.append_eq_nil_iff, List.flatMap_eq_nil_iff, ← isEmpty_iff]
    refine and_congr ?_ (by cases l.rules.isEmpty <;> simp)
    exact forall₂_congr fun file hf => errorsIn_eq_nil_iff (h.reads file hf)
  · cases he : l.errors <;> simp [Report.code, Report.of, he]

/-- A file with a condition that compiles. -/
def inForce : Files.Entry :=
  ⟨"_global", some (.file (.ok (utf8Bytes
    "- selector:\n    apiVersion: v1\n    kind: Pod\n  archiveWhen: status.phase == 'Done'\n")) 0)⟩

/-- A file that is no list of definitions. -/
def unclosed : Files.Entry := ⟨"é", some (.file (.ok (utf8Bytes "- selector: [")) 0)⟩

/-- A directory with a malformed file, one with a bad condition for each action, one that leads
nowhere, one that is blank and one that is in order. -/
def mixture : List Files.Entry :=
  [unclosed,
    ⟨"web", some (.file (.ok (utf8Bytes
      ("- selector:\n    apiVersion: v1\n    kind: Pod\n" ++
        "  archiveWhen: status.n +\n  deleteWhen: phase == 'Done'\n"))) 0)⟩,
    ⟨"..data", some (.directory [])⟩,
    ⟨"gone", none⟩,
    ⟨"backup", some (.directory [])⟩,
    inForce,
    ⟨"blank", some (.file (.ok (utf8Bytes " \n")) 0)⟩]

theorem accounted_mixture : "/policies" ≠ "" ∧ Sound mixture ∧
    ∃ files l, Considered mixture files ∧ load "/policies" (.ok mixture) = .ok l ∧
      Accounted "/policies" mixture files l ∧
      (∃ p, (rulesFor l.rules .archive).get? ⟨.everywhere, ⟨"", "v1", "Pod"⟩⟩ = some p) ∧
      .malformedFile "/policies/é" ∈ l.errors := by
  have hr : mixture.all (fun file => (definitionsIn file).all fun d =>
      (Predicate.compile d.archiveWhen).isOk && (Predicate.compile d.deleteWhen).isOk) = true := by
    decide +kernel
  have h : Sound mixture :=
    ⟨by decide,
      fun file hf => reads_of_isOk (List.all_eq_true.mp hr file (mem_policyFiles.mp hf).1)⟩
  have hp : "/policies" ≠ "" := by decide
  obtain ⟨files, l, hc, hl, ha⟩ := errors_accounted hp h
  have hf : ∀ file ∈ mixture, isPolicyFile file = true → file ∈ files := fun file hm hi =>
    hc.perm.mem_iff.mpr (List.mem_filter.mpr ⟨hm, hi⟩)
  refine ⟨hp, h, files, l, hc, hl, ha, ?_, ?_⟩
  · have hm : inForce ∈ files := hf inForce (by simp [mixture]) (by decide +kernel)
    have hx : (.everywhere, ⟨"v1", "Pod", "status.phase == 'Done'", ""⟩) ∈ scopedIn inForce := by
      decide +kernel
    obtain ⟨p, hp⟩ := exists_lastGives ⟨_, List.mem_flatMap.mpr ⟨inForce, hm, hx⟩, rfl,
      show predicate? .archive _ ≠ none by decide +kernel⟩
    exact ⟨p, (ha.rules .archive _ p).mpr hp⟩
  · have hm : unclosed ∈ files := hf unclosed (by simp [mixture]) (by decide +kernel)
    have he : .malformedFile "/policies/é" ∈ errorsIn "/policies" unclosed := by decide +kernel
    rw [ha.errors]
    exact List.mem_append_left _ (List.mem_flatMap.mpr ⟨unclosed, hm, he⟩)

end ClusterArchive.Proofs.Policy.Accounting
