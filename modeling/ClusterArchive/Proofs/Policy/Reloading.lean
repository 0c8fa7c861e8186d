import ClusterArchive.Policy.Reload

/-! # When reloading converges

A directory may be modified at any time: before it is loaded, before the reloader begins to watch
it, between two looks, between a look that finds a change and the reading that follows, and before
the new rules are in force. `Watch` is the reloader with its directory, and `Happening` is what one
of them does.

A fingerprint and a reading belong together: they are of one directory unless it was modified in
between (`disturbed`). As long as the last two were undisturbed, the rules in force are those of the
directory whose fingerprint was seen (`kept_step`), so a look that finds nothing new finds the right
rules (`reload_converges`). A modification in between is overlooked for as long as the directory
stays as it is (`overlooked_beforeStart`). -/

namespace ClusterArchive.Proofs.Policy.Reloading

open ClusterArchive.Policy

/-! ### A reloader and its directory -/

/-- How far things are: nothing was loaded; rules were loaded, but no one watches the directory; a
reloader watches it; the reloader has read it anew. -/
inductive Stage
  | unopened
  | opened (rules : RuleSet)
  | watching (w : Reloader)
  | reading (w : Reloader) (found : Files.Listing)

/-- Whether the directory was read and its fingerprint is still to be taken, or the other way
round. -/
def Stage.isBetween : Stage → Bool
  | opened _ => true
  | watching w => w.stale
  | unopened | reading .. => false

/-- A directory and its reloader; `disturbed` if the directory was modified between the last reading
and the fingerprint that belongs to it. -/
structure Watch where
  directory : Files.Listing
  stage : Stage
  disturbed : Bool

/-- What may happen: the directory is modified; it is loaded for the first time; a reloader begins
to watch it, looks at it, reads it after a change, puts the new rules in force. -/
inductive Happening
  | modify (found : Files.Listing)
  | open_
  | start
  | look
  | read
  | exchange

namespace Watch

/-- What becomes of a directory and its reloader, if something can happen. -/
def step? (path : String) (s : Watch) : Happening → Option Watch
  | .modify found =>
    some { s with directory := found, disturbed := s.disturbed || s.stage.isBetween }
  | .open_ =>
    match s.stage, load path s.directory with
    | .unopened, .ok l => some { s with stage := .opened l.rules }
    | _, _ => none
  | .start =>
    match s.stage with
    | .opened rules => some { s with stage := .watching (.start rules s.directory) }
    | _ => none
  | .look =>
    match s.stage with
    | .watching w =>
      if w.stale then none
      else
        let w := w.look s.directory
        some { s with stage := .watching w, disturbed := s.disturbed && !w.stale }
    | _ => none
  | .read =>
    match s.stage with
    | .watching w => if w.stale then some { s with stage := .reading w s.directory } else none
    | _ => none
  | .exchange =>
    match s.stage with
    | .reading w found => some { s with stage := .watching (w.rebuild path found) }
    | _ => none

/-- What becomes of them when things happen one after another. -/
def run? (path : String) (s : Watch) : List Happening → Option Watch
  | [] => some s
  | x :: rest => (s.step? path x).bind fun s => s.run? path rest

/-- A directory that no one has loaded. -/
def unopened (directory : Files.Listing) : Watch := ⟨directory, .unopened, false⟩

end Watch

/-- Whether a look finds the fingerprint unchanged. -/
structure Quiet (s : Watch) (w : Reloader) : Prop where
  stage : s.stage = .watching w
  settled : w.stale = false
  unchanged : Fingerprint.ofListing s.directory = w.seen

/-- The reloader, if a look finds the fingerprint unchanged. -/
def Watch.quiet? (s : Watch) : Option Reloader :=
  match s.stage with
  | .watching w =>
    if w.stale = false ∧ Fingerprint.ofListing s.directory = w.seen then some w else none
  | _ => none

theorem quiet_of_quiet? {s : Watch} {w : Reloader} (h : s.quiet? = some w) : Quiet s w := by
  unfold Watch.quiet? at h
  split at h
  · rename_i w' hs
    split at h
    · rename_i hq
      cases h
      exact ⟨hs, hq.1, hq.2⟩
    · cases h
  · cases h

/-- The directories that modifications leave. -/
def modifications (happenings : List Happening) : List Files.Listing :=
  happenings.filterMap fun
    | .modify found => some found
    | _ => none

/-- Whether different directories have different fingerprints. -/
def ToldApart (directories : List Files.Listing) : Prop :=
  ∀ a ∈ directories, ∀ b ∈ directories, Fingerprint.ofListing a = Fingerprint.ofListing b → a = b

/-! ### What can happen -/

/-- A happening `x` that takes things from `s` to another state. -/
inductive Transition (path : String) (s : Watch) : Happening → Watch → Prop
  | modify {found : Files.Listing} : Transition path s (.modify found)
      { s with directory := found, disturbed := s.disturbed || s.stage.isBetween }
  | open_ {l : Loaded} (hs : s.stage = .unopened) (hl : load path s.directory = .ok l) :
    Transition path s .open_ { s with stage := .opened l.rules }
  | start {rules : RuleSet} (hs : s.stage = .opened rules) :
    Transition path s .start { s with stage := .watching (.start rules s.directory) }
  | look {w : Reloader} (hs : s.stage = .watching w) (hw : w.stale = false) :
    Transition path s .look
      { s with stage := .watching (w.look s.directory),
               disturbed := s.disturbed && !(w.look s.directory).stale }
  | read {w : Reloader} (hs : s.stage = .watching w) (hw : w.stale = true) :
    Transition path s .read { s with stage := .reading w s.directory }
  | exchange {w : Reloader} {found : Files.Listing} (hs : s.stage = .reading w found) :
    Transition path s .exchange { s with stage := .watching (w.rebuild path found) }

variable {path : String} {s t : Watch}

/-- Everything that happens is a transition. -/
theorem transition_of_step? {x : Happening} (h : s.step? path x = some t) :
    Transition path s x t := by
  cases x with
  | modify found =>
    cases h
    exact .modify
  | open_ =>
    simp only [Watch.step?] at h
    split at h
    · rename_i l hs hl
      cases h
      exact .open_ hs hl
    · cases h
  | start =>
    simp only [Watch.step?] at h
    split at h
    · rename_i rules hs
      cases h
      exact .start hs
    · cases h
  | look =>
    simp only [Watch.step?] at h
    split at h
    · rename_i w hs
      split at h
      · cases h
      · rename_i hw
        cases h
        exact .look hs (Bool.eq_false_iff.mpr hw)
    · cases h
  | read =>
    simp only [Watch.step?] at h
    split at h
    · rename_i w hs
      split at h
      · rename_i hw
        cases h
        exact .read hs hw
      · cases h
    · cases h
  | exchange =>
    simp only [Watch.step?] at h
    split at h
    · rename_i w found hs
      cases h
      exact .exchange hs
    · cases h

/-! ### What is kept -/

/-- Whether rules are those of a directory, if it can be loaded. -/
def RulesOf (path : String) (found : Files.Listing) (rules : RuleSet) : Prop :=
  ∀ l, load path found = .ok l → rules = l.rules

/-- Whether fingerprint, reading and rules belong together. -/
def Matched (path : String) (directories : List Files.Listing) (directory : Files.Listing) :
    Stage → Prop
  | .unopened => True
  | .opened rules => RulesOf path directory rules
  | .watching w =>
    if w.stale then w.seen = .ofListing directory
    else ∃ found ∈ directories, w.seen = .ofListing found ∧ RulesOf path found w.current
  | .reading w found => w.stale = true ∧ found ∈ directories ∧ w.seen = .ofListing found

variable {directories : List Files.Listing}

/-- What is kept as long as nothing disturbs. -/
structure Kept (path : String) (directories : List Files.Listing) (s : Watch) : Prop where
  known : s.directory ∈ directories
  matched : s.disturbed = false → Matched path directories s.directory s.stage

theorem Kept.modify (h : Kept path directories s) {found : Files.Listing}
    (hf : found ∈ directories) :
    Kept path directories
      { s with directory := found, disturbed := s.disturbed || s.stage.isBetween } where
  known := hf
  matched hd := by
    obtain ⟨hd, hb⟩ := Bool.or_eq_false_iff.mp hd
    have hm := h.matched hd
    -- between fingerprint and reading the directory matters, at other times it does not
    cases hs : s.stage with
    | unopened => trivial
    | opened rules =>
      rw [hs] at hb
      cases hb
    | watching w =>
      rw [hs] at hb hm
      have hw : w.stale = false := hb
      simp only [Matched, hw, Bool.false_eq_true, if_false] at hm ⊢
      exact hm
    | reading w found' =>
      rw [hs] at hm
      exact hm

theorem Matched.look {directory : Files.Listing} {w : Reloader} (hw : w.stale = false)
    (hm : Matched path directories directory (.watching w) ∨ (w.look directory).stale = true) :
    Matched path directories directory (.watching (w.look directory)) := by
  unfold Reloader.look at hm ⊢
  by_cases hn : Fingerprint.ofListing directory = w.seen
  · simpa [hw, hn] using hm
  · simp [hw, hn, Matched]

/-- After a reading the rules are those of what was read; where it halted, there are none that they
could be. -/
theorem rebuild_eq {w : Reloader} (hw : w.stale = true) (found : Files.Listing) :
    ∃ rules, w.rebuild path found = ⟨rules, w.seen, false⟩ ∧ RulesOf path found rules := by
  unfold Reloader.rebuild RulesOf
  cases load path found with
  | ok l =>
    refine ⟨l.rules, by simp [hw], fun l' hl => ?_⟩
    cases hl
    rfl
  | error halt => exact ⟨w.current, by simp [hw], fun l' hl => by cases hl⟩

theorem Matched.exchange (directory : Files.Listing) {found : Files.Listing} {w : Reloader}
    (hm : Matched path directories directory (.reading w found)) :
    Matched path directories directory (.watching (w.rebuild path found)) := by
  obtain ⟨hw, hf, hs⟩ := hm
  obtain ⟨rules, he, hr⟩ := rebuild_eq hw found
  rw [he]
  exact ⟨found, hf, hs, hr⟩

theorem kept_step (h : Kept path directories s) {x : Happening}
    (hm : ∀ found ∈ modifications [x], found ∈ directories) (hx : Transition path s x t) :
    Kept path directories t := by
  cases hx with
  | @modify found => exact h.modify (hm found (by simp [modifications]))
  | @open_ l hs hl =>
    refine ⟨h.known, fun _ l' hl' => ?_⟩
    rw [hl] at hl'
    cases hl'
    rfl
  | @start rules hs =>
    refine ⟨h.known, fun hd => ?_⟩
    have hr := h.matched hd
    rw [hs] at hr
    exact ⟨s.directory, h.known, rfl, hr⟩
  | @look w hs hw =>
    refine ⟨h.known, fun hd => .look hw ?_⟩
    rcases Bool.and_eq_false_iff.mp hd with hd | hd
    · exact .inl (hs ▸ h.matched hd)
    · exact .inr (by simpa using hd)
  | @read w hs hw =>
    refine ⟨h.known, fun hd => ?_⟩
    have hm := h.matched hd
    simp only [hs, Matched, hw, if_true] at hm
    exact ⟨hw, h.known, hm⟩
  | @exchange w found hs => exact ⟨h.known, fun hd => .exchange s.directory (hs ▸ h.matched hd)⟩

theorem kept_run : ∀ {happenings : List Happening} {s t : Watch}, Kept path directories s →
    (∀ found ∈ modifications happenings, found ∈ directories) → s.run? path happenings = some t →
      Kept path directories t
  | [], s, t, h, _, hr => by
    cases hr
    exact h
  | x :: happenings, s, t, h, hm, hr => by
    obtain ⟨s', hx, hr⟩ := Option.bind_eq_some_iff.mp hr
    have hc : modifications (x :: happenings) = modifications [x] ++ modifications happenings :=
      List.filterMap_append (l := [x])
    rw [hc] at hm
    obtain ⟨hm, hm'⟩ := List.forall_mem_append.mp hm
    exact kept_run (kept_step h hm (transition_of_step? hx)) hm' hr

/-! ### Quiet looks -/

/-- **Reloading converges**: where a look finds the fingerprint unchanged, the rules in force are
those that the directory gives as it then stands, if it gives any, unless it was modified between
the last reading and the fingerprint that belongs to it. -/
theorem reload_converges {found : Files.Listing} {happenings : List Happening} {w : Reloader}
    (h : (Watch.unopened found).run? path happenings = some s)
    (ha : ToldApart (found :: modifications happenings)) (hq : Quiet s w)
    (hd : s.disturbed = false) :
    (∃ l, load path s.directory = .ok l ∧ w.current = l.rules) ∨
      load path s.directory = .error .badLiteral := by
  have h₀ : Kept path (found :: modifications happenings) (.unopened found) :=
    ⟨List.mem_cons_self, fun _ => trivial⟩
  have hk := kept_run h₀ (fun _ hm => List.mem_cons_of_mem _ hm) h
  have hm := hk.matched hd
  rw [hq.stage] at hm
  simp only [Matched, hq.settled, Bool.false_eq_true, if_false] at hm
  obtain ⟨found', hf, hs, hr⟩ := hm
  -- the fingerprint seen is that of one directory only, which is the one that stands
  obtain rfl := ha _ hk.known _ hf (hq.unchanged.trans hs)
  cases hl : load path s.directory with
  | ok l => exact .inl ⟨l, rfl, hr l hl⟩
  | error halt => exact .inr rfl

/-! ### A modification that is overlooked -/

/-- A directory with one policy file. -/
def withFile (name contents : String) : Files.Listing :=
  .ok [⟨name, some (.file (.ok (utf8Bytes contents)) 0)⟩]

/-- Pods are kept. -/
def keepPods : Files.Listing :=
  withFile "_global" "- selector:\n    apiVersion: v1\n    kind: Pod\n  archiveWhen: 'true'\n"

/-- Nothing is said. -/
def saysNothing : Files.Listing := withFile "_global" "[]"

theorem toldApart_keepPods : ToldApart [saysNothing, keepPods] := by
  have hne : Fingerprint.ofListing saysNothing ≠ Fingerprint.ofListing keepPods := by decide +kernel
  intro a ha b hb hab
  simp only [List.mem_cons, List.not_mem_nil, or_false] at ha hb
  rcases ha with rfl | rfl <;> rcases hb with rfl | rfl
  · rfl
  · exact absurd hab hne
  · exact absurd hab.symm hne
  · rfl

/-- The directory is modified while a reloader watches it. -/
def modifiedAfterStart : List Happening :=
  [.open_, .start, .modify keepPods, .look, .read, .exchange]

theorem converged_afterStart :
    ∃ s w, (Watch.unopened saysNothing).run? "/policies" modifiedAfterStart = some s ∧
    ToldApart (saysNothing :: modifications modifiedAfterStart) ∧ Quiet s w ∧ s.disturbed = false ∧
    w.current.archive.length = 1 ∧
    ((∃ l, load "/policies" s.directory = .ok l ∧ w.current = l.rules) ∨
      load "/policies" s.directory = .error .badLiteral) := by
  have hr : (((Watch.unopened saysNothing).run? "/policies" modifiedAfterStart).bind fun s =>
      s.quiet?.map fun w => (s.disturbed, w.current.archive.length)) = some (false, 1) := by
    decide +kernel
  obtain ⟨s, hs, hr⟩ := Option.bind_eq_some_iff.mp hr
  obtain ⟨w, hw, hn⟩ := Option.map_eq_some_iff.mp hr
  obtain ⟨hd, hl⟩ := Prod.mk.inj hn
  have hq := quiet_of_quiet? hw
  exact ⟨s, w, hs, toldApart_keepPods, hq, hd, hl, reload_converges hs toldApart_keepPods hq hd⟩

/-- The directory is modified after it was loaded and before a reloader watches it. -/
def modifiedBeforeStart : List Happening := [.open_, .modify keepPods, .start, .look]

/-- A look finds the fingerprint unchanged, but the rules in force are not those of the
directory. -/
theorem overlooked_beforeStart : ∃ s w l,
    (Watch.unopened saysNothing).run? "/policies" modifiedBeforeStart = some s ∧
      ToldApart (saysNothing :: modifications modifiedBeforeStart) ∧ Quiet s w ∧
      load "/policies" s.directory = .ok l ∧ w.current ≠ l.rules := by
  have hr : (((Watch.unopened saysNothing).run? "/policies" modifiedBeforeStart).bind fun s =>
      s.quiet?.bind fun w => (load "/policies" s.directory).toOption.map fun l =>
        (w.current.archive.length, l.rules.archive.length)) = some (0, 1) := by
    decide +kernel
  obtain ⟨s, hs, hr⟩ := Option.bind_eq_some_iff.mp hr
  obtain ⟨w, hw, hr⟩ := Option.bind_eq_some_iff.mp hr
  obtain ⟨l, hl, hn⟩ := Option.map_eq_some_iff.mp hr
  obtain ⟨hw₀, hl₁⟩ := Prod.mk.inj hn
  have hload : load "/policies" s.directory = .ok l := by
    cases he : load "/policies" s.directory with
    | error halt =>
      rw [he] at hl
      cases hl
    | ok l' =>
      rw [he] at hl
      cases hl
      rfl
  refine ⟨s, w, l, hs, toldApart_keepPods, quiet_of_quiet? hw, hload, fun hc => ?_⟩
  rw [hc, hl₁] at hw₀
  cases hw₀

end ClusterArchive.Proofs.Policy.Reloading
