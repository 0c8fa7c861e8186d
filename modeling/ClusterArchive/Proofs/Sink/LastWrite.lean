import ClusterArchive.Proofs.Sink.Schedules
import ClusterArchive.Proofs.Sink.Writes

/-! # The last write lasts

Events with one key are written in the order in which they were sent if none of them is taken while
another one is at hand (`InTurn`, `not_lt_of_inTurn`), as it always is with one worker
(`inTurn_run`). Where two workers have such events at hand, the earlier event can be written last,
and then it makes the row (`last_write_lasts`, `overtaken_crossed`). -/

namespace ClusterArchive.Proofs.Sink.LastWrite

open ClusterArchive.Sink ClusterArchive.Archive
open ClusterArchive.Proofs.Archive.Rows ClusterArchive.Proofs.Sink.Steps
open ClusterArchive.Proofs.Sink.Archived ClusterArchive.Proofs.Sink.Accounts
open ClusterArchive.Proofs.Sink.Faithful ClusterArchive.Proofs.Sink.Schedules
open ClusterArchive.Proofs.Sink.Writes

variable {s t : Pool} {x : Step} {key : String}

/-! ### One event after another -/

/-- Whether an event is of a resource with the given key. -/
def HasKey (key : String) (event : Envelope) : Prop :=
  ∃ r, Resource.decode event.contentType event.payload = .ok r ∧ archiveKey r = key

/-- Whether no event with a key was taken as long as an earlier one with the key was at hand. -/
def InTurn (key : String) : List Entry → Prop :=
  Each fun x earlier => ∀ i job, x = .taken i job → HasKey key job.event →
    ∀ j job', .taken j job' ∈ earlier → HasKey key job'.event → ∃ o, .processed j job' o ∈ earlier

theorem InTurn.processed {log later earlier : List Entry} {i j : Nat} {job job' : Job}
    (h : InTurn key log) (hl : log = later ++ .taken i job :: earlier) (hk : HasKey key job.event)
    (hm : .taken j job' ∈ earlier) (hk' : HasKey key job'.event) :
    ∃ o, .processed j job' o ∈ earlier := by
  subst hl
  exact Each.here h i job rfl hk j job' hm hk'

/-- An event is taken by a worker that has none at hand. -/
theorem taken_step (hx : Transition s x t) :
    (∃ (i : Nat) (job : Job), s.workers[i]? = some .idle ∧ t.log = .taken i job :: s.log) ∨
      ∃ entries, t.log = entries ++ s.log ∧ ∀ y ∈ entries, ∀ i job, y ≠ .taken i job := by
  cases hx with
  | take hw hq => exact .inl ⟨_, _, hw, rfl⟩
  | send | carryOut | carryOutLate | finish => exact .inr ⟨[_], rfl, by simp⟩
  | @advance i job state => exact .inr ⟨_, rfl, by cases state.advance <;> simp [Entry.ofDeletion]⟩
  | giveUp =>
    rw [giveUp_eq]
    exact .inr ⟨[], rfl, by simp⟩
  | _ => exact .inr ⟨[], rfl, by simp⟩

theorem length_workers_step (hx : Transition s x t) : t.workers.length = s.workers.length := by
  cases hx with
  | giveUp =>
    rw [giveUp_eq]
    exact List.length_set
  | take | begin_ | advance | carryOut | succeed | fail | answerDelete | finish | stop =>
    exact List.length_set
  | _ => rfl

/-- One worker that has no event at hand has dealt with all that it took. -/
theorem processed_of_idle (ha : Accounted s) (hl : s.workers.length = 1) {i : Nat}
    (hw : s.workers[i]? = some .idle) {j : Nat} {job : Job} (hm : .taken j job ∈ s.log) :
    ∃ o, .processed j job o ∈ s.log := by
  obtain ⟨w, hs⟩ := List.length_eq_one_iff.mp hl
  have hi : ∀ k, ∀ w' ∈ s.workers, inHand k w' = [] := by
    have hm := List.mem_of_getElem? hw
    rw [hs, List.mem_singleton] at hm
    rw [hs, ← hm]
    simp [inHand]
  exact mem_processed.mp ((ha.jobs.of_nothing_left hi).mem_iff.mp (mem_taken.mpr hm))

/-- With one worker, events are taken one after another. -/
theorem inTurn_step (ha : Accounted s) (hl : s.workers.length = 1) (h : InTurn key s.log)
    (hx : Transition s x t) : InTurn key t.log := by
  rcases taken_step hx with ⟨i, job, hw, he⟩ | ⟨entries, he, hn⟩
  · rw [he]
    exact ⟨fun _ _ _ _ _ _ hm _ => processed_of_idle ha hl hw hm, h⟩
  · rw [he]
    exact Each.append h fun y hy _ i job ht => absurd ht (hn y hy i job)

theorem inTurn_run {store : Store} {rules : Policy.RuleSet} {workers capacity : Nat}
    {steps : List Step} (hw : workers ≤ 1)
    (h : (Pool.opened store rules workers capacity).run? steps = some s) :
    InTurn key s.log := by
  have h₀ : (Pool.opened store rules workers capacity).workers.length = 1 := by
    simp [Pool.opened, workerCount, hw]
  refine (run_induction (P := fun s => Accounted s ∧ s.workers.length = 1 ∧ InTurn key s.log) ?_
    ⟨accounted_opened, h₀, trivial⟩ h).2.2
  rintro s x t ⟨ha, hl, hi⟩ hx
  exact ⟨accounted_step ha hx, (length_workers_step hx).trans hl, inTurn_step ha hl hi hx⟩

/-! ### The end of a run -/

/-- Whether all writes succeeded in time and all events with a key were to be archived. -/
structure AllArchived (key : String) (log : List Entry) : Prop where
  written : ∀ i job, .processed i job .persistFailed ∉ log
  wanted : ∀ i job, HasKey key job.event → .processed i job .skipped ∉ log

/-- Whether an event is the last with a key among events that were sent. -/
def LastSent (key : String) (events : List Envelope) (job : Job) : Prop :=
  ∃ before after, events = before ++ job.event :: after ∧ job.number = before.length ∧
    HasKey key job.event ∧ ∀ e ∈ after, ¬ HasKey key e

theorem LastSent.hasKey {events : List Envelope} {last : Job} (h : LastSent key events last) :
    HasKey key last.event := by
  obtain ⟨-, -, -, -, hk, -⟩ := h
  exact hk

theorem timely_of_isEnded (h : Orderly s) (he : isEnded s = true) (ha : AllArchived key s.log) :
    Timely s.log := by
  rcases h.timely with hg | ⟨-, ht⟩
  · cases hg with
    | known hw => cases eq_stopped_of_isEnded he _ (List.mem_of_getElem? hw)
    | logged hm => exact absurd hm (ha.written _ _)
  · exact ht

theorem hasKey_iff {job : Job} {call : WriteCall} (h : IsWriteOf job call) :
    HasKey key job.event ↔ archiveKey call.resource = key := by
  constructor
  · rintro ⟨r, hr, hk⟩
    rw [h.1] at hr
    cases hr
    exact hk
  · exact fun hk => ⟨_, h.1, hk⟩

/-- In the end all events with the key have been written. -/
theorem exists_wrote (h : Orderly s) (he : isEnded s = true) (ha : AllArchived key s.log)
    {job : Job} (hm : job ∈ (sent s.log).mapIdx Job.mk) (hk : HasKey key job.event) :
    ∃ call, .wrote job call ∈ s.log := by
  obtain ⟨⟨i, job⟩, hp, rfl⟩ := List.mem_map.mp ((h.accounted.drained he).once.mem_iff.mpr hm)
  obtain ⟨o, ho⟩ := mem_processed.mp hp
  have hb := h.reasoned.processed i job o ho
  cases o with
  | malformed =>
    obtain ⟨r, hr, -⟩ := hk
    exact absurd hr (hb r)
  | skipped => exact absurd ho (ha.wanted i job hk)
  | persistFailed => exact absurd ho (ha.written i job)
  | archived | deleteFailed | archivedAndDeleted => exact hb

theorem mem_takenJobs {log : List Entry} {job : Job} :
    job ∈ takenJobs log ↔ ∃ i, .taken i job ∈ log := by
  rw [takenJobs, List.mem_reverse, List.mem_map]
  constructor
  · rintro ⟨⟨i, job⟩, hm, rfl⟩
    exact ⟨i, mem_taken.mp hm⟩
  · rintro ⟨i, hm⟩
    exact ⟨(i, job), mem_taken.mpr hm, rfl⟩

/-- Events are taken in the order of their numbers. -/
theorem taken_before (h : Accounted s) {later earlier : List Entry} {i j : Nat} {job job' : Job}
    (hl : s.log = later ++ .taken i job :: earlier) (hm : .taken j job' ∈ s.log)
    (hn : job'.number < job.number) : ∃ j, .taken j job' ∈ earlier := by
  have hs : (takenJobs s.log).Pairwise fun a b => a.number < b.number := by
    obtain ⟨gone, -, ht, -⟩ := h.order
    have hr : (gone.mapIdx Job.mk).map Job.number = List.range gone.length :=
      List.ext_getElem (by simp) (by simp)
    rw [ht, ← List.pairwise_map (f := Job.number), hr]
    exact List.pairwise_lt_range
  have hc : takenJobs s.log = takenJobs earlier ++ job :: takenJobs later := by
    rw [hl]
    simp [takenJobs, taken]
  have hj := mem_takenJobs.mpr ⟨j, hm⟩
  rw [hc] at hs hj
  rcases List.mem_append.mp hj with hj | hj
  · exact mem_takenJobs.mp hj
  · rcases List.mem_cons.mp hj with rfl | hj
    · exact absurd hn (Nat.lt_irrefl _)
    · have hlt := (List.pairwise_cons.mp (List.pairwise_append.mp hs).2.1).1 job' hj
      exact absurd hn (Nat.lt_asymm hlt)

/-- Events taken in turn are written in turn. -/
theorem not_lt_of_inTurn (h : Orderly s) (ht : Timely s.log) (hi : InTurn key s.log)
    {last job : Job} {call call' : WriteCall} (hw : .wrote last call ∈ s.log)
    (hk : archiveKey call.resource = key) (hl : lastWritten? key s.log = some (job, call')) :
    ¬ job.number < last.number := by
  intro hn
  -- the event was taken before it was written
  obtain ⟨later, rest, he⟩ := List.append_of_mem hw
  have hat := ht.atHand he
  obtain ⟨i, hti⟩ := hat.taken
  obtain ⟨between, earlier, rfl⟩ := List.append_of_mem hti
  have hs : s.log = (later ++ .wrote last call :: between) ++ .taken i last :: earlier := by
    rw [he, List.append_assoc, List.cons_append]
  -- so the last write under the key came after that, too
  have hm : .wrote last call ∈ later ++ .wrote last call :: between :=
    List.mem_append_right _ List.mem_cons_self
  obtain ⟨job₁, call₁, hl₁⟩ := exists_lastWritten? hm hk
  rw [hs, lastWritten?_append, hl₁, Option.some_or] at hl
  cases hl
  obtain ⟨hw₁, hk₁⟩ := wrote_of_lastWritten? hl₁
  obtain ⟨later₁, between₁, he₁⟩ := List.append_of_mem hw₁
  have hs₁ : s.log = later₁ ++ .wrote job call' :: (between₁ ++ .taken i last :: earlier) := by
    rw [hs, he₁, List.append_assoc, List.cons_append]
  have hat₁ := ht.atHand hs₁
  -- but its event was taken and dealt with before the last one was taken
  obtain ⟨j, htj⟩ := hat₁.taken
  obtain ⟨j, htj⟩ := taken_before h.accounted hs
    (hs₁ ▸ List.mem_append_right _ (List.mem_cons_of_mem _ htj)) hn
  obtain ⟨o, ho⟩ :=
    hi.processed hs ((hasKey_iff hat.call).mpr hk) htj ((hasKey_iff hat₁.call).mpr hk₁)
  exact hat₁.not_processed j o (List.mem_append_right _ (List.mem_cons_of_mem _ ho))

/-- Of the events with the key, the last one has the greatest number. -/
theorem eq_of_lastSent {events : List Envelope} {last job : Job} (hl : LastSent key events last)
    (hm : job ∈ events.mapIdx Job.mk) (hk : HasKey key job.event)
    (hn : ¬ job.number < last.number) :
    job = last := by
  obtain ⟨before, after, rfl, hnum, -, hafter⟩ := hl
  obtain ⟨k, hlt, rfl⟩ := List.mem_mapIdx.mp hm
  simp only [hnum, Nat.not_lt] at hn
  rcases Nat.eq_or_lt_of_le hn with rfl | hgt
  · obtain ⟨number, event⟩ := last
    simp only at hnum
    simp [hnum]
  · obtain ⟨m, rfl⟩ := Nat.exists_eq_add_of_lt hgt
    simp only [Nat.add_assoc, List.getElem_append_right (Nat.le_add_right _ _),
      Nat.add_sub_cancel_left, List.getElem_cons_succ] at hk
    exact absurd hk (hafter _ (List.getElem_mem _))

theorem lastSent_mem {events : List Envelope} {last : Job} (hl : LastSent key events last) :
    last ∈ events.mapIdx Job.mk := by
  obtain ⟨before, after, rfl, hnum, -⟩ := hl
  refine List.mem_mapIdx.mpr ⟨before.length, by simp, ?_⟩
  obtain ⟨number, event⟩ := last
  simp only at hnum
  simp [hnum]

/-- **The last write lasts**: in the end the row of a key is that of an event sent, namely of the
one whose write was carried out last. It is the one sent last if no event with the key was taken as
long as an earlier one was at hand, and so with one worker. -/
theorem last_write_lasts {store : Store} {rules : Policy.RuleSet} {workers capacity : Nat}
    {steps : List Step} (h : (Pool.opened store rules workers capacity).run? steps = some s)
    (he : isEnded s = true) (ha : AllArchived key s.log) {last : Job}
    (hl : LastSent key (sends steps) last) :
    ∃ job call row, lastWritten? key s.log = some (job, call) ∧ job ∈ (sends steps).mapIdx Job.mk ∧
      IsWriteOf job call ∧ s.store.get? key = some row ∧ row.data = textOf job.event.payload ∧
      row.resourceVersion = call.resource.identity.resourceVersion ∧
      (InTurn key s.log ∨ workers ≤ 1 → job = last) := by
  have ho := orderly_run h
  have ht := timely_of_isEnded ho he ha
  have hs : sent s.log = sends steps := sent_run h
  -- the last event has been written, so there is a last write
  obtain ⟨lastCall, hw⟩ := exists_wrote ho he ha (hs ▸ lastSent_mem hl) hl.hasKey
  have hk : archiveKey lastCall.resource = key := (hasKey_iff (ht.of_mem hw).1).mp hl.hasKey
  obtain ⟨job, call, hlast⟩ := exists_lastWritten? hw hk
  obtain ⟨hw', hk'⟩ := wrote_of_lastWritten? hlast
  obtain ⟨hcall, i, hi⟩ := ht.of_mem hw'
  obtain ⟨row, hrow, hdata, hversion⟩ := ho.rows key job call hlast
  have hm : job ∈ (sends steps).mapIdx Job.mk := by
    refine hs ▸ (ho.accounted.taken_perm he).mem_iff.mp ?_
    exact List.mem_map.mpr ⟨(i, job), mem_taken.mpr hi, rfl⟩
  refine ⟨job, call, row, hlast, hm, hcall, hrow, hcall.2 ▸ hdata, hversion, fun hin => ?_⟩
  have hi : InTurn key s.log := hin.elim id fun hworkers => inTurn_run hworkers h
  exact eq_of_lastSent hl hm ((hasKey_iff hcall).mpr hk') (not_lt_of_inTurn ho ht hi hw hk hlast)

/-- How processing ended, for all events that were dealt with. -/
def outcomes (log : List Entry) : List Outcome :=
  log.filterMap fun
    | .processed _ _ o => some o
    | _ => none

theorem allArchived_of_outcomes {log : List Entry}
    (h : ∀ o ∈ outcomes log, o ≠ .persistFailed ∧ o ≠ .skipped) :
    AllArchived key log := by
  have hm : ∀ {i job o}, .processed i job o ∈ log → o ∈ outcomes log := fun {i job o} hm =>
    List.mem_filterMap.mpr ⟨.processed i job o, hm, rfl⟩
  exact ⟨fun i job hp => (h _ (hm hp)).1 rfl, fun i job _ hp => (h _ (hm hp)).2 rfl⟩

/-- The second version of the pod, sent after the first. -/
def second : Job := ⟨1, ⟨"b", none, podText 50⟩⟩

theorem lastSent_second : LastSent "u" [⟨"a", none, podText 49⟩, second.event] second := by
  have hd : (Resource.decode none (podText 50)).toOption.map archiveKey = some "u" := by
    decide +kernel
  obtain ⟨r, hr, hk⟩ := Option.map_eq_some_iff.mp hd
  refine ⟨[⟨"a", none, podText 49⟩], [], rfl, rfl, ⟨r, ?_, hk⟩, by simp⟩
  cases he : Resource.decode none (podText 50) with
  | error e =>
    rw [he] at hr
    cases hr
  | ok r' =>
    rw [he] at hr
    cases hr
    exact he

/-- One worker deals with two versions of a pod. -/
def inTurn : List Step := Pool.stepsInTurn deletePods 1 [⟨"a", none, podText 49⟩, second.event]

theorem lasts_inTurn :
    ∃ s, (Pool.opened [] deletePods 1 1).run? inTurn = some s ∧ isEnded s = true ∧
    AllArchived "u" s.log ∧ LastSent "u" (sends inTurn) second ∧
    ∃ row, s.store.get? "u" = some row ∧ row.data = textOf second.event.payload := by
  have hr :
      (((Pool.opened [] deletePods 1 1).run? inTurn).map fun s => (isEnded s, outcomes s.log)) =
      some (true, [.archivedAndDeleted, .archivedAndDeleted]) := by decide +kernel
  obtain ⟨s, hs, hn⟩ := Option.map_eq_some_iff.mp hr
  obtain ⟨he, ho⟩ := Prod.mk.inj hn
  have ha : AllArchived "u" s.log := allArchived_of_outcomes (by rw [ho]; decide)
  have hl : LastSent "u" (sends inTurn) second := by
    have hsent : sends inTurn = [⟨"a", none, podText 49⟩, second.event] := by decide +kernel
    exact hsent ▸ lastSent_second
  obtain ⟨job, call, row, -, -, -, hrow, hdata, -, hin⟩ := last_write_lasts hs he ha hl
  exact ⟨s, hs, he, ha, hl, row, hrow, hin (.inr (Nat.le_refl 1)) ▸ hdata⟩

/-- Two workers have two versions of a pod at hand, and the first one is written last. -/
theorem overtaken_crossed :
    ∃ s, (Pool.opened [] deletePods 2 1).run? crossed = some s ∧ isEnded s = true ∧
    AllArchived "u" s.log ∧ LastSent "u" (sends crossed) second ∧
    ∃ row, s.store.get? "u" = some row ∧ row.resourceVersion = "1" ∧
      row.data ≠ textOf second.event.payload := by
  have hr : (((Pool.opened [] deletePods 2 1).run? crossed).map fun s =>
      (isEnded s, outcomes s.log,
        (s.store.get? "u").map fun row => (row.resourceVersion, row.data))) =
      some (true, [.archivedAndDeleted, .archivedAndDeleted], some ("1", textOf (podText 49))) := by
    decide +kernel
  obtain ⟨s, hs, hn⟩ := Option.map_eq_some_iff.mp hr
  obtain ⟨he, hn⟩ := Prod.mk.inj hn
  obtain ⟨ho, hrow⟩ := Prod.mk.inj hn
  obtain ⟨row, hrow, hcolumns⟩ := Option.map_eq_some_iff.mp hrow
  obtain ⟨hv, hd⟩ := Prod.mk.inj hcolumns
  have hne : textOf (podText 49) ≠ textOf second.event.payload := by decide +kernel
  have hl : LastSent "u" (sends crossed) second := by
    have hsent : sends crossed = [⟨"a", none, podText 49⟩, second.event] := by decide +kernel
    exact hsent ▸ lastSent_second
  refine ⟨s, hs, he, allArchived_of_outcomes (by rw [ho]; decide), hl, row, hrow, hv, ?_⟩
  rw [hd]
  exact hne

end ClusterArchive.Proofs.Sink.LastWrite
