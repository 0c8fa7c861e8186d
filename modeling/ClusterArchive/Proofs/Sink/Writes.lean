import ClusterArchive.Proofs.Sink.Accounts
import ClusterArchive.Proofs.Sink.Faithful

/-! # Writes and their events

An archive compares nothing: of several writes under a key, the one that is carried out last makes
the row (`Rows`). As long as no write is given up, the write of an event is carried out while a
worker has the event at hand (`Timely`), and an event that was to be archived has its write in the
log when it is dealt with (`Reasoned`). A step that gives up a write leaves its traces (`GivenUp`),
so all this holds in every state that the sink can reach (`orderly_run`). -/

namespace ClusterArchive.Proofs.Sink.Writes

open ClusterArchive.Sink ClusterArchive.Archive
open ClusterArchive.Proofs.Archive.Rows ClusterArchive.Proofs.Sink.Steps
open ClusterArchive.Proofs.Sink.Archived ClusterArchive.Proofs.Sink.Accounts
open ClusterArchive.Proofs.Sink.Faithful

variable {s t : Pool} {x : Step} {key : String}

/-! ### Writes -/

/-- A step carries out one write, which was given up or is that of a worker, or leaves the archive
as it is. -/
theorem transition_writes (hx : Transition s x t) :
    (t.store = s.store ∧ ∃ entries, t.log = entries ++ s.log ∧ ∀ y ∈ entries, wrote? y = none) ∨
      ∃ u : Upsert, t.store = s.store.write u.call.resource u.call.payload u.time ∧
        t.log = .wrote u.job u.call :: s.log ∧
        (u ∈ s.late ∨ ∃ (i : Nat) (rules : Policy.RuleSet),
          s.workers[i]? = some (Worker.busy u.job (.writing rules u.call) u.time false)) := by
  cases hx with
  | send | take | finish => exact .inl ⟨rfl, [_], rfl, by simp [wrote?]⟩
  | advance => exact .inl ⟨rfl, _, rfl, wrote?_of_mem_ofDeletion⟩
  | @carryOut i job rules call time hw =>
    exact .inr ⟨⟨job, call, time⟩, rfl, rfl, .inr ⟨i, rules, hw⟩⟩
  | @carryOutLate j u hl => exact .inr ⟨u, rfl, rfl, .inl (List.mem_of_getElem? hl)⟩
  | giveUp =>
    rw [giveUp_eq]
    exact .inl ⟨rfl, [], rfl, by simp⟩
  | _ => exact .inl ⟨rfl, [], rfl, by simp⟩

/-- Nothing is taken from the log. -/
theorem log_step (hx : Transition s x t) : ∃ entries, t.log = entries ++ s.log := by
  rcases transition_writes hx with ⟨-, entries, he, -⟩ | ⟨u, -, he, -⟩
  · exact ⟨entries, he⟩
  · exact ⟨[_], he⟩

theorem lastWritten?_append (later earlier : List Entry) :
    lastWritten? key (later ++ earlier) =
      (lastWritten? key later).or (lastWritten? key earlier) := by
  rw [lastWritten?, List.filterMap_append, List.find?_append]
  rfl

theorem lastWritten?_eq_none {entries : List Entry} (h : ∀ y ∈ entries, wrote? y = none) :
    lastWritten? key entries = none := by
  rw [lastWritten?, List.filterMap_eq_nil_iff.mpr h]
  rfl

theorem lastWritten?_singleton (job : Job) (call : WriteCall) :
    lastWritten? key [.wrote job call] =
      if archiveKey call.resource = key then some (job, call) else none := by
  by_cases hk : archiveKey call.resource = key <;> simp [lastWritten?, wrote?, hk]

theorem wrote_of_lastWritten? {log : List Entry} {job : Job} {call : WriteCall}
    (h : lastWritten? key log = some (job, call)) :
    .wrote job call ∈ log ∧ archiveKey call.resource = key := by
  obtain ⟨x, hx, he⟩ := List.mem_filterMap.mp (List.mem_of_find?_eq_some h)
  exact ⟨eq_wrote_of_wrote? he ▸ hx, by simpa using List.find?_some h⟩

theorem exists_lastWritten? {log : List Entry} {job : Job} {call : WriteCall}
    (h : .wrote job call ∈ log) (hk : archiveKey call.resource = key) :
    ∃ job' call', lastWritten? key log = some (job', call') := by
  have hs : (lastWritten? key log).isSome :=
    List.find?_isSome.mpr ⟨(job, call), List.mem_filterMap.mpr ⟨_, h, rfl⟩, by simpa using hk⟩
  obtain ⟨⟨job', call'⟩, he⟩ := Option.isSome_iff_exists.mp hs
  exact ⟨job', call', he⟩

/-- The row of a key is that of the last write under it. -/
def Rows (s : Pool) : Prop :=
  ∀ key job call, lastWritten? key s.log = some (job, call) → ∃ row, s.store.get? key = some row ∧
    row.data = textOf call.payload ∧ row.resourceVersion = call.resource.identity.resourceVersion

theorem rows_step (h : Rows s) (hx : Transition s x t) : Rows t := by
  intro key job call hl
  rcases transition_writes hx with ⟨hs, entries, he, hn⟩ | ⟨u, hs, he, -⟩
  · rw [he, lastWritten?_append, lastWritten?_eq_none hn, Option.none_or] at hl
    rw [hs]
    exact h key job call hl
  · rw [he, ← List.singleton_append, lastWritten?_append, lastWritten?_singleton] at hl
    rw [hs]
    split at hl
    · rename_i hk
      cases hl
      obtain ⟨row, hg, hw⟩ := get?_write s.store u.call.resource u.call.payload u.time
      exact ⟨row, hk ▸ hg, hw.data, hw.resourceVersion⟩
    · rename_i hk
      rw [get?_write_of_ne hk]
      exact h key job call hl

/-! ### Writes given up -/

/-- Whether a write failed or was given up: the worker knows, and then the log. -/
inductive GivenUp (s : Pool) : Prop
  | known {i : Nat} {job : Job} {time : Nat} {b : Bool}
      (h : s.workers[i]? = some (.busy job (.finished .persistFailed) time b))
  | logged {i : Nat} {job : Job} (h : .processed i job .persistFailed ∈ s.log)

/-- An event that is finished waits for no more than to be counted as dealt with. -/
theorem finished_step {j : Nat} {job : Job} {o : Outcome} {time : Nat} {b : Bool}
    (hw : s.workers[j]? = some (.busy job (.finished o) time b)) (hx : Transition s x t) :
    t.workers[j]? = some (.busy job (.finished o) time b) ∨ .processed j job o ∈ t.log := by
  have hset : ∀ {i : Nat} {w w' : Worker}, s.workers[i]? = some w →
      w ≠ .busy job (.finished o) time b →
      (s.workers.set i w')[j]? = some (.busy job (.finished o) time b) := by
    intro i w w' hi hne
    have hij : i ≠ j := by
      rintro rfl
      exact hne (Option.some.inj (hi.symm.trans hw))
    rw [List.getElem?_set_ne hij]
    exact hw
  cases hx with
  | @finish i job' o' time' b' hi =>
    by_cases he : i = j
    · subst he
      cases Option.some.inj (hi.symm.trans hw)
      exact .inr List.mem_cons_self
    · exact .inl ((List.getElem?_set_ne he).trans hw)
  | @advance i job' state time' b' hi hr =>
    refine .inl (hset hi ?_)
    rintro h
    cases h
    cases hr
  | giveUp hi =>
    rw [giveUp_eq]
    exact .inl (hset hi (by simp))
  | take hi | begin_ hi | carryOut hi | succeed hi | fail hi | answerDelete hi | stop hi =>
    exact .inl (hset hi (by simp))
  | send | close | carryOutLate | exchange | setClock => exact .inl hw

theorem givenUp_step (h : GivenUp s) (hx : Transition s x t) : GivenUp t := by
  cases h with
  | known hw => exact (finished_step hw hx).elim .known .logged
  | logged hm =>
    obtain ⟨entries, he⟩ := log_step hx
    exact .logged (he ▸ List.mem_append_right _ hm)

/-- A write becomes late only if it is given up. -/
theorem late_step (hx : Transition s x t) : GivenUp t ∨ t.late ⊆ s.late := by
  cases hx with
  | @giveUp i job rules call time b hw =>
    have hi : i < s.workers.length := (List.getElem?_eq_some_iff.mp hw).1
    rw [giveUp_eq]
    exact .inl (.known (List.getElem?_set_self hi))
  | carryOutLate => exact .inr fun u => List.mem_of_mem_eraseIdx
  | _ => exact .inr fun u hu => hu

/-! ### Events at hand -/

/-- Whether something holds of every entry of a log and those before it. -/
def Each (P : Entry → List Entry → Prop) : List Entry → Prop
  | [] => True
  | x :: earlier => P x earlier ∧ Each P earlier

theorem Each.append {P : Entry → List Entry → Prop} {log : List Entry} (h : Each P log) :
    ∀ {entries : List Entry}, (∀ y ∈ entries, ∀ earlier, P y earlier) → Each P (entries ++ log)
  | [], _ => h
  | y :: _, hp => ⟨hp y List.mem_cons_self _, h.append fun z hz => hp z (List.mem_cons_of_mem y hz)⟩

theorem Each.here {P : Entry → List Entry → Prop} {y : Entry} {earlier : List Entry} :
    ∀ {later : List Entry}, Each P (later ++ y :: earlier) → P y earlier
  | [], h => h.1
  | _ :: _, h => Each.here h.2

/-- Whether a write is that of an event which has been taken and not yet dealt with. -/
structure AtHand (job : Job) (call : WriteCall) (log : List Entry) : Prop where
  call : IsWriteOf job call
  taken : ∃ i, .taken i job ∈ log
  not_processed : ∀ i o, .processed i job o ∉ log

/-- Whether every write of a log was carried out with its event at hand. -/
def Timely : List Entry → Prop :=
  Each fun x earlier => ∀ job call, x = .wrote job call → AtHand job call earlier

theorem Timely.atHand {log later earlier : List Entry} {job : Job} {call : WriteCall}
    (h : Timely log) (hl : log = later ++ .wrote job call :: earlier) :
    AtHand job call earlier := by
  subst hl
  exact Each.here h job call rfl

theorem Timely.of_mem {log : List Entry} (h : Timely log) {job : Job} {call : WriteCall}
    (hm : .wrote job call ∈ log) : IsWriteOf job call ∧ ∃ i, .taken i job ∈ log := by
  obtain ⟨later, earlier, hl⟩ := List.append_of_mem hm
  obtain ⟨i, hi⟩ := (h.atHand hl).taken
  exact ⟨(h.atHand hl).call, i, hl ▸ List.mem_append_right _ (List.mem_cons_of_mem _ hi)⟩

theorem nodup_takenJobs (h : Accounted s) : (takenJobs s.log).Nodup := by
  obtain ⟨gone, -, ht, -⟩ := h.order
  exact ht ▸ nodup_mapIdx_mk gone

/-- An event at hand has not been dealt with. -/
theorem not_processed_of_inHand (h : Accounted s) {i : Nat} {w : Worker} {job : Job}
    (hw : s.workers[i]? = some w) (hj : inHand i w = [(i, job)]) (j : Nat) (o : Outcome) :
    .processed j job o ∉ s.log := by
  intro hm
  have hl : leftTo inHand s.workers = leftTo inHand (s.workers.set i .idle) + {(i, job)} := by
    have hs : leftTo inHand _ + ↑(inHand i w) = _ := leftTo_set hw .idle
    rw [hj] at hs
    exact (add_zero _).symm.trans hs.symm
  have hp : job ∈ (s.log.flatMap processed : Multiset (Nat × Job)).map Prod.snd :=
    List.mem_map.mpr ⟨(j, job), mem_processed.mpr ⟨o, hm⟩, rfl⟩
  have hn : ((s.log.flatMap taken : Multiset (Nat × Job)).map Prod.snd).Nodup :=
    List.nodup_reverse.mp (nodup_takenJobs h)
  -- it would be counted twice among the events taken
  have hc := Multiset.nodup_iff_count_le_one.mp hn job
  have hb : (s.log.flatMap taken : Multiset (Nat × Job)) = _ := h.jobs
  rw [hb, hl, Multiset.map_add, Multiset.map_add, Multiset.map_singleton, Multiset.count_add,
    Multiset.count_add, Multiset.count_singleton_self] at hc
  have := Multiset.count_pos.mpr hp
  omega

theorem timely_step (ha : Accounted s) (hi : Inv s) (h : GivenUp s ∨ (s.late = [] ∧ Timely s.log))
    (hx : Transition s x t) : GivenUp t ∨ (t.late = [] ∧ Timely t.log) := by
  rcases h with h | ⟨hl, ht⟩
  · exact .inl (givenUp_step h hx)
  rcases late_step hx with h | hs
  · exact .inl h
  refine .inr ⟨List.subset_nil.mp (hl ▸ hs), ?_⟩
  rcases transition_writes hx with ⟨-, entries, he, hn⟩ | ⟨u, -, he, hu | ⟨i, rules, hw⟩⟩
  · rw [he]
    refine Each.append ht fun y hy _ job call hw => ?_
    rw [hw] at hy
    cases hn _ hy
  · simp [hl] at hu
  · rw [he]
    obtain ⟨htaken, hcall, -⟩ := hi.sound hw
    refine ⟨fun job call hu => ?_, ht⟩
    cases hu
    exact ⟨hcall, htaken, not_processed_of_inHand ha hw rfl⟩

/-! ### Why processing ended -/

/-- What must be so if the processing of an event ended in a certain way: it was malformed, or it
was written unless it was not to be archived or its write failed. -/
def Because (log : List Entry) (job : Job) : Outcome → Prop
  | .malformed => ∀ r, Resource.decode job.event.contentType job.event.payload ≠ .ok r
  | .skipped | .persistFailed => True
  | .archived | .deleteFailed | .archivedAndDeleted => ∃ call, .wrote job call ∈ log

/-- What must be so for a worker. -/
def BecauseOf (log : List Entry) : Worker → Prop
  | .busy job (.deleting _) _ _ => ∃ call, .wrote job call ∈ log
  | .busy job (.finished o) _ _ => Because log job o
  | _ => True

/-- All processing that has ended has ended for a reason. -/
structure Reasoned (s : Pool) : Prop where
  workers : ∀ w ∈ s.workers, BecauseOf s.log w
  processed : ∀ i job o, .processed i job o ∈ s.log → Because s.log job o

theorem Because.mono {log : List Entry} {job : Job} {o : Outcome} (h : Because log job o)
    (more : List Entry) :
    Because (more ++ log) job o := by
  cases o with
  | malformed => exact h
  | skipped | persistFailed => trivial
  | archived | deleteFailed | archivedAndDeleted =>
    obtain ⟨call, hm⟩ := h
    exact ⟨call, List.mem_append_right _ hm⟩

theorem BecauseOf.mono {log : List Entry} {w : Worker} (h : BecauseOf log w) (more : List Entry) :
    BecauseOf (more ++ log) w := by
  unfold BecauseOf at h ⊢
  split
  · obtain ⟨call, hm⟩ := h
    exact ⟨call, List.mem_append_right _ hm⟩
  · exact Because.mono h more
  · trivial

/-- Entries that are not about the end of processing, and a worker changed or not. -/
theorem Reasoned.move (h : Reasoned s) (entries : List Entry) (hl : t.log = entries ++ s.log)
    (hp : ∀ i job o, .processed i job o ∈ entries → Because t.log job o)
    (hw : ∀ w ∈ t.workers, w ∈ s.workers ∨ BecauseOf t.log w) : Reasoned t where
  workers w hm := by
    rcases hw w hm with hm | hb
    · exact hl ▸ (h.workers w hm).mono entries
    · exact hb
  processed i job o hm := by
    rw [hl] at hm
    rcases List.mem_append.mp hm with hm | hm
    · exact hp i job o hm
    · exact hl ▸ (h.processed i job o hm).mono entries

theorem because_advance {log : List Entry} {job : Job} {state : Processing} {b : Bool}
    (hb : Backed log job b state) (hr : state.isReady = true) (time : Nat) (b' : Bool) :
    BecauseOf log (.busy job state.advance time b') := by
  cases state with
  | received rules e =>
    obtain ⟨rfl, -⟩ := hb
    simp only [Processing.advance]
    split
    · rename_i err hd
      intro r hr
      rw [hd] at hr
      cases hr
    · trivial
  | decoded rules call =>
    simp only [Processing.advance]
    split <;> trivial
  | written rules call =>
    simp only [Processing.advance]
    split <;> exact ⟨call, hb.2⟩
  | _ => cases hr

theorem mem_set {workers : List Worker} {w : Worker} (w₀ : Worker) (i : Nat) {log : List Entry}
    (h : BecauseOf log w₀) (hm : w ∈ workers.set i w₀) : w ∈ workers ∨ BecauseOf log w := by
  rcases List.mem_or_eq_of_mem_set hm with hm | rfl
  · exact .inl hm
  · exact .inr h

theorem reasoned_step (hi : Inv s) (h : Reasoned s) (hx : Transition s x t) : Reasoned t := by
  cases hx with
  | send | carryOutLate => exact h.move [_] rfl (by simp) fun _ => .inl
  | close | exchange | setClock => exact h.move [] rfl (by simp) fun _ => .inl
  | take hw hq => exact h.move [_] rfl (by simp) fun _ => mem_set _ _ trivial
  | begin_ hw => exact h.move [] rfl (by simp) fun _ => mem_set _ _ trivial
  | @advance i job state time b hw hr =>
    obtain ⟨-, hb⟩ := hi.sound hw
    refine h.move _ rfl ?_ fun _ => mem_set _ _ ?_
    · cases state.advance <;> simp [Entry.ofDeletion]
    · exact (because_advance hb hr _ _).mono _
  | carryOut hw => exact h.move [_] rfl (by simp) fun _ => mem_set _ _ trivial
  | succeed hw => exact h.move [] rfl (by simp) fun _ => mem_set _ _ trivial
  | fail hw => exact h.move [] rfl (by simp) fun _ => mem_set _ _ trivial
  | giveUp hw =>
    rw [giveUp_eq]
    exact h.move [] rfl (by simp) fun _ => mem_set _ _ trivial
  | @answerDelete i job call time b a hw =>
    refine h.move [] rfl (by simp) fun _ => mem_set _ _ ?_
    have hb : BecauseOf s.log (.busy job (.deleting call) time b) :=
      h.workers _ (List.mem_of_getElem? hw)
    cases a <;> exact hb
  | @finish i job o time b hw =>
    have hb : BecauseOf s.log (.busy job (.finished o) time b) :=
      h.workers _ (List.mem_of_getElem? hw)
    refine h.move [.processed i job o] rfl ?_ fun _ => mem_set _ _ trivial
    intro j job' o' hm
    cases List.mem_singleton.mp hm
    exact Because.mono hb [_]
  | stop hw => exact h.move [] rfl (by simp) fun _ => mem_set _ _ trivial

/-! ### Runs -/

section Runs

variable {store : Store} {rules : Policy.RuleSet} {workers capacity : Nat}

theorem accounted_opened : Accounted (.opened store rules workers capacity) :=
  @accounted_run store rules workers capacity [] _ rfl

/-- What the sink keeps as far as writes are concerned. -/
structure Orderly (s : Pool) : Prop where
  inv : Inv s
  accounted : Accounted s
  rows : Rows s
  timely : GivenUp s ∨ (s.late = [] ∧ Timely s.log)
  reasoned : Reasoned s

theorem accounted_step (h : Accounted s) (hx : Transition s x t) : Accounted t :=
  ⟨inOrder_step h.order hx, jobs_step h.jobs hx, drains_step h.drains hx⟩

theorem orderly_step (h : Orderly s) (hx : Transition s x t) : Orderly t where
  inv := inv_step h.inv hx
  accounted := accounted_step h.accounted hx
  rows := rows_step h.rows hx
  timely := timely_step h.accounted h.inv h.timely hx
  reasoned := reasoned_step h.inv h.reasoned hx

theorem orderly_run {steps : List Step}
    (h : (Pool.opened store rules workers capacity).run? steps = some s) : Orderly s := by
  refine run_induction (fun _ _ _ => orderly_step) ?_ h
  exact
    { inv := inv_opened store rules workers capacity
      accounted := accounted_opened
      rows := fun _ _ _ hl => by cases hl
      timely := .inr ⟨rfl, trivial⟩
      reasoned :=
        ⟨fun w hw => by rw [List.eq_of_mem_replicate hw]; trivial, fun _ _ _ hm => by cases hm⟩ }

end Runs

end ClusterArchive.Proofs.Sink.Writes
