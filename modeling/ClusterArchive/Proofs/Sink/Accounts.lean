import ClusterArchive.Proofs.Sink.Steps
import Mathlib.Algebra.BigOperators.Group.List.Basic
import Mathlib.Algebra.Order.Group.Multiset
import Mathlib.Data.List.Nodup

/-! # Every event is dealt with exactly once

The sink keeps account of what it does. `Balanced` is a law of conservation between the log and the
workers: what is due for the events that were taken was made, or is left to the worker with the
event at hand. One worker moves at a time, so a step keeps the law if it keeps it for that worker
(`Balanced.move`). `InOrder` says that events are taken in the order in which they were sent, under
consecutive numbers, and `Drains` that no worker stops before the queue is closed and empty.

When all workers have stopped, nothing is left to anyone, and every event was taken and dealt with
by one worker (`Accounted.drained`). -/

namespace ClusterArchive.Proofs.Sink.Accounts

open ClusterArchive.Sink ClusterArchive.Proofs.Sink.Steps

/-! ### Conservation -/

/-- Exchanging one part of a sum exchanges what it contributes. -/
theorem sum_set {M : Type} [AddCommMonoid M] {a₀ : M} (a : M) : ∀ {parts : List M} {i : Nat},
    parts[i]? = some a₀ → (parts.set i a).sum + a₀ = parts.sum + a
  | [], _, h => by simp at h
  | b :: parts, 0, h => by
    cases h
    rw [List.set_cons_zero, List.sum_cons, List.sum_cons, add_right_comm, add_comm a,
      add_right_comm]
  | b :: parts, i + 1, h => by
    have hi : parts[i]? = some a₀ := h
    rw [List.set_cons_succ, List.sum_cons, List.sum_cons, add_assoc, sum_set a hi, add_assoc]

section Balance

variable {α : Type}

/-- What is left to workers altogether. -/
def leftTo (left : Nat → Worker → List α) (workers : List Worker) : Multiset α :=
  (workers.mapIdx fun i w => (↑(left i w) : Multiset α)).sum

/-- What is due for the events of a log was made, or is left to the workers. -/
def Balanced (due made : Entry → List α) (left : Nat → Worker → List α) (log : List Entry)
    (workers : List Worker) : Prop :=
  (↑(log.flatMap due) : Multiset α) = ↑(log.flatMap made) + leftTo left workers

theorem leftTo_eq_zero {left : Nat → Worker → List α} {workers : List Worker}
    (h : ∀ i, ∀ w ∈ workers, left i w = []) : leftTo left workers = 0 := by
  refine List.sum_eq_zero fun l hl => ?_
  obtain ⟨i, hi, rfl⟩ := List.mem_mapIdx.mp hl
  rw [h i _ (List.getElem_mem hi), Multiset.coe_nil]

theorem leftTo_set {left : Nat → Worker → List α} {workers : List Worker} {i : Nat} {w₀ : Worker}
    (hw : workers[i]? = some w₀) (w : Worker) :
    leftTo left (workers.set i w) + ↑(left i w₀) = leftTo left workers + ↑(left i w) := by
  unfold leftTo
  rw [List.mapIdx_set]
  refine sum_set _ ?_
  rw [List.getElem?_mapIdx, hw, Option.map_some]

variable {due made : Entry → List α} {left : Nat → Worker → List α} {log : List Entry}
    {workers : List Worker}

theorem Balanced.of_nothing_left (h : Balanced due made left log workers)
    (hl : ∀ i, ∀ w ∈ workers, left i w = []) : (log.flatMap due).Perm (log.flatMap made) := by
  unfold Balanced at h
  rw [leftTo_eq_zero hl, add_zero] at h
  exact Multiset.coe_eq_coe.mp h

/-- Entries that are as much due as made. -/
theorem Balanced.record (h : Balanced due made left log workers) (entries : List Entry)
    (he : entries.flatMap due = entries.flatMap made) :
    Balanced due made left (entries ++ log) workers := by
  unfold Balanced at h ⊢
  rw [List.flatMap_append, List.flatMap_append, ← Multiset.coe_add, ← Multiset.coe_add, h,
    he, add_assoc]

/-- The move of one worker: what is due with it and what was left before is made or left
afterwards. -/
theorem Balanced.move (h : Balanced due made left log workers) {i : Nat} {w₀ : Worker}
    (hw : workers[i]? = some w₀) (entries : List Entry) {w : Worker}
    (he : entries.flatMap due ++ left i w₀ = entries.flatMap made ++ left i w) :
    Balanced due made left (entries ++ log) (workers.set i w) := by
  unfold Balanced at h ⊢
  refine add_right_cancel (b := (↑(left i w₀) : Multiset α)) ?_
  calc (↑((entries ++ log).flatMap due) : Multiset α) + ↑(left i w₀)
      = ↑(log.flatMap due) + ↑(entries.flatMap due ++ left i w₀) := by
        rw [List.flatMap_append, ← Multiset.coe_add, ← Multiset.coe_add,
          add_comm (↑(entries.flatMap due) : Multiset α), add_assoc]
    _ = ↑(log.flatMap made) + leftTo left workers + ↑(entries.flatMap made ++ left i w) := by
        rw [h, he]
    _ = ↑((entries ++ log).flatMap made) + (leftTo left workers + ↑(left i w)) := by
        rw [List.flatMap_append, ← Multiset.coe_add, ← Multiset.coe_add, add_add_add_comm,
          add_comm (↑(log.flatMap made) : Multiset α)]
    _ = ↑((entries ++ log).flatMap made) + leftTo left (workers.set i w) + ↑(left i w₀) := by
        rw [← leftTo_set hw, add_assoc]

end Balance

/-! ### Events taken and dealt with -/

/-- The events that were sent, in order. -/
def sent (log : List Entry) : List Envelope :=
  (log.filterMap fun
    | .sent event => some event
    | _ => none).reverse

theorem sent_append (entries log : List Entry) :
    sent (entries ++ log) = sent log ++ sent entries := by
  simp [sent]

/-- The event that an entry says was taken, and by which worker. -/
def taken : Entry → List (Nat × Job)
  | .taken i job => [(i, job)]
  | _ => []

/-- The event that an entry says was dealt with, and by which worker. -/
def processed : Entry → List (Nat × Job)
  | .processed i job _ => [(i, job)]
  | _ => []

/-- The event that a worker has at hand. -/
def inHand (i : Nat) : Worker → List (Nat × Job)
  | .holding job => [(i, job)]
  | .busy job _ _ _ => [(i, job)]
  | .idle | .stopped => []

/-- The events that were taken, in order. -/
def takenJobs (log : List Entry) : List Job := ((log.flatMap taken).map Prod.snd).reverse

/-- The events that were dealt with, the latest first. -/
def processedJobs (log : List Entry) : List Job := (log.flatMap processed).map Prod.snd

theorem mem_taken {log : List Entry} {i : Nat} {job : Job} :
    (i, job) ∈ log.flatMap taken ↔ .taken i job ∈ log := by
  refine List.mem_flatMap.trans ⟨fun ⟨x, hx, h⟩ => ?_, fun h => ⟨_, h, List.mem_cons_self⟩⟩
  cases x with
  | taken _ _ =>
    cases List.mem_singleton.mp h
    exact hx
  | _ => cases h

theorem mem_processed {log : List Entry} {i : Nat} {job : Job} :
    (i, job) ∈ log.flatMap processed ↔ ∃ o, .processed i job o ∈ log := by
  refine List.mem_flatMap.trans ⟨fun ⟨x, hx, h⟩ => ?_, fun ⟨o, h⟩ => ⟨_, h, List.mem_cons_self⟩⟩
  cases x with
  | processed _ _ o =>
    cases List.mem_singleton.mp h
    exact ⟨o, hx⟩
  | _ => cases h

/-- Of the events that were sent, those that no longer wait were taken, in order and under
consecutive numbers. -/
def InOrder (log : List Entry) (waiting : List Envelope) (count : Nat) : Prop :=
  ∃ gone, sent log = gone ++ waiting ∧ takenJobs log = gone.mapIdx Job.mk ∧ count = gone.length

section InOrder

variable {log : List Entry} {waiting : List Envelope} {count : Nat}

theorem InOrder.send (h : InOrder log waiting count) (event : Envelope) :
    InOrder (.sent event :: log) (waiting ++ [event]) count := by
  obtain ⟨gone, hs, ht, hn⟩ := h
  refine ⟨gone, ?_, ht, hn⟩
  rw [← List.append_assoc, ← hs]
  simp [sent]

theorem InOrder.take {event : Envelope} (h : InOrder log (event :: waiting) count) (i : Nat) :
    InOrder (.taken i ⟨count, event⟩ :: log) waiting (count + 1) := by
  obtain ⟨gone, hs, ht, rfl⟩ := h
  refine ⟨gone ++ [event], ?_, ?_, by simp⟩
  · rw [List.append_assoc]
    exact hs
  · rw [List.mapIdx_concat, ← ht]
    simp [takenJobs, taken]

/-- Entries about writes, deletions and the end of processing. -/
theorem InOrder.record (h : InOrder log waiting count) (entries : List Entry)
    (hs : sent entries = []) (ht : entries.flatMap taken = []) :
    InOrder (entries ++ log) waiting count := by
  obtain ⟨gone, hg, hj, hn⟩ := h
  refine ⟨gone, ?_, ?_, hn⟩
  · rw [sent_append, hs, List.append_nil, hg]
  · rw [← hj, takenJobs, List.flatMap_append, ht]
    rfl

end InOrder

/-- No worker stops before the queue is closed and empty, and there is a worker. -/
structure Drains (queue : Queue) (workers : List Worker) : Prop where
  empty : .stopped ∈ workers → queue.closed = true ∧ queue.waiting = []
  workers : workers ≠ []

theorem Drains.set {queue : Queue} {workers : List Worker} (h : Drains queue workers) {w : Worker}
    (hw : w ≠ .stopped) (i : Nat) : Drains queue (workers.set i w) where
  empty hm := by
    rcases List.mem_or_eq_of_mem_set hm with hm | he
    · exact h.empty hm
    · exact absurd he.symm hw
  workers := by simpa using h.workers

/-! ### Steps and runs -/

/-- A deletion is no matter of events sent, taken or dealt with. -/
theorem accounts_ofDeletion (job : Job) (state : Processing) :
    sent (Entry.ofDeletion job state) = [] ∧ (Entry.ofDeletion job state).flatMap taken = [] ∧
      (Entry.ofDeletion job state).flatMap processed = [] := by
  cases state <;> exact ⟨rfl, rfl, rfl⟩

theorem inOrder_step {s t : Pool} {x : Step} (h : InOrder s.log s.queue.waiting s.taken)
    (hx : Transition s x t) : InOrder t.log t.queue.waiting t.taken := by
  cases hx with
  | send _ _ => exact h.send _
  | @take i event rest hw hq =>
    rw [hq] at h
    exact h.take i
  | @advance i job state time b hw hr =>
    obtain ⟨hs, ht, -⟩ := accounts_ofDeletion job state.advance
    exact h.record _ hs ht
  | @carryOut i job rules call time hw => exact h.record [.wrote job call] rfl rfl
  | @carryOutLate j u hl => exact h.record [.wrote u.job u.call] rfl rfl
  | giveUp hw =>
    rw [giveUp_eq]
    exact h
  | @finish i job o time b hw => exact h.record [.processed i job o] rfl rfl
  | close | begin_ | succeed | fail | answerDelete | stop | exchange | setClock => exact h

theorem jobs_step {s t : Pool} {x : Step} (h : Balanced taken processed inHand s.log s.workers)
    (hx : Transition s x t) : Balanced taken processed inHand t.log t.workers := by
  cases hx with
  | @send event hroom hopen => exact h.record [.sent event] rfl
  | @take i event rest hw hq => exact h.move hw [.taken i ⟨s.taken, event⟩] rfl
  | begin_ hw => exact h.move hw [] rfl
  | @advance i job state time b hw hr =>
    obtain ⟨-, ht, hp⟩ := accounts_ofDeletion job state.advance
    refine h.move hw (Entry.ofDeletion job state.advance) ?_
    rw [ht, hp]
    rfl
  | @carryOut i job rules call time hw => exact h.move hw [.wrote job call] rfl
  | @carryOutLate j u hl => exact h.record [.wrote u.job u.call] rfl
  | succeed hw => exact h.move hw [] rfl
  | fail hw => exact h.move hw [] rfl
  | giveUp hw =>
    rw [giveUp_eq]
    exact h.move hw [] rfl
  | answerDelete hw => exact h.move hw [] rfl
  | @finish i job o time b hw => exact h.move hw [.processed i job o] rfl
  | stop hw _ _ => exact h.move hw [] rfl
  | close | exchange | setClock => exact h

theorem drains_step {s t : Pool} {x : Step} (h : Drains s.queue s.workers) (hx : Transition s x t) :
    Drains t.queue t.workers := by
  cases hx with
  | send hroom hopen => exact ⟨fun hm => absurd (h.empty hm).1 (by simp [hopen]), h.workers⟩
  | close => exact ⟨fun hm => ⟨rfl, (h.empty hm).2⟩, h.workers⟩
  | @take i event rest hw hq =>
    have hn : .stopped ∉ s.workers := fun hm => by simpa [hq] using (h.empty hm).2
    have ht : Drains ⟨rest, s.queue.closed⟩ s.workers := ⟨fun hm => absurd hm hn, h.workers⟩
    exact ht.set (by simp) i
  | giveUp hw =>
    rw [giveUp_eq]
    exact h.set (by simp) _
  | stop hw hclosed hempty =>
    exact ⟨fun _ => ⟨hclosed, hempty⟩, by simpa [Pool.withWorker] using h.workers⟩
  | begin_ | advance | carryOut | succeed | fail | answerDelete | finish => exact h.set (by simp) _
  | carryOutLate | exchange | setClock => exact h

/-- What the sink keeps account of. -/
structure Accounted (s : Pool) : Prop where
  order : InOrder s.log s.queue.waiting s.taken
  jobs : Balanced taken processed inHand s.log s.workers
  drains : Drains s.queue s.workers

theorem balanced_opened {α : Type} {due made : Entry → List α} {left : Nat → Worker → List α}
    (hl : ∀ i, left i .idle = []) (n : Nat) :
    Balanced due made left [] (List.replicate n .idle) := by
  unfold Balanced
  rw [leftTo_eq_zero fun i w hw => List.eq_of_mem_replicate hw ▸ hl i]
  rfl

theorem accounted_run {store : Archive.Store} {rules : Policy.RuleSet} {workers capacity : Nat}
    {steps : List Step} {s : Pool}
    (h : (Pool.opened store rules workers capacity).run? steps = some s) :
    Accounted s := by
  have hn : List.replicate (workerCount workers) Worker.idle ≠ [] := by
    simp [workerCount, List.replicate_eq_nil_iff]
  have h₀ : Accounted (.opened store rules workers capacity) :=
    { order := ⟨[], rfl, rfl, rfl⟩
      jobs := balanced_opened (fun _ => rfl) _
      drains := ⟨fun hm => absurd (List.eq_of_mem_replicate hm) (by simp), hn⟩ }
  exact run_induction (fun _ _ _ hs hx =>
    ⟨inOrder_step hs.order hx, jobs_step hs.jobs hx, drains_step hs.drains hx⟩) h₀ h

/-- The events that steps send. -/
def sends (steps : List Step) : List Envelope :=
  steps.filterMap fun
    | .send event => some event
    | _ => none

theorem sent_step {s t : Pool} {x : Step} (hx : Transition s x t) :
    sent t.log = sent s.log ++ sends [x] := by
  cases hx with
  | @send event hroom hopen => exact sent_append [.sent event] s.log
  | @advance i job state time b hw hr =>
    obtain ⟨hs, -⟩ := accounts_ofDeletion job state.advance
    exact (sent_append _ _).trans (congrArg _ hs)
  | giveUp hw =>
    rw [giveUp_eq]
    exact (List.append_nil _).symm
  | _ => exact (List.append_nil _).symm

theorem sent_run : ∀ {steps : List Step} {s t : Pool}, s.run? steps = some t →
    sent t.log = sent s.log ++ sends steps
  | [], s, t, h => by
    cases h
    exact (List.append_nil _).symm
  | x :: steps, s, t, h => by
    obtain ⟨s', hx, h⟩ := Option.bind_eq_some_iff.mp h
    rw [sent_run h, sent_step (transition_of_step? hx), List.append_assoc]
    exact congrArg _ (List.filterMap_append (l := [x])).symm

/-! ### The end of a run -/

/-- Whether a worker has stopped. -/
def isStopped : Worker → Bool
  | .stopped => true
  | _ => false

/-- Whether the queue is closed and all workers have stopped. -/
def isEnded (s : Pool) : Bool := s.queue.closed && s.workers.all isStopped

/-- What has become of the events when all workers have stopped: none of them waits, every one was
dealt with once, and the one worker that took it is the one that dealt with it. -/
structure Drained (events : List Envelope) (s : Pool) : Prop where
  empty : s.queue.waiting = []
  once : (processedJobs s.log).Perm (events.mapIdx Job.mk)
  one_worker : ∀ k event, events[k]? = some event →
    ∃ i, (∀ j, .taken j ⟨k, event⟩ ∈ s.log ↔ j = i) ∧
    ∀ j, (∃ o, .processed j ⟨k, event⟩ o ∈ s.log) ↔ j = i

theorem nodup_mapIdx_mk (events : List Envelope) : (events.mapIdx Job.mk).Nodup := by
  have hn : (events.mapIdx Job.mk).map Job.number = List.range events.length :=
    List.ext_getElem (by simp) (by simp)
  exact List.Nodup.of_map _ (hn ▸ List.nodup_range)

theorem eq_stopped_of_isEnded {s : Pool} (h : isEnded s = true) :
    ∀ w ∈ s.workers, w = .stopped := by
  intro w hw
  simp only [isEnded, Bool.and_eq_true, List.all_eq_true] at h
  cases w with
  | stopped => rfl
  | _ => cases h.2 _ hw

/-- There is a worker, and it has stopped because the queue was empty. -/
theorem Accounted.empty {s : Pool} (h : Accounted s) (he : isEnded s = true) :
    s.queue.waiting = [] := by
  obtain ⟨w, hw⟩ := List.exists_mem_of_ne_nil _ h.drains.workers
  exact (h.drains.empty (eq_stopped_of_isEnded he w hw ▸ hw)).2

/-- All events that were sent were taken. -/
theorem Accounted.taken_perm {s : Pool} (h : Accounted s) (he : isEnded s = true) :
    ((s.log.flatMap taken).map Prod.snd).Perm ((sent s.log).mapIdx Job.mk) := by
  obtain ⟨gone, hs, ht, -⟩ := h.order
  rw [h.empty he, List.append_nil] at hs
  rw [hs]
  exact ht ▸ (List.reverse_perm _).symm

theorem Accounted.drained {s : Pool} (h : Accounted s) (he : isEnded s = true) :
    Drained (sent s.log) s := by
  have hj := h.taken_perm he
  have hp : (s.log.flatMap taken).Perm (s.log.flatMap processed) :=
    h.jobs.of_nothing_left fun i w hw => by rw [eq_stopped_of_isEnded he w hw]; rfl
  refine ⟨h.empty he, (hp.map _).symm.trans hj, fun k event hk => ?_⟩
  have hm : (⟨k, event⟩ : Job) ∈ (s.log.flatMap taken).map Prod.snd := by
    refine hj.mem_iff.mpr (List.mem_mapIdx.mpr ?_)
    obtain ⟨hlt, he⟩ := List.getElem?_eq_some_iff.mp hk
    exact ⟨k, hlt, he ▸ rfl⟩
  obtain ⟨⟨i, job⟩, hi, rfl⟩ := List.mem_map.mp hm
  -- different workers take different events
  have hu : ∀ j, (j, (⟨k, event⟩ : Job)) ∈ s.log.flatMap taken ↔ j = i := by
    refine fun j => ⟨fun hj' => ?_, fun hji => hji ▸ hi⟩
    have hd := List.inj_on_of_nodup_map (hj.nodup_iff.mpr (nodup_mapIdx_mk _)) hj' hi rfl
    exact (Prod.mk.inj hd).1
  refine ⟨i, fun j => mem_taken.symm.trans (hu j), fun j => ?_⟩
  exact mem_processed.symm.trans (hp.mem_iff.symm.trans (hu j))

end ClusterArchive.Proofs.Sink.Accounts
