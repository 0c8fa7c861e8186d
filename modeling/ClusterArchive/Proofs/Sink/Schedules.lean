import ClusterArchive.Proofs.Sink.Accounts
import ClusterArchive.Proofs.Sink.Archived

/-! # The schedule does not matter

As long as the rules stay and every call is answered with success, what is due for an event are the
calls of processing it at a stretch. `ahead` are the calls that are still ahead of a state of
processing: what processing does next is either to come to a state with the same calls ahead, or to
make the first of them (`ahead_advance`). So calls due, calls made and calls ahead are balanced as
events are (`settled_step`), and when all workers have stopped, the calls made are those of
processing the events in turn, in some order (`schedule_irrelevant`). -/

namespace ClusterArchive.Proofs.Sink.Schedules

open ClusterArchive.Sink ClusterArchive.Archive
open ClusterArchive.Proofs.Sink.Steps ClusterArchive.Proofs.Sink.Archived
open ClusterArchive.Proofs.Sink.Accounts

/-! ### Calls due, made and ahead -/

/-- The calls of a trace. -/
def calls (t : Trace) : List Contact := t.write.toList.map .write ++ t.delete.toList.map .delete

/-- The calls of processing an event under rules, all answered with success. -/
def callsOf (rules : Policy.RuleSet) (event : Envelope) : List Contact :=
  calls (process rules event .success .success)

/-- The calls that are due for an event once it is taken. -/
def due (rules : Policy.RuleSet) : Entry → List Contact
  | .taken _ job => callsOf rules job.event
  | _ => []

/-- The call that an entry says was made. -/
def made : Entry → List Contact
  | .wrote _ call => [.write call]
  | .deleted _ call => [.delete call]
  | _ => []

/-- The deletion that follows a write. -/
def deletionAfter (rules : Policy.RuleSet) (call : WriteCall) : List Contact :=
  if rules.mustDelete (some call.resource) then [.delete (.of call.resource)] else []

/-- The calls ahead of a state of processing, given whether its write was carried out. -/
def ahead (carriedOut : Bool) : Processing → List Contact
  | .received rules event => callsOf rules event
  | .decoded rules call =>
    if rules.mustArchive (some call.resource) then .write call :: deletionAfter rules call else []
  | .writing rules call => (if carriedOut then [] else [.write call]) ++ deletionAfter rules call
  | .written rules call => deletionAfter rules call
  | .deleting _ | .finished _ => []

/-- The calls that are left to a worker. -/
def left (rules : Policy.RuleSet) (_ : Nat) : Worker → List Contact
  | .holding job => callsOf rules job.event
  | .busy _ state _ carriedOut => ahead carriedOut state
  | .idle | .stopped => []

theorem callsOf_of_error {rules : Policy.RuleSet} {event : Envelope} {err : DecodeError}
    (h : Resource.decode event.contentType event.payload = .error err) :
    callsOf rules event = [] := by
  simp [callsOf, calls, process, h]

theorem callsOf_of_ok {rules : Policy.RuleSet} {event : Envelope} {r : Resource}
    (h : Resource.decode event.contentType event.payload = .ok r) (b : Bool) :
    callsOf rules event = ahead b (.decoded rules ⟨r, event.payload⟩) := by
  simp only [callsOf, calls, process, h, ahead, deletionAfter]
  split
  · split <;> rfl
  · rfl

/-- Going on makes the first of the calls ahead, or none. -/
theorem ahead_advance (job : Job) {b : Bool} {state : Processing} (hr : state.isReady = true)
    (hb : ∀ rules call, state = .decoded rules call → b = false) :
    ahead b state = (Entry.ofDeletion job state.advance).flatMap made ++ ahead b state.advance := by
  cases state with
  | received rules event =>
    simp only [Processing.advance]
    split
    · rename_i err hd
      exact callsOf_of_error hd
    · rename_i r hd
      exact callsOf_of_ok hd b
  | decoded rules call =>
    rw [hb rules call rfl]
    simp only [Processing.advance, ahead]
    split <;> rfl
  | written rules call =>
    simp only [Processing.advance, ahead, deletionAfter]
    split <;> rfl
  | _ => cases hr

/-! ### Steps and runs -/

/-- A step that leaves the rules as they are, or answers a call with success, or does neither. -/
def Calm (rules : Policy.RuleSet) : Step → Prop
  | .exchange rules' => rules' = rules
  | .answer _ a => a = .success
  | _ => True

/-- The calls are balanced, the rules are as they were, and no write was given up. -/
structure Settled (rules : Policy.RuleSet) (s : Pool) : Prop where
  calls : Balanced (due rules) made (left rules) s.log s.workers
  rules : s.rules = rules
  late : s.late = []

theorem settled_step {rules : Policy.RuleSet} {s t : Pool} {x : Step} (hi : Inv s)
    (h : Settled rules s) (hc : Calm rules x) (hx : Transition s x t) : Settled rules t := by
  obtain ⟨hb, hr, hl⟩ := h
  cases hx with
  | @send event hroom hopen => exact ⟨hb.record [.sent event] rfl, hr, hl⟩
  | close => exact ⟨hb, hr, hl⟩
  | @take i event rest hw hq =>
    refine ⟨hb.move hw [.taken i ⟨s.taken, event⟩] ?_, hr, hl⟩
    rw [List.flatMap_singleton, List.flatMap_singleton]
    exact List.append_nil _
  | @begin_ i job hw => exact ⟨hb.move hw [] (hr ▸ rfl), hr, hl⟩
  | @advance i job state time b hw hready =>
    obtain ⟨-, hbacked⟩ := hi.sound hw
    have hf : ∀ rules call, state = .decoded rules call → b = false := by
      rintro rules call rfl
      exact hbacked.2
    have hd : (Entry.ofDeletion job state.advance).flatMap (due rules) = [] := by
      cases state.advance <;> rfl
    refine ⟨hb.move hw (Entry.ofDeletion job state.advance) ?_, hr, hl⟩
    rw [hd]
    exact ahead_advance job hready hf
  | @carryOut i job rules' call time hw => exact ⟨hb.move hw [.wrote job call] rfl, hr, hl⟩
  | @carryOutLate j u hu => simp [hl] at hu
  | succeed hw => exact ⟨hb.move hw [] rfl, hr, hl⟩
  | fail hw => cases hc
  | giveUp hw => cases hc
  | answerDelete hw => exact ⟨hb.move hw [] rfl, hr, hl⟩
  | @finish i job o time b hw => exact ⟨hb.move hw [.processed i job o] rfl, hr, hl⟩
  | stop hw _ _ => exact ⟨hb.move hw [] rfl, hr, hl⟩
  | exchange => exact ⟨hb, hc, hl⟩
  | setClock => exact ⟨hb, hr, hl⟩

theorem settled_run {store : Store} {rules : Policy.RuleSet} {workers capacity : Nat}
    {steps : List Step} {s : Pool} (hc : ∀ x ∈ steps, Calm rules x)
    (h : (Pool.opened store rules workers capacity).run? steps = some s) : Settled rules s := by
  have h₀ : Settled rules (.opened store rules workers capacity) :=
    ⟨balanced_opened (fun _ => rfl) _, rfl, rfl⟩
  exact (run_induction_of (P := fun s => Inv s ∧ Settled rules s)
    (fun _ _ _ hs hc hx => ⟨inv_step hs.1 hx, settled_step hs.1 hs.2 hc hx⟩) hc
    ⟨inv_opened store rules workers capacity, h₀⟩ h).2

/-! ### The end of a run -/

/-- The write that is made with a call. -/
def write? : Contact → Option WriteCall
  | .write call => some call
  | _ => none

/-- The deletion that is made with a call. -/
def delete? : Contact → Option DeleteCall
  | .delete call => some call
  | _ => none

/-- Calls of one kind, gathered from lists that have at most one of them each. -/
theorem filterMap_flatMap_of {α β : Type} {f : α → List Contact} {kind : Contact → Option β}
    {g : α → Option β} (h : ∀ a, (f a).filterMap kind = (g a).toList) (l : List α) :
    (l.flatMap f).filterMap kind = l.filterMap g := by
  rw [List.filterMap_flatMap, List.filterMap_eq_flatMap_toList]
  exact congrArg (l.flatMap ·) (funext h)

theorem writes_eq (s : Pool) : s.writes = (s.log.flatMap made).filterMap write? :=
  (filterMap_flatMap_of (fun x => by cases x <;> rfl) s.log).symm

theorem deletes_eq (s : Pool) : s.deletes = (s.log.flatMap made).filterMap delete? :=
  (filterMap_flatMap_of (fun x => by cases x <;> rfl) s.log).symm

theorem filterMap_write_calls (t : Trace) : (calls t).filterMap write? = t.write.toList := by
  obtain ⟨w, d, o⟩ := t
  cases w <;> cases d <;> rfl

theorem filterMap_delete_calls (t : Trace) : (calls t).filterMap delete? = t.delete.toList := by
  obtain ⟨w, d, o⟩ := t
  cases w <;> cases d <;> rfl

variable {rules : Policy.RuleSet}

/-- The calls due for the events taken. -/
theorem flatMap_due (log : List Entry) :
    log.flatMap (due rules) = ((log.flatMap taken).map Prod.snd).flatMap fun job =>
      callsOf rules job.event := by
  rw [List.flatMap_map, List.flatMap_assoc]
  refine congrArg (log.flatMap ·) (funext fun x => ?_)
  cases x with
  | taken _ _ => exact (List.flatMap_singleton _ _).symm
  | _ => rfl

theorem map_event_mapIdx (events : List Envelope) : (events.mapIdx Job.mk).map Job.event = events :=
  List.ext_getElem (by simp) (by simp)

/-- The calls made are those due for the events sent. -/
theorem Settled.calls_perm {s : Pool} (h : Settled rules s) (ha : Accounted s)
    (he : isEnded s = true) :
    (s.log.flatMap made).Perm ((sent s.log).flatMap (callsOf rules)) := by
  have hstop := eq_stopped_of_isEnded he
  have hp : (s.log.flatMap (due rules)).Perm (s.log.flatMap made) :=
    h.calls.of_nothing_left fun i w hw => by rw [hstop w hw]; rfl
  have hj : ((s.log.flatMap taken).map Prod.snd).Perm ((sent s.log).mapIdx Job.mk) :=
    ha.taken_perm he
  refine hp.symm.trans ?_
  rw [flatMap_due]
  refine (hj.flatMap_right _).trans (List.Perm.of_eq ?_)
  conv_rhs => rw [← map_event_mapIdx (sent s.log), List.flatMap_map]

/-- A write with the key that it is made under. -/
def keyed (call : WriteCall) : String × Resource × Bytes :=
  (archiveKey call.resource, call.resource, call.payload)

/-- Whether the writes and the deletions are those of processing events in turn, in some order. -/
structure AsInTurn (rules : Policy.RuleSet) (events : List Envelope) (s : Pool) : Prop where
  writes : (s.writes.map keyed).Perm
    ((events.filterMap fun e => (process rules e .success .success).write).map keyed)
  deletes : s.deletes.Perm (events.filterMap fun e => (process rules e .success .success).delete)

/-- **The schedule does not matter**: when the queue is closed and all workers have stopped, every
event that was sent has been dealt with once, by the one worker that took it; and if meanwhile the
rules stayed and all calls were answered with success, then writes and deletions are those of
processing the events in the order in which they were sent. -/
theorem schedule_irrelevant {store : Store} {workers capacity : Nat} {steps : List Step} {s : Pool}
    (h : (Pool.opened store rules workers capacity).run? steps = some s) (he : isEnded s = true) :
    Drained (sends steps) s ∧ ((∀ x ∈ steps, Calm rules x) → AsInTurn rules (sends steps) s) := by
  have ha := accounted_run h
  have hs : sent s.log = sends steps := sent_run h
  rw [← hs]
  refine ⟨ha.drained he, fun hc => ?_⟩
  have hp := (settled_run hc h).calls_perm ha he
  constructor
  · rw [writes_eq, ← filterMap_flatMap_of (fun e => filterMap_write_calls _)]
    exact (hp.filterMap _).map _
  · rw [deletes_eq, ← filterMap_flatMap_of (fun e => filterMap_delete_calls _)]
    exact hp.filterMap _

/-- Two workers deal with two versions of a pod, which the second one writes and deletes before the
first one has begun; the queue is closed in between. -/
def crossed : List Step :=
  [.send ⟨"a", none, podText 49⟩, .take 0, .send ⟨"b", none, podText 50⟩, .take 1, .begin_ 1,
    .advance 1, .advance 1, .carryOut 1, .answer 1 .success, .advance 1, .close, .begin_ 0,
    .answer 1 .success, .advance 0, .finish 1, .stop 1, .advance 0, .carryOut 0, .answer 0 .success,
    .advance 0, .answer 0 .success, .finish 0, .stop 0]

theorem schedule_irrelevant_crossed : ∃ s, (Pool.opened [] deletePods 2 1).run? crossed = some s ∧
    isEnded s = true ∧ (∀ x ∈ crossed, Calm deletePods x) ∧ s.deletes.length = 2 ∧
    Drained (sends crossed) s ∧ AsInTurn deletePods (sends crossed) s := by
  have hr :
      (((Pool.opened [] deletePods 2 1).run? crossed).map fun s => (isEnded s, s.deletes.length)) =
      some (true, 2) := by decide +kernel
  obtain ⟨s, hs, hn⟩ := Option.map_eq_some_iff.mp hr
  obtain ⟨he, hl⟩ := Prod.mk.inj hn
  have hc : ∀ x ∈ crossed, Calm deletePods x := by simp [crossed, Calm]
  obtain ⟨hd, ht⟩ := schedule_irrelevant hs he
  exact ⟨s, hs, he, hc, hl, hd, ht hc⟩

end ClusterArchive.Proofs.Sink.Schedules
