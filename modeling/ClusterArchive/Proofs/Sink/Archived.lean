import ClusterArchive.Proofs.Archive.Rows
import ClusterArchive.Proofs.Sink.Steps

/-! # Nothing is deleted that is not archived

The invariant `Inv` of the sink has three parts. Every worker that holds an event has taken it, and
once its write was answered with success the log has the write (`Sound`). Every deletion in the log
has the write of the same event before it (`Preceded`). And the row of a key has the text of the
write that the log holds last for that key (`Inv.rows`), whoever made it and however late. Rows are
only added to, so what was archived when an event was deleted from the cluster is archived for good
(`deleted_only_when_archived`). -/

namespace ClusterArchive.Proofs.Sink.Archived

open ClusterArchive.Sink ClusterArchive.Archive
open ClusterArchive.Proofs.Archive.Rows ClusterArchive.Proofs.Sink.Steps

/-! ### The last write under a key -/

/-- The write that an entry is, if it is one under the given key. -/
def writeUnder? (key : String) : Entry → Option WriteCall
  | .wrote _ call => if archiveKey call.resource = key then some call else none
  | _ => none

/-- The last write under a key. -/
def latestWrite? (key : String) (log : List Entry) : Option WriteCall :=
  log.findSome? (writeUnder? key)

theorem writeUnder?_eq_some {key : String} {x : Entry} {call : WriteCall}
    (h : writeUnder? key x = some call) :
    ∃ job, x = .wrote job call ∧ archiveKey call.resource = key := by
  cases x with
  | wrote job call' =>
    simp only [writeUnder?] at h
    split at h
    · rename_i hk
      cases h
      exact ⟨job, rfl, hk⟩
    · cases h
  | _ => simp [writeUnder?] at h

/-- Behind a write, the last one under its key is this write or a later one. -/
theorem latestWrite?_of_wrote (job : Job) (call : WriteCall) (later earlier : List Entry) :
    ∃ call',
      latestWrite? (archiveKey call.resource) (later ++ .wrote job call :: earlier) = some call' ∧
      (call' = call ∨ ∃ job', .wrote job' call' ∈ later ∧
        archiveKey call'.resource = archiveKey call.resource) := by
  unfold latestWrite?
  rw [List.findSome?_append, List.findSome?_cons]
  cases hl : later.findSome? (writeUnder? (archiveKey call.resource)) with
  | none => exact ⟨call, by simp [writeUnder?], Or.inl rfl⟩
  | some call' =>
    obtain ⟨x, hx, hw⟩ := List.exists_of_findSome?_eq_some hl
    obtain ⟨job', rfl, hk⟩ := writeUnder?_eq_some hw
    exact ⟨call', rfl, Or.inr ⟨job', hx, hk⟩⟩

/-! ### The invariant -/

/-- The write of an event: its resource with its payload. -/
def IsWriteOf (job : Job) (call : WriteCall) : Prop :=
  Resource.decode job.event.contentType job.event.payload = .ok call.resource ∧
    call.payload = job.event.payload

/-- What the log must hold when processing of an event stands at a state. -/
def Backed (log : List Entry) (job : Job) (carriedOut : Bool) : Processing → Prop
  | .received _ e => e = job.event ∧ carriedOut = false
  | .decoded _ call => IsWriteOf job call ∧ carriedOut = false
  | .writing _ call => IsWriteOf job call ∧ (carriedOut = true → .wrote job call ∈ log)
  | .written _ call => IsWriteOf job call ∧ .wrote job call ∈ log
  | .deleting _ | .finished _ => True

/-- What the log must hold for a worker: that the event at hand was taken, and what its state
needs. -/
def Sound (log : List Entry) : Worker → Prop
  | .holding job => ∃ i, .taken i job ∈ log
  | .busy job state _ carriedOut => (∃ i, .taken i job ∈ log) ∧ Backed log job carriedOut state
  | .idle | .stopped => True

/-- What must have happened before a deletion: the event was taken, and its resource, which is the
one deleted, was written with its payload. -/
def Cause (job : Job) (call : DeleteCall) (earlier : List Entry) : Prop :=
  (∃ i, .taken i job ∈ earlier) ∧
    ∃ r, Resource.decode job.event.contentType job.event.payload = .ok r ∧ call = .of r ∧
      .wrote job ⟨r, job.event.payload⟩ ∈ earlier

/-- Whether every deletion of a log has its cause before it. -/
def Preceded : List Entry → Prop
  | [] => True
  | .deleted job call :: earlier => Cause job call earlier ∧ Preceded earlier
  | _ :: earlier => Preceded earlier

/-- The number under which an entry says that an event was taken. -/
def number? : Entry → Option Nat
  | .taken _ job => some job.number
  | _ => none

/-- The invariant. -/
structure Inv (s : Pool) : Prop where
  workers : ∀ w ∈ s.workers, Sound s.log w
  preceded : Preceded s.log
  rows : ∀ key call, latestWrite? key s.log = some call →
    ∃ row, s.store.get? key = some row ∧ row.data = textOf call.payload
  numbers : (s.log.filterMap number?).Nodup ∧ ∀ n ∈ s.log.filterMap number?, n < s.taken

theorem cause_of_preceded {job : Job} {call : DeleteCall} {earlier : List Entry} :
    ∀ (later : List Entry), Preceded (later ++ .deleted job call :: earlier) →
      Cause job call earlier
  | [], h => h.1
  | x :: later, h => by
    refine cause_of_preceded later ?_
    cases x with
    | deleted _ _ => exact h.2
    | _ => exact h

/-- What the log backs, a longer log backs too. -/
theorem Backed.mono {log more : List Entry} {job : Job} {b : Bool} {state : Processing}
    (h : Backed log job b state) : Backed (more ++ log) job b state := by
  cases state with
  | received rules e => exact h
  | decoded rules call => exact h
  | writing rules call => exact ⟨h.1, fun hb => List.mem_append_right _ (h.2 hb)⟩
  | written rules call => exact ⟨h.1, List.mem_append_right _ h.2⟩
  | deleting call => trivial
  | finished o => trivial

theorem Sound.mono {log more : List Entry} {w : Worker} (h : Sound log w) :
    Sound (more ++ log) w := by
  cases w with
  | idle => trivial
  | holding job =>
    obtain ⟨i, hi⟩ := h
    exact ⟨i, List.mem_append_right _ hi⟩
  | busy job state time b =>
    obtain ⟨⟨i, hi⟩, hb⟩ := h
    exact ⟨⟨i, List.mem_append_right _ hi⟩, hb.mono⟩
  | stopped => trivial

/-! ### What the parts of a step keep -/

variable {s : Pool}

theorem Inv.sound (h : Inv s) {i : Nat} {w : Worker} (hw : s.workers[i]? = some w) :
    Sound s.log w :=
  h.workers w (List.mem_of_getElem? hw)

/-- The invariant is about workers, log, archive and the number of events taken. -/
theorem Inv.congr {t : Pool} (h : Inv s) (hw : t.workers = s.workers) (hl : t.log = s.log)
    (hs : t.store = s.store) (hn : t.taken = s.taken) : Inv t where
  workers := by rw [hw, hl]; exact h.workers
  preceded := by rw [hl]; exact h.preceded
  rows := by rw [hl, hs]; exact h.rows
  numbers := by rw [hl, hn]; exact h.numbers

theorem log_giveUp (s : Pool) (b : Bool) (u : Upsert) : (s.giveUp b u).log = s.log := by
  unfold Pool.giveUp
  split <;> rfl

theorem store_giveUp (s : Pool) (b : Bool) (u : Upsert) : (s.giveUp b u).store = s.store := by
  unfold Pool.giveUp
  split <;> rfl

theorem Inv.giveUp (h : Inv s) (b : Bool) (u : Upsert) : Inv (s.giveUp b u) := by
  unfold Pool.giveUp
  split
  · exact h
  · exact h.congr rfl rfl rfl rfl

theorem Inv.withWorker (h : Inv s) {w : Worker} (hw : Sound s.log w) (i : Nat) :
    Inv (s.withWorker i w) where
  workers w' hw' := by
    rcases List.mem_or_eq_of_mem_set hw' with hm | rfl
    · exact h.workers w' hm
    · exact hw
  preceded := h.preceded
  rows := h.rows
  numbers := h.numbers

/-- An entry that is neither a write nor a deletion nor the taking of an event changes nothing. -/
theorem Inv.record (h : Inv s) {x : Entry} (hp : ∀ log, Preceded log → Preceded (x :: log))
    (hw : ∀ key, writeUnder? key x = none) (hn : number? x = none) : Inv (s.record [x]) where
  workers w hm := (h.workers w hm).mono
  preceded := hp _ h.preceded
  rows key call hl := by
    simp only [Pool.record, List.cons_append, List.nil_append, latestWrite?, List.findSome?_cons,
      hw key] at hl
    exact h.rows key call hl
  numbers := by
    have he : (s.record [x]).log.filterMap number? = s.log.filterMap number? :=
      List.filterMap_cons_none hn
    rw [he]
    exact h.numbers

theorem Inv.deleted (h : Inv s) {job : Job} {call : DeleteCall} (hc : Cause job call s.log) :
    Inv (s.record [.deleted job call]) where
  workers w hm := (h.workers w hm).mono
  preceded := ⟨hc, h.preceded⟩
  rows := h.rows
  numbers := h.numbers

theorem Inv.commit (h : Inv s) (u : Upsert) : Inv (s.commit u) where
  workers w hm := (h.workers w hm).mono
  preceded := h.preceded
  rows key call hl := by
    by_cases hk : archiveKey u.call.resource = key
    · subst hk
      obtain ⟨row, hg, hw⟩ := get?_write s.store u.call.resource u.call.payload u.time
      refine ⟨row, hg, ?_⟩
      have hc : u.call = call := by
        simpa [Pool.commit, Pool.record, latestWrite?, writeUnder?] using hl
      rw [hw.data, hc]
    · have hl' : latestWrite? key s.log = some call := by
        simpa [Pool.commit, Pool.record, latestWrite?, writeUnder?, hk] using hl
      obtain ⟨row, hg, hd⟩ := h.rows key call hl'
      refine ⟨row, ?_, hd⟩
      exact (get?_write_of_ne hk).trans hg
  numbers := h.numbers

theorem Inv.take (h : Inv s) (i : Nat) (event : Envelope) (queue : Queue) :
    Inv ({ s with queue, taken := s.taken + 1 }.record [.taken i ⟨s.taken, event⟩]) where
  workers w hm := (h.workers w hm).mono
  preceded := h.preceded
  rows := h.rows
  numbers := by
    obtain ⟨hd, hlt⟩ := h.numbers
    refine ⟨List.nodup_cons.mpr ⟨fun hm => Nat.lt_irrefl _ (hlt _ hm), hd⟩, fun n hn => ?_⟩
    rcases List.mem_cons.mp hn with rfl | hn
    · exact Nat.lt_succ_self _
    · exact Nat.lt_succ_of_lt (hlt n hn)

/-- Processing that goes on by itself stays backed, and a deletion that it comes to has its
cause. -/
theorem Inv.advance (h : Inv s) {job : Job} {state : Processing} {b : Bool}
    (ht : ∃ i, .taken i job ∈ s.log) (hb : Backed s.log job b state) (hr : state.isReady = true) :
    Inv (s.record (Entry.ofDeletion job state.advance)) ∧
      Backed (s.record (Entry.ofDeletion job state.advance)).log job b state.advance := by
  cases state with
  | received rules e =>
    obtain ⟨rfl, hf⟩ := hb
    simp only [Processing.advance]
    split
    · exact ⟨h, trivial⟩
    · rename_i r hd
      exact ⟨h, ⟨hd, rfl⟩, hf⟩
  | decoded rules call =>
    obtain ⟨hw, hf⟩ := hb
    simp only [Processing.advance]
    split
    · exact ⟨h, hw, fun ht => absurd (hf.symm.trans ht) (by decide)⟩
    · exact ⟨h, trivial⟩
  | written rules call =>
    obtain ⟨⟨hd, hp⟩, hm⟩ := hb
    simp only [Processing.advance]
    split
    · refine ⟨h.deleted ⟨ht, call.resource, hd, rfl, ?_⟩, trivial⟩
      rw [← hp]
      exact hm
    · exact ⟨h, trivial⟩
  | writing rules call => cases hr
  | deleting call => cases hr
  | finished o => cases hr

/-! ### Steps and runs -/

theorem inv_step {s t : Pool} {x : Step} (h : Inv s) (hx : Transition s x t) : Inv t := by
  cases hx with
  | @send event hroom hopen =>
    have hq : Inv { s with queue := ⟨s.queue.waiting ++ [event], s.queue.closed⟩ } :=
      h.congr rfl rfl rfl rfl
    exact hq.record (fun _ hp => hp) (fun _ => rfl) rfl
  | close => exact h.congr rfl rfl rfl rfl
  | @take i event rest hw hq =>
    refine (h.take i event ⟨rest, s.queue.closed⟩).withWorker ?_ i
    exact Exists.intro i List.mem_cons_self
  | @begin_ i job hw =>
    refine h.withWorker ?_ i
    exact And.intro (h.sound hw) ⟨rfl, rfl⟩
  | @advance i job state time b hw hr =>
    obtain ⟨⟨j, ht⟩, hb⟩ := h.sound hw
    obtain ⟨hi, hb⟩ := h.advance ⟨j, ht⟩ hb hr
    refine hi.withWorker ?_ i
    exact And.intro ⟨j, List.mem_append_right _ ht⟩ hb
  | @carryOut i job rules call time hw =>
    obtain ⟨⟨j, ht⟩, hb, -⟩ := h.sound hw
    refine (h.commit ⟨job, call, time⟩).withWorker ?_ i
    exact And.intro ⟨j, List.mem_cons_of_mem _ ht⟩ ⟨hb, fun _ => List.mem_cons_self⟩
  | @carryOutLate j u hl =>
    have hi : Inv { s with late := s.late.eraseIdx j } := h.congr rfl rfl rfl rfl
    exact hi.commit u
  | @succeed i job rules call time hw =>
    obtain ⟨ht, hb, hm⟩ := h.sound hw
    refine h.withWorker ?_ i
    exact And.intro ht ⟨hb, hm rfl⟩
  | @fail i job rules call time hw =>
    refine h.withWorker ?_ i
    exact And.intro (h.sound hw).1 trivial
  | @giveUp i job rules call time b hw =>
    refine Inv.withWorker (h.giveUp b ⟨job, call, time⟩) ?_ i
    rw [log_giveUp]
    exact And.intro (h.sound hw).1 trivial
  | @answerDelete i job call time b a hw =>
    refine h.withWorker ?_ i
    exact And.intro (h.sound hw).1 trivial
  | @finish i job o time b hw =>
    have hr := h.record (x := .processed i job o) (fun _ hp => hp) (fun _ => rfl) rfl
    exact hr.withWorker (w := .idle) trivial i
  | @stop i hw hclosed hempty => exact h.withWorker (w := .stopped) trivial i
  | exchange => exact h.congr rfl rfl rfl rfl
  | setClock => exact h.congr rfl rfl rfl rfl

theorem inv_opened (store : Store) (rules : Policy.RuleSet) (workers capacity : Nat) :
    Inv (.opened store rules workers capacity) where
  workers w hw := by
    rw [List.eq_of_mem_replicate hw]
    trivial
  preceded := trivial
  rows key call h := by cases h
  numbers := ⟨List.nodup_nil, fun n hn => by cases hn⟩

/-- No step takes a row away. -/
theorem keys_step {s t : Pool} {x : Step} (hx : Transition s x t) :
    keys s.store ⊆ keys t.store ∧ s.store.count ≤ t.store.count := by
  cases hx with
  | carryOut hw => exact ⟨keys_subset_write, count_le_write⟩
  | carryOutLate hl => exact ⟨keys_subset_write, count_le_write⟩
  | @giveUp i job rules call time b hw =>
    have hs := store_giveUp s b ⟨job, call, time⟩
    exact ⟨fun _ hk => hs ▸ hk, Nat.le_of_eq (congrArg Store.count hs.symm)⟩
  | _ => exact ⟨fun _ hk => hk, Nat.le_refl _⟩

theorem inv_run {store : Store} {rules : Policy.RuleSet} {workers capacity : Nat}
    {steps : List Step} {s : Pool}
    (h : (Pool.opened store rules workers capacity).run? steps = some s) : Inv s :=
  run_induction (fun _ _ _ => inv_step) (inv_opened store rules workers capacity) h

/-- What holds of the archive and the deletions sent so far: events are taken under different
numbers; every deletion is that of a resource whose event was taken and whose write was carried out
before, and the archive has a row under its key, with the text of that write or of a later one under
the same key; and no step takes a row away. -/
structure ArchivedFirst (s : Pool) : Prop where
  numbers : (s.log.filterMap number?).Nodup
  row_of_deleted : ∀ later job call earlier, s.log = later ++ .deleted job call :: earlier →
    ∃ r i between before,
      .taken i job ∈ earlier ∧
      Resource.decode job.event.contentType job.event.payload = .ok r ∧ call = .of r ∧
      earlier = between ++ .wrote job ⟨r, job.event.payload⟩ :: before ∧
      ∃ row ∈ s.store, row.key = archiveKey r ∧ s.store.get? (archiveKey r) = some row ∧
        (row.data = textOf job.event.payload ∨
          ∃ job' call', .wrote job' call' ∈ later ++ .deleted job call :: between ∧
            archiveKey call'.resource = archiveKey r ∧ row.data = textOf call'.payload)
  keys_step : ∀ x t, s.step? x = some t →
    keys s.store ⊆ keys t.store ∧ s.store.count ≤ t.store.count

theorem Inv.archivedFirst (h : Inv s) : ArchivedFirst s where
  numbers := h.numbers.1
  row_of_deleted later job call earlier hl := by
    obtain ⟨⟨i, ht⟩, r, hd, hc, hw⟩ := cause_of_preceded later (hl ▸ h.preceded)
    obtain ⟨between, before, rfl⟩ := List.append_of_mem hw
    refine ⟨r, i, between, before, ht, hd, hc, rfl, ?_⟩
    -- the last write under the key in the whole log decides the row: this one or a later one
    obtain ⟨call', hlast, hor⟩ := latestWrite?_of_wrote job ⟨r, job.event.payload⟩
      (later ++ .deleted job call :: between) before
    have hs : s.log = (later ++ .deleted job call :: between) ++
        .wrote job ⟨r, job.event.payload⟩ :: before := by
      rw [hl, List.append_assoc, List.cons_append]
    rw [← hs] at hlast
    obtain ⟨row, hg, hdata⟩ := h.rows _ _ hlast
    refine ⟨row, mem_of_get? hg, key_of_get? hg, hg, ?_⟩
    rcases hor with rfl | ⟨job', hm, hk⟩
    · exact Or.inl hdata
    · exact Or.inr ⟨job', call', hm, hk, hdata⟩
  keys_step _ _ hx := keys_step (transition_of_step? hx)

/-- **Nothing is deleted that is not archived**, in any state that the sink can reach and whatever
archive it began with. -/
theorem deleted_only_when_archived {store : Store} {rules : Policy.RuleSet} {workers capacity : Nat}
    {steps : List Step} {s : Pool}
    (h : (Pool.opened store rules workers capacity).run? steps = some s) :
    ArchivedFirst s :=
  (inv_run h).archivedFirst

/-- The text `{"apiVersion":"v1","kind":"Pod","metadata":{"name":"p","uid":"u","resourceVersion":"`
followed by a digit and `"}}`. -/
def podText (digit : UInt8) : Bytes :=
    [123, 34, 97, 112, 105, 86, 101, 114, 115, 105, 111, 110, 34, 58, 34, 118, 49, 34, 44, 34, 107,
      105, 110, 100, 34, 58, 34, 80, 111, 100, 34, 44, 34, 109, 101, 116, 97, 100, 97, 116, 97, 34,
      58, 123, 34, 110, 97, 109, 101, 34, 58, 34, 112, 34, 44, 34, 117, 105, 100, 34, 58, 34, 117,
      34, 44, 34, 114, 101, 115, 111, 117, 114, 99, 101, 86, 101, 114, 115, 105, 111, 110, 34, 58,
      34] ++ [digit, 34, 125, 125]

/-- Deletes all pods. -/
def deletePods : Policy.RuleSet :=
  ⟨[], [(⟨.everywhere, ⟨"", "v1", "Pod"⟩⟩, ⟨"true", .literal (.bool true)⟩)]⟩

/-- Two versions of a pod are taken by two workers. The write of the first is given up, the second
is written and deleted although no rule asks for it any more, and then the first write is carried
out. -/
def lateWrite : List Step :=
  [.send ⟨"a", none, podText 49⟩, .send ⟨"b", none, podText 50⟩, .take 0, .begin_ 0, .advance 0,
    .advance 0, .answer 0 .timeout, .take 1, .begin_ 1, .exchange .empty, .advance 1, .advance 1,
    .carryOut 1, .answer 1 .success, .advance 1, .carryOutLate 0]

theorem archivedFirst_lateWrite : ∃ s, (Pool.opened [] deletePods 2 2).run? lateWrite = some s ∧
    s.deletes.length = 1 ∧ s.writes.length = 2 ∧ ArchivedFirst s := by
  have he : (((Pool.opened [] deletePods 2 2).run? lateWrite).map fun s =>
      (s.deletes.length, s.writes.length)) = some (1, 2) := by decide +kernel
  obtain ⟨s, hs, hn⟩ := Option.map_eq_some_iff.mp he
  simp only [Prod.mk.injEq] at hn
  exact ⟨s, hs, hn.1, hn.2, deleted_only_when_archived hs⟩

end ClusterArchive.Proofs.Sink.Archived
