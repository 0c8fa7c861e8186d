import ClusterArchive.Proofs.Archive.History
import ClusterArchive.Proofs.Archive.KeyParts
import ClusterArchive.Proofs.Resource.ApiVersion
import ClusterArchive.Proofs.Resource.Decoding
import ClusterArchive.Proofs.Sink.Archived

/-! # The archive is faithful

The archive of the sink is its history: the writes in the log, in order, make its rows, and each of
them is the write of the event it was made for (`Kept`, kept by every step). A row's columns come
from the first write under its key and from the last. Where uids identify objects and names have no
slashes, writes under one key are of one object (`same_object`), so every row is what its data,
decoded again, says (`archive_faithful`). -/

namespace ClusterArchive.Proofs.Sink.Faithful

open ClusterArchive.Sink ClusterArchive.Archive
open ClusterArchive.Proofs.Archive.Rows ClusterArchive.Proofs.Archive.History
open ClusterArchive.Proofs.Archive.KeyParts
open ClusterArchive.Proofs.Resource.ApiVersion ClusterArchive.Proofs.Resource.Decoding
open ClusterArchive.Proofs.Sink.Steps ClusterArchive.Proofs.Sink.Archived

/-! ### The writes of the log -/

/-- The write that an entry is, with the event it was made for. -/
def wrote? : Entry → Option (Job × WriteCall)
  | .wrote job call => some (job, call)
  | _ => none

/-- The last write under a key, with the event it was made for; the latest entry of a log comes
first. -/
def lastWritten? (key : String) (log : List Entry) : Option (Job × WriteCall) :=
  (log.filterMap wrote?).find? fun w => archiveKey w.2.resource == key

/-- What an upsert does to the archive. -/
def writeOf (u : Upsert) : Write := ⟨u.call.resource, u.call.payload, u.time⟩

theorem eq_wrote_of_wrote? {x : Entry} {job : Job} {call : WriteCall}
    (h : wrote? x = some (job, call)) :
    x = .wrote job call := by
  cases x with
  | wrote _ _ =>
    cases h
    rfl
  | _ => cases h

/-- The archive is the history of its upserts, which the log has with their events; every write in
the log, and every one that was given up, is that of its event. -/
structure Kept (s : Pool) : Prop where
  late : ∀ u ∈ s.late, IsWriteOf u.job u.call
  wrote : ∀ job call, .wrote job call ∈ s.log → IsWriteOf job call
  history : ∃ us : List Upsert, s.log.filterMap wrote? = us.map (fun u => (u.job, u.call)) ∧
    s.store = written [] (us.map writeOf).reverse

variable {s : Pool}

/-- What is kept is about the archive, the log and the writes given up. -/
theorem Kept.congr {t : Pool} (h : Kept s) (hl : t.late = s.late) (hg : t.log = s.log)
    (hs : t.store = s.store) : Kept t where
  late := by rw [hl]; exact h.late
  wrote := by rw [hg]; exact h.wrote
  history := by rw [hg, hs]; exact h.history

theorem Kept.record (h : Kept s) (entries : List Entry) (hn : ∀ x ∈ entries, wrote? x = none) :
    Kept (s.record entries) where
  late := h.late
  wrote job call hm := by
    rcases List.mem_append.mp hm with hm | hm
    · cases hn _ hm
    · exact h.wrote job call hm
  history := by
    have he : (s.record entries).log.filterMap wrote? = s.log.filterMap wrote? := by
      change (entries ++ s.log).filterMap wrote? = _
      rw [List.filterMap_append, List.filterMap_eq_nil_iff.mpr hn, List.nil_append]
    rw [he]
    exact h.history

theorem Kept.commit (h : Kept s) {u : Upsert} (hu : IsWriteOf u.job u.call) :
    Kept (s.commit u) where
  late := h.late
  wrote job call hm := by
    rcases List.mem_cons.mp hm with he | hm
    · cases he
      exact hu
    · exact h.wrote job call hm
  history := by
    obtain ⟨us, hw, hs⟩ := h.history
    refine ⟨u :: us, congrArg ((u.job, u.call) :: ·) hw, ?_⟩
    rw [List.map_cons, List.reverse_cons, written_concat, ← hs]
    rfl

theorem Kept.giveUp (h : Kept s) {u : Upsert} (hu : IsWriteOf u.job u.call) (b : Bool) :
    Kept (s.giveUp b u) := by
  unfold Pool.giveUp
  split
  · exact h
  · exact ⟨List.forall_mem_cons.mpr ⟨hu, h.late⟩, h.wrote, h.history⟩

theorem wrote?_of_mem_ofDeletion {job : Job} {state : Processing} :
    ∀ x ∈ Entry.ofDeletion job state,
    wrote? x = none := by
  intro x hx
  cases state with
  | deleting call =>
    rw [List.mem_singleton.mp hx]
    rfl
  | _ => cases hx

theorem kept_step {s t : Pool} {x : Step} (hi : Inv s) (h : Kept s) (hx : Transition s x t) :
    Kept t := by
  cases hx with
  | @send event hroom hopen =>
    have hq : Kept { s with queue := ⟨s.queue.waiting ++ [event], s.queue.closed⟩ } :=
      h.congr rfl rfl rfl
    exact hq.record [.sent event] (by simp [wrote?])
  | close => exact h.congr rfl rfl rfl
  | @take i event rest hw hq =>
    have ht : Kept { s with queue := ⟨rest, s.queue.closed⟩, taken := s.taken + 1 } :=
      h.congr rfl rfl rfl
    exact (ht.record [.taken i ⟨s.taken, event⟩] (by simp [wrote?])).congr rfl rfl rfl
  | begin_ hw => exact h.congr rfl rfl rfl
  | @advance i job state time b hw hr =>
    exact (h.record _ wrote?_of_mem_ofDeletion).congr rfl rfl rfl
  | @carryOut i job rules call time hw =>
    obtain ⟨-, hb, -⟩ := hi.sound hw
    exact (h.commit (u := ⟨job, call, time⟩) hb).congr rfl rfl rfl
  | @carryOutLate j u hl =>
    have hc : Kept { s with late := s.late.eraseIdx j } :=
      ⟨fun v hv => h.late v (List.mem_of_mem_eraseIdx hv), h.wrote, h.history⟩
    exact hc.commit (h.late u (List.mem_of_getElem? hl))
  | succeed hw => exact h.congr rfl rfl rfl
  | fail hw => exact h.congr rfl rfl rfl
  | @giveUp i job rules call time b hw =>
    obtain ⟨-, hb, -⟩ := hi.sound hw
    exact (h.giveUp (u := ⟨job, call, time⟩) hb b).congr rfl rfl rfl
  | answerDelete hw => exact h.congr rfl rfl rfl
  | @finish i job o time b hw =>
    exact (h.record [.processed i job o] (by simp [wrote?])).congr rfl rfl rfl
  | stop hw hclosed hempty => exact h.congr rfl rfl rfl
  | exchange => exact h.congr rfl rfl rfl
  | setClock => exact h.congr rfl rfl rfl

theorem kept_run {rules : Policy.RuleSet} {workers capacity : Nat} {steps : List Step} {s : Pool}
    (h : (Pool.start rules workers capacity).run? steps = some s) : Kept s := by
  have h₀ : Kept (.start rules workers capacity) := ⟨by simp [Pool.start, Pool.opened],
    by simp [Pool.start, Pool.opened], [], rfl, rfl⟩
  exact (run_induction (P := fun s => Inv s ∧ Kept s)
    (fun s _ _ hs hx => ⟨inv_step hs.1 hx, kept_step hs.1 hs.2 hx⟩)
    ⟨inv_opened [] rules workers capacity, h₀⟩ h).2

/-! ### First and last write under a key -/

theorem mem_writes_of_wrote {job : Job} {call : WriteCall} (h : .wrote job call ∈ s.log) :
    call ∈ s.writes :=
  List.mem_filterMap.mpr ⟨_, h, rfl⟩

/-- Whether the log has an upsert, made under a key. -/
def WrittenUnder (key : String) (log : List Entry) (u : Upsert) : Prop :=
  .wrote u.job u.call ∈ log ∧ archiveKey u.call.resource = key

/-- A row comes from two writes under its key, of which the second is the last one in the log. -/
theorem exists_writes_of_mem (h : Kept s) {row : Row} (hr : row ∈ s.store) :
    ∃ first last : Upsert, row = rowOf (writeOf first) (writeOf last) ∧
      lastWritten? row.key s.log = some (last.job, last.call) ∧
      WrittenUnder row.key s.log first ∧ WrittenUnder row.key s.log last := by
  obtain ⟨us, hw, hs⟩ := h.history
  have hm : ∀ u ∈ us, .wrote u.job u.call ∈ s.log := fun u hu => by
    have hp : (u.job, u.call) ∈ s.log.filterMap wrote? := hw ▸ List.mem_map_of_mem hu
    obtain ⟨x, hx, he⟩ := List.mem_filterMap.mp hp
    exact eq_wrote_of_wrote? he ▸ hx
  rw [hs] at hr
  obtain ⟨w, hf, hl⟩ := Option.bind_eq_some_iff.mp (rowUnder?_of_mem hr)
  obtain ⟨w', hlast, he⟩ := Option.map_eq_some_iff.mp hl
  -- the first write is among the upserts
  have hwm := List.mem_of_find?_eq_some hf
  rw [List.mem_reverse] at hwm
  obtain ⟨first, hfirst, rfl⟩ := List.mem_map.mp hwm
  have hfk : archiveKey first.call.resource = row.key := by
    simpa [writeOf, Write.key] using List.find?_some hf
  -- the last one is the latest in the log
  rw [lastUnder?, List.reverse_reverse, List.find?_map] at hlast
  obtain ⟨last, hu, rfl⟩ := Option.map_eq_some_iff.mp hlast
  have huk : archiveKey last.call.resource = row.key := by
    simpa [writeOf, Write.key] using List.find?_some hu
  have hlw : lastWritten? row.key s.log = some (last.job, last.call) := by
    rw [lastWritten?, hw, List.find?_map]
    exact congrArg (Option.map _) hu
  exact ⟨first, last, he.symm, hlw, ⟨hm _ hfirst, hfk⟩, hm _ (List.mem_of_find?_eq_some hu), huk⟩

/-! ### Objects -/

/-- What a cluster promises of the objects that are written: a uid is that of one object, and
neither uids nor kinds, namespaces and names have slashes. -/
structure Distinguished (objects : List Identity) : Prop where
  kind : ∀ i ∈ objects, '/' ∉ i.gvk.kind.toList
  namespace_ : ∀ i ∈ objects, '/' ∉ i.namespace_.toList
  name : ∀ i ∈ objects, '/' ∉ i.name.toList
  uid : ∀ i ∈ objects, '/' ∉ i.uid.toList
  one_object : ∀ i ∈ objects, ∀ j ∈ objects, i.uid = j.uid → i.uid ≠ "" →
    i.gvk.kind = j.gvk.kind ∧ i.namespace_ = j.namespace_ ∧ i.name = j.name

/-- The objects of writes. -/
def objects (calls : List WriteCall) : List Identity := calls.map (·.resource.identity)

theorem slashless_of_isWriteOf {calls : List WriteCall} (hd : Distinguished (objects calls))
    {job : Job} {call : WriteCall} (hm : call ∈ calls) (hw : IsWriteOf job call) :
    Slashless call.resource.identity := by
  have ho : call.resource.identity ∈ objects calls := List.mem_map_of_mem hm
  obtain ⟨apiVersion, kind, hs⟩ := stated_of_decode hw.1
  exact slashless_of_stated hs (hd.kind _ ho) (hd.namespace_ _ ho) (hd.name _ ho) (hd.uid _ ho)

/-- Writes under one key are of objects with one kind, namespace and name. -/
theorem same_object (h : Kept s) (hd : Distinguished (objects s.writes)) {job job' : Job}
    {call call' : WriteCall} (hm : .wrote job call ∈ s.log) (hm' : .wrote job' call' ∈ s.log)
    (hk : archiveKey call.resource = archiveKey call'.resource) :
    call.resource.identity.gvk.kind = call'.resource.identity.gvk.kind ∧
      call.resource.identity.namespace_ = call'.resource.identity.namespace_ ∧
      call.resource.identity.name = call'.resource.identity.name := by
  have hc := mem_writes_of_wrote hm
  have hc' := mem_writes_of_wrote hm'
  have hs := slashless_of_isWriteOf hd hc (h.wrote job call hm)
  have hs' := slashless_of_isWriteOf hd hc' (h.wrote job' call' hm')
  rcases oneObject_of_archiveKey_eq hs hs' hk with ⟨hn, hu⟩ | ⟨-, -, hg, hns, hn⟩
  · exact hd.one_object _ (List.mem_map_of_mem hc) _ (List.mem_map_of_mem hc') hu hn
  · exact ⟨congrArg Gvk.kind hg, hns, hn⟩

/-! ### Faithful rows -/

/-- Whether the columns of a row are those of a resource. -/
structure DescribedBy (row : Row) (r : Resource) : Prop where
  key : row.key = archiveKey r
  apiVersion : row.apiVersion = r.identity.gvk.apiVersion
  kind : row.kind = r.identity.gvk.kind
  namespace_ : row.namespace_ = r.identity.namespace_
  name : row.name = r.identity.name
  resourceVersion : row.resourceVersion = r.identity.resourceVersion

/-- **The archive is faithful**: the data of every row are the payload of the last event that was
written under its key, byte for byte, and decoded as that event they are the resource that the row
describes. -/
theorem archive_faithful {rules : Policy.RuleSet} {workers capacity : Nat} {steps : List Step}
    {s : Pool} (h : (Pool.start rules workers capacity).run? steps = some s)
    (hd : Distinguished (objects s.writes)) :
    ∀ row ∈ s.store, ∃ job call, lastWritten? row.key s.log = some (job, call) ∧
      utf8Bytes row.data = job.event.payload ∧
      ∃ r, Resource.decode job.event.contentType (utf8Bytes row.data) = .ok r ∧
        DescribedBy row r := by
  have hk := kept_run h
  intro row hr
  obtain ⟨first, last, he, hl, ⟨hmf, hcf⟩, hml, hcl⟩ := exists_writes_of_mem hk hr
  obtain ⟨hdec, hp⟩ := hk.wrote last.job last.call hml
  obtain ⟨hkind, hns, hname⟩ := same_object hk hd hmf hml (hcf.trans hcl.symm)
  have hdata : utf8Bytes row.data = last.job.event.payload := by
    rw [he, ← utf8Bytes_lossy_of_decode hdec, ← hp]
    rfl
  have hrow : DescribedBy row last.call.resource := by
    refine ⟨hcl.symm, ?_, ?_, ?_, ?_, ?_⟩
    · rw [he]
      rfl
    · rw [he, ← hkind]
      rfl
    · rw [he, ← hns]
      rfl
    · rw [he, ← hname]
      rfl
    · rw [he]
      rfl
  exact ⟨last.job, last.call, hl, hdata, last.call.resource, hdata ▸ hdec, hrow⟩

theorem faithful_lateWrite : ∃ s, (Pool.start deletePods 2 2).run? lateWrite = some s ∧
    Distinguished (objects s.writes) ∧ s.store.count = 1 ∧
    ∀ row ∈ s.store, ∃ job call, lastWritten? row.key s.log = some (job, call) ∧
      utf8Bytes row.data = job.event.payload ∧
      ∃ r, Resource.decode job.event.contentType (utf8Bytes row.data) = .ok r ∧
        DescribedBy row r := by
  have he : (((Pool.start deletePods 2 2).run? lateWrite).map fun s =>
      (s.store.count, objects s.writes)) =
      some (1, [⟨"", "p", "u", ⟨"", "v1", "Pod"⟩, "1"⟩,
        ⟨"", "p", "u", ⟨"", "v1", "Pod"⟩, "2"⟩]) := by
    decide +kernel
  obtain ⟨s, hs, hn⟩ := Option.map_eq_some_iff.mp he
  obtain ⟨hc, ho⟩ := Prod.mk.inj hn
  have hd : Distinguished (objects s.writes) := by
    rw [ho]
    constructor <;> decide
  exact ⟨s, hs, hd, hc, archive_faithful hs hd⟩

end ClusterArchive.Proofs.Sink.Faithful
