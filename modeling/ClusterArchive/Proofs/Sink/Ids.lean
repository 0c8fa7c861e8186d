import ClusterArchive.Proofs.Sink.Intake
import ClusterArchive.Proofs.Sink.Modes

/-! # The ids of events

An event has the id that its request gives it, in a header or in the body (`given_of_ok`). A request
that gives none is refused, so nothing of it comes into the queue. In binary mode an empty id is as
good as none; in structured mode it is taken like any other (`exists_ok_of_structured`). So exactly
the requests in structured mode may bring in an event whose id is empty (`identified`).

* `givenId?`: the id that a request gives.
* `Usable`: whether it is one that the mode of the request takes.
* `accepted_without_id`: an event whose id is empty in the queue. -/

namespace ClusterArchive.Proofs.Sink.Ids

open ClusterArchive.Sink ClusterArchive.Http ClusterArchive.Json
open ClusterArchive.Proofs.Sink.Intake ClusterArchive.Proofs.Sink.Modes

instance (headers : Headers) : Decidable (IsStructured headers) :=
  inferInstanceAs (Decidable (_ = true))

/-- The id that a request gives its event: in structured mode the one that stands in the body,
otherwise the one that stands in a header. -/
def givenId? (headers : Headers) (body : Bytes) : Option String :=
  if IsStructured headers then (Structured.event (Utf8.scalars body)).bind (·.1.id)
  else headers.text? "ce-id"

/-- Whether a request gives an id that its mode takes. -/
def Usable (headers : Headers) (body : Bytes) : Prop :=
  ∃ id, givenId? headers body = some id ∧ (id = "" → IsStructured headers)

variable {headers : Headers} {body : Bytes} {e : Envelope} {r : Request}

/-! ### The id of an event -/

theorem id_of_envelope {event : Structured.Event} (h : event.envelope = .ok e) :
    event.id = some e.eventId := by
  unfold Structured.Event.envelope at h
  split at h
  · cases h
  · cases h
  · rename_i hid _
    cases h
    exact hid

theorem given_of_envelope (h : Structured.envelope body = .ok e) :
    (Structured.event (Utf8.scalars body)).bind (·.1.id) = some e.eventId := by
  unfold Structured.envelope at h
  split at h
  · rename_i event rest he
    rw [he]
    split at h
    · exact id_of_envelope h
    · cases h
  · cases h

theorem ofRequest_of_structured (hs : IsStructured headers) :
    Envelope.ofRequest headers body = Structured.envelope body := if_pos hs

theorem ofRequest_of_not_structured (hs : ¬ IsStructured headers) :
    Envelope.ofRequest headers body =
      match headers.text? "ce-id" with
      | none | some "" => .error .missingId
      | some id => .ok ⟨id, headers.text? "content-type", body⟩ := if_neg hs

/-- An event has the id that was given, which is empty in structured mode only. -/
theorem given_of_ok (h : Envelope.ofRequest headers body = .ok e) :
    givenId? headers body = some e.eventId ∧ (e.eventId = "" → IsStructured headers) := by
  by_cases hs : IsStructured headers
  · rw [ofRequest_of_structured hs] at h
    rw [givenId?, if_pos hs]
    exact ⟨given_of_envelope h, fun _ => hs⟩
  · rw [ofRequest_of_not_structured hs] at h
    rw [givenId?, if_neg hs]
    split at h
    · cases h
    · cases h
    · rename_i id hn hid
      cases h
      exact ⟨hid, fun he => absurd he hn⟩

theorem exists_error_of_not_usable (h : ¬ Usable headers body) :
    ∃ error, Envelope.ofRequest headers body = .error error := by
  cases he : Envelope.ofRequest headers body with
  | error error => exact ⟨error, rfl⟩
  | ok e => exact absurd ⟨e.eventId, given_of_ok he⟩ h

/-- In structured mode any id may be given. -/
theorem exists_ok_of_structured (hs : IsStructured headers) (id : String) :
    ∃ body e, Envelope.ofRequest headers body = .ok e ∧ e.eventId = id := by
  obtain ⟨-, ha⟩ := accepted_eventBody hs id (.bool _ true) (.bool true) nofun
  exact ⟨_, _, ha, rfl⟩

theorem not_empty_iff : (∀ body e, Envelope.ofRequest headers body = .ok e → e.eventId ≠ "") ↔
    ¬ IsStructured headers := by
  refine ⟨fun h hs => ?_, fun hs body e he hn => hs ((given_of_ok he).2 hn)⟩
  obtain ⟨body, e, he, hn⟩ := exists_ok_of_structured hs ""
  exact h body e he hn

/-! ### Requests without a usable id -/

/-- A request that gives no usable id leaves the queue as it is, and is refused if it brings an
event. -/
theorem refused_of_not_usable (h : ¬ Usable r.headers r.body) (q : Queue) :
    (receive q r).2 = q ∧
      (IsPost r → r.body.length ≤ bodyLimit → (receive q r).1.status = 400) := by
  obtain ⟨error, he⟩ := exists_error_of_not_usable h
  have hr := received_receive q r
  refine ⟨unchanged_of_received hr fun hs => ?_, fun hp hl =>
    (answered_of_received hr Iff.rfl hp hl).refused.mpr ⟨error, he⟩⟩
  obtain ⟨-, e, ha⟩ := exists_ok_of_received hr hs
  rw [he] at ha
  cases ha

/-! ### The queue -/

/-- What is put into the queue came with a request that was accepted. -/
theorem exists_request_of_put {course : List Occurrence}
    (h : e ∈ (Intake.start.afterAll course).put) :
    ∃ r, Occurrence.request r ∈ course ∧ IsPost r ∧
      Envelope.ofRequest r.headers r.body = .ok e := by
  have hk := kept_afterAll course
  have hm :
      Except.ok e ∈ ((Intake.start.afterAll course).answered.filter (Accepted ·)).map eventOf := by
    rw [hk.put]
    exact List.mem_map_of_mem h
  obtain ⟨⟨r, response⟩, ha, he⟩ := List.mem_map.mp hm
  obtain ⟨ha, hp⟩ := List.mem_filter.mp ha
  have hr : r ∈ course.filterMap request? := by
    rw [← hk.requests]
    exact List.mem_map_of_mem ha
  obtain ⟨next, hn, hreq⟩ := List.mem_filterMap.mp hr
  refine ⟨r, ?_, (of_decide_eq_true hp).1, he⟩
  cases next with
  | request r' =>
    cases hreq
    exact hn
  | take => cases hreq
  | leave => cases hreq

/-- What holds of the ids of events. -/
structure Identified (r : Request) (course : List Occurrence) : Prop where
  /-- An accepted event has the id that was given. -/
  given : ∀ e, Envelope.ofRequest r.headers r.body = .ok e →
    givenId? r.headers r.body = some e.eventId
  /-- No accepted event has an empty id exactly if the headers are not those of structured mode. -/
  named : (∀ body e, Envelope.ofRequest r.headers body = .ok e → e.eventId ≠ "") ↔
    ¬ IsStructured r.headers
  /-- What gives no usable id is refused and leaves the queue as it is. -/
  refused : ¬ Usable r.headers r.body → ∀ q, (receive q r).2 = q ∧
    (IsPost r → r.body.length ≤ bodyLimit → (receive q r).1.status = 400)
  /-- Whatever comes into the queue has the id that its request gave, and one that its mode
  takes. -/
  queued : ∀ e ∈ (Intake.start.afterAll course).put, ∃ own, Occurrence.request own ∈ course ∧
    IsPost own ∧ givenId? own.headers own.body = some e.eventId ∧
    (e.eventId = "" → IsStructured own.headers)

/-- **Events have the ids that were given**, and these are not empty but in structured mode. -/
theorem identified (r : Request) (course : List Occurrence) : Identified r course where
  given _ he := (given_of_ok he).1
  named := not_empty_iff
  refused := refused_of_not_usable
  queued e he := by
    obtain ⟨own, hm, hp, ho⟩ := exists_request_of_put he
    exact ⟨own, hm, hp, given_of_ok ho⟩

/-- A request in structured mode whose event has an empty id. -/
def nameless : Request where
  method := "POST"
  target := "/"
  headers := [("content-type", utf8Bytes structuredType)]
  body := utf8Bytes "\x7b\"id\":\"\",\"data\":\x7b\x7d\x7d"

/-- It is accepted, and its event is put into the queue. -/
theorem accepted_without_id :
    Envelope.ofRequest nameless.headers nameless.body = .ok ⟨"", none, utf8Bytes "\x7b\x7d"⟩ ∧
      receive .empty nameless = (.bare 202, ⟨[⟨"", none, utf8Bytes "\x7b\x7d"⟩], false⟩) := by
  decide +kernel

end ClusterArchive.Proofs.Sink.Ids
