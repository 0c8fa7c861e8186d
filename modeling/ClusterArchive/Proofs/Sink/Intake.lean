import ClusterArchive.Sink.Intake
import Mathlib.Data.List.Induction

/-! # What comes into the queue

`Received` says rule by rule how a request is answered and what it leaves of the queue, and a
request is received by these rules (`received_receive`). Only an accepted one changes the queue, by
one event at its end. So at any time all that was put into the queue are the events of the accepted
requests, in order (`kept_after`, `kept_afterAll`), whatever was taken from it in between and
whenever its reader went away (`queue_holds_the_accepted`). -/

namespace ClusterArchive.Proofs.Sink.Intake

open ClusterArchive.Sink ClusterArchive.Http

/-! ### One request -/

/-- Whether a request brings an event. -/
def IsPost (r : Request) : Prop := r.method = "POST" ∧ String.ofList r.path = "/"

instance (r : Request) : Decidable (IsPost r) := by
  unfold IsPost
  infer_instance

/-- What becomes of a request, and of the queue. -/
inductive Received (q : Queue) (r : Request) : Response → Queue → Prop
  | elsewhere {response : Response} (h : ¬ IsPost r) (hs : response.status ∈ [200, 404, 405]) :
    Received q r response q
  | tooLarge (h : IsPost r) (hl : bodyLimit < r.body.length) :
    Received q r (.text 413 Text.withheld) q
  | refused {e : EnvelopeError} (h : IsPost r) (hl : r.body.length ≤ bodyLimit)
      (he : Envelope.ofRequest r.headers r.body = .error e) : Received q r (.text 400 e.message) q
  | closed {e : Envelope} (h : IsPost r) (hl : r.body.length ≤ bodyLimit)
      (he : Envelope.ofRequest r.headers r.body = .ok e) (hc : q.closed = true) :
    Received q r (.text 503 "event queue closed") q
  | accepted {e : Envelope} (h : IsPost r) (hl : r.body.length ≤ bodyLimit)
      (he : Envelope.ofRequest r.headers r.body = .ok e) (hc : q.closed = false) :
    Received q r (.bare 202) ⟨q.waiting ++ [e], false⟩

variable {q : Queue} {r : Request}

theorem received_receiveEvent (h : IsPost r) :
    Received q r (receiveEvent q r).1 (receiveEvent q r).2 := by
  unfold receiveEvent
  split
  · rename_i hl
    exact .tooLarge h hl
  · rename_i hl
    have hl : r.body.length ≤ bodyLimit := Nat.le_of_not_lt hl
    split
    · rename_i he
      exact .refused h hl he
    · rename_i he
      unfold Queue.push?
      cases hc : q.closed with
      | true => exact .closed h hl he hc
      | false => exact .accepted h hl he hc

theorem status_onRead (method : String) : (onRead method healthy).status ∈ [200, 404, 405] := by
  unfold onRead
  split
  · decide
  · split <;> decide

/-- A request is received by the rules. -/
theorem received_receive (q : Queue) (r : Request) :
    Received q r (receive q r).1 (receive q r).2 := by
  unfold receive
  split
  · rename_i hp
    split
    · rename_i hm
      exact received_receiveEvent ⟨hm, hp⟩
    · rename_i hm
      exact .elsewhere (fun h => hm h.1) (by simp [Response.bare])
  · rename_i hp
    have hn : "/healthz" ≠ "/" := by decide
    exact .elsewhere (fun h => hn (hp.symm.trans h.2)) (status_onRead r.method)
  · rename_i hp _
    exact .elsewhere (fun h => hp h.2) (by simp [Response.bare])

/-! ### What is kept -/

/-- Whether a request was accepted. -/
def Accepted (a : Request × Response) : Prop := IsPost a.1 ∧ a.2.status = 202

instance : DecidablePred Accepted := fun a => by
  unfold Accepted
  infer_instance

/-- What a request says of its event. -/
def eventOf (a : Request × Response) : Except EnvelopeError Envelope :=
  Envelope.ofRequest a.1.headers a.1.body

/-- The request that comes in, if it is one. -/
def request? : Occurrence → Option Request
  | .request r => some r
  | _ => none

/-- What holds of the receiver after all that has happened. -/
structure Kept (course : List Occurrence) (s : Sink.Intake) : Prop where
  requests : s.answered.map (·.1) = course.filterMap request?
  closed : s.queue.closed = true ↔ Occurrence.leave ∈ course
  lost : s.queue.closed = false → s.lost = []
  waiting : s.queue.closed = true → s.queue.waiting = []
  put : (s.answered.filter (Accepted ·)).map eventOf = s.put.map .ok

theorem kept_start : Kept [] .start where
  requests := rfl
  closed := by simp [Intake.start, Queue.empty]
  lost _ := rfl
  waiting _ := rfl
  put := rfl

section Request

variable {course : List Occurrence} {s : Sink.Intake} {response : Response} {queue : Queue}

theorem after_request (s : Sink.Intake) (r : Request) :
    s.after (.request r) =
      { s with
        queue := (receive s.queue r).2
        answered := s.answered ++ [(r, (receive s.queue r).1)] } := rfl

/-- A request that is not accepted changes nothing but the answers. -/
theorem Kept.unaccepted (h : Kept course s) (hn : ¬ Accepted (r, response)) :
    Kept (course ++ [.request r]) { s with answered := s.answered ++ [(r, response)] } where
  requests := by simp [h.requests, request?]
  closed := by simp [h.closed]
  lost := h.lost
  waiting := h.waiting
  put := by
    have hf : [(r, response)].filter (Accepted ·) = [] := by simp [hn]
    rw [List.filter_append, hf, List.append_nil]
    exact h.put

/-- An accepted request puts its event at the end of the queue. -/
theorem Kept.accepted (h : Kept course s) (hp : IsPost r) {e : Envelope}
    (he : Envelope.ofRequest r.headers r.body = .ok e) (hc : s.queue.closed = false) :
    Kept (course ++ [.request r])
      { s with
        queue := ⟨s.queue.waiting ++ [e], false⟩
        answered := s.answered ++ [(r, .bare 202)] } where
  requests := by simp [h.requests, request?]
  closed := by simp [← h.closed, hc]
  lost _ := h.lost hc
  waiting hf := by cases hf
  put := by
    have ha : Accepted (r, .bare 202) := ⟨hp, rfl⟩
    have hf : [(r, Response.bare 202)].filter (Accepted ·) = [(r, .bare 202)] := by simp [ha]
    rw [List.filter_append, hf, List.map_append, h.put, List.map_singleton, eventOf, he]
    simp [Intake.put]

theorem Kept.request (h : Kept course s) (hr : Received s.queue r response queue) :
    Kept (course ++ [.request r]) { s with queue, answered := s.answered ++ [(r, response)] } := by
  cases hr with
  | elsewhere hp hs => exact h.unaccepted fun ha => hp ha.1
  | tooLarge hp hl => exact h.unaccepted fun ha => by cases ha.2
  | refused hp hl he => exact h.unaccepted fun ha => by cases ha.2
  | closed hp hl he hc => exact h.unaccepted fun ha => by cases ha.2
  | accepted hp hl he hc => exact h.accepted hp he hc

end Request

/-- The reader takes an event only from an open queue, where nothing has been lost. -/
theorem Kept.take {course : List Occurrence} {s : Sink.Intake} {e : Envelope} {rest : List Envelope}
    (h : Kept course s) (hw : s.queue.waiting = e :: rest) :
    Kept (course ++ [.take])
      { s with queue := ⟨rest, s.queue.closed⟩, taken := s.taken ++ [e] } := by
  have hc : s.queue.closed = false := by
    cases hc : s.queue.closed with
    | false => rfl
    | true => cases hw.symm.trans (h.waiting hc)
  exact {
    requests := by simp [h.requests, request?]
    closed := by simp [h.closed]
    lost := h.lost
    waiting := fun ht => by cases hc.symm.trans ht
    put := by
      have hp : s.put = s.taken ++ e :: rest := by rw [Intake.put, h.lost hc, List.append_nil, hw]
      rw [h.put, hp]
      simp [Intake.put, h.lost hc] }

theorem Kept.leave {course : List Occurrence} {s : Sink.Intake} (h : Kept course s) :
    Kept (course ++ [.leave])
      { s with queue := s.queue.close, lost := s.lost ++ s.queue.waiting } where
  requests := by simp [h.requests, request?]
  closed := by simp [Queue.close]
  lost hf := by cases hf
  waiting _ := rfl
  put := by
    rw [h.put]
    simp [Intake.put, Queue.close]

/-- Whatever happens next keeps what is kept. -/
theorem kept_after {course : List Occurrence} {s : Sink.Intake} (h : Kept course s)
    (next : Occurrence) :
    Kept (course ++ [next]) (s.after next) := by
  cases next with
  | request r => exact h.request (received_receive s.queue r)
  | take =>
    unfold Intake.after
    cases hw : s.queue.waiting with
    | nil => exact ⟨by simp [h.requests, request?], by simp [h.closed], h.lost, h.waiting, h.put⟩
    | cons e rest => exact h.take hw
  | leave => exact h.leave

theorem afterAll_concat (before : List Occurrence) (next : Occurrence) :
    Intake.start.afterAll (before ++ [next]) = (Intake.start.afterAll before).after next := by
  rw [Intake.afterAll, List.foldl_append]
  rfl

theorem kept_afterAll (course : List Occurrence) : Kept course (Intake.start.afterAll course) := by
  induction course using List.reverseRecOn with
  | nil => exact kept_start
  | append_singleton course next ih =>
    rw [afterAll_concat]
    exact kept_after ih next

/-! ### The queue and the answers -/

/-- How a request is answered when the reader of the queue is gone or not. -/
structure Answered (gone : Prop) (r : Request) (status : Nat) : Prop where
  refused : status = 400 ↔ ∃ e, Envelope.ofRequest r.headers r.body = .error e
  closed : status = 503 ↔ (∃ e, Envelope.ofRequest r.headers r.body = .ok e) ∧ gone
  accepted : status = 202 ↔ (∃ e, Envelope.ofRequest r.headers r.body = .ok e) ∧ ¬ gone

theorem answered_of_received {response : Response} {queue : Queue} (h : Received q r response queue)
    {gone : Prop} (hg : q.closed = true ↔ gone) (hp : IsPost r) (hl : r.body.length ≤ bodyLimit) :
    Answered gone r response.status := by
  rw [← hg]
  cases h with
  | elsewhere hn => exact absurd hp hn
  | tooLarge _ ht => exact absurd hl (Nat.not_le_of_lt ht)
  | refused _ _ he => constructor <;> simp [Response.text, he]
  | closed _ _ he hc => constructor <;> simp [Response.text, he, hc]
  | accepted _ _ he hc => constructor <;> simp [Response.bare, he, hc]

theorem unchanged_of_received {response : Response} {queue : Queue}
    (h : Received q r response queue) (hs : response.status ≠ 202) : queue = q := by
  cases h with
  | accepted => exact absurd rfl hs
  | _ => rfl

/-- Only requests that bring an event are accepted. -/
theorem exists_ok_of_received {response : Response} {queue : Queue}
    (h : Received q r response queue) (hs : response.status = 202) :
    IsPost r ∧ ∃ e, Envelope.ofRequest r.headers r.body = .ok e := by
  cases h with
  | elsewhere _ hm =>
    rw [hs] at hm
    simp at hm
  | tooLarge => cases hs
  | refused => cases hs
  | closed => cases hs
  | accepted hp _ he => exact ⟨hp, _, he⟩

/-- How a request is answered that comes in when some course has happened, and what it does to the
queue. -/
structure AnsweredAfter (before : List Occurrence) (r : Request) (response : Response) : Prop where
  /-- Only requests that bring an event are accepted. -/
  only : response.status = 202 → IsPost r
  post : IsPost r → r.body.length ≤ bodyLimit →
    Answered (Occurrence.leave ∈ before) r response.status
  unchanged : response.status ≠ 202 →
    (Intake.start.afterAll (before ++ [.request r])).queue = (Intake.start.afterAll before).queue

theorem answeredAfter (before : List Occurrence) (r : Request) :
    AnsweredAfter before r (receive (Intake.start.afterAll before).queue r).1 := by
  have hr := received_receive (Intake.start.afterAll before).queue r
  refine ⟨fun hs => (exists_ok_of_received hr hs).1,
    answered_of_received hr (kept_afterAll before).closed, fun hs => ?_⟩
  rw [afterAll_concat]
  exact unchanged_of_received hr hs

/-- Answers that were given stay. -/
theorem exists_answered (later : List Occurrence) (s : Sink.Intake) :
    ∃ more, (s.afterAll later).answered = s.answered ++ more := by
  induction later generalizing s with
  | nil => exact ⟨[], (List.append_nil _).symm⟩
  | cons next later ih =>
    obtain ⟨more, hm⟩ := ih (s.after next)
    have hn : ∃ own, (s.after next).answered = s.answered ++ own := by
      cases next with
      | request r => exact ⟨_, rfl⟩
      | take =>
        refine ⟨[], ?_⟩
        rw [List.append_nil, Intake.after]
        cases s.queue.waiting <;> rfl
      | leave => exact ⟨[], (List.append_nil _).symm⟩
    obtain ⟨own, ho⟩ := hn
    refine ⟨own ++ more, ?_⟩
    rw [← List.append_assoc, ← ho, ← hm]
    rfl

/-- The answer to a request stands where the request stands among the requests. -/
theorem getElem?_answered {course before later : List Occurrence} {r : Request}
    (hc : course = before ++ .request r :: later) :
    (Intake.start.afterAll course).answered[(before.filterMap request?).length]? =
      some (r, (receive (Intake.start.afterAll before).queue r).1) := by
  have hs : Intake.start.afterAll course =
      ((Intake.start.afterAll before).after (.request r)).afterAll later := by
    rw [hc, Intake.afterAll, List.foldl_append]
    rfl
  have hl :
      (before.filterMap request?).length = (Intake.start.afterAll before).answered.length := by
    rw [← (kept_afterAll before).requests, List.length_map]
  obtain ⟨more, hm⟩ := exists_answered later ((Intake.start.afterAll before).after (.request r))
  rw [hs, hm, hl, after_request, List.append_assoc, List.getElem?_append_right (Nat.le_refl _),
    Nat.sub_self]
  rfl

/-- What holds when all of a course has happened. -/
structure Accounted (course : List Occurrence) (s : Sink.Intake) : Prop where
  /-- Every request was answered, in order. -/
  requests : s.answered.map (·.1) = course.filterMap request?
  /-- What was put into the queue: the events of the accepted requests, in order and each once. -/
  put : (s.answered.filter (Accepted ·)).map eventOf = s.put.map .ok
  /-- How each of the requests was answered. -/
  answers : ∀ before r later, course = before ++ .request r :: later →
    ∃ response, s.answered[(before.filterMap request?).length]? = some (r, response) ∧
      AnsweredAfter before r response

/-- **The queue holds what was accepted**, whatever comes in, whatever is taken out in between and
whenever the reader goes away: the events put into it are those of the accepted requests, and a
request is accepted exactly if it holds an event and the reader is still there. -/
theorem queue_holds_the_accepted (course : List Occurrence) :
    Accounted course (Intake.start.afterAll course) := by
  have hk := kept_afterAll course
  exact ⟨hk.requests, hk.put,
    fun before r _ hc => ⟨_, getElem?_answered hc, answeredAfter before r⟩⟩

end ClusterArchive.Proofs.Sink.Intake
