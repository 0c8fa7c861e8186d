import ClusterArchive.Sink.Processing

/-! # The course of an event

An event is judged twice, before it is written and after the archive has answered, and the rules in
force may be exchanged at any moment in between. `Along` says for every state of processing what has
passed between it and the outside so far; every step keeps it (`along_step`), so it holds along
every course (`along_run`). Since a step that is taken brings the end nearer (`stepsLeft_next`),
five of them are enough (`finished_of_count`). Together: both judgements are those of the rules at
the beginning (`course_judged_at_start`), and a course ends as `process` says
(`process_eq_of_finished`). -/

namespace ClusterArchive.Proofs.Sink.Judgement

open ClusterArchive.Sink ClusterArchive.Policy

variable {rules : RuleSet} {e : Envelope} {writer deleter : Answer}

/-! ### What has passed at each state -/

/-- What has passed between processing and the outside when processing stands at a given state. -/
inductive Along (rules : RuleSet) (e : Envelope) (writer deleter : Answer) :
    Processing → List Contact → Prop
  | received : Along rules e writer deleter (.received rules e) []
  | malformed (err : DecodeError) (hd : Resource.decode e.contentType e.payload = .error err) :
    Along rules e writer deleter (.finished .malformed) []
  | decoded (r : Resource) (hd : Resource.decode e.contentType e.payload = .ok r) :
    Along rules e writer deleter (.decoded rules ⟨r, e.payload⟩) []
  | skipped (r : Resource) (hd : Resource.decode e.contentType e.payload = .ok r)
      (ha : rules.mustArchive (some r) = false) :
    Along rules e writer deleter (.finished .skipped) []
  | writing (r : Resource) (hd : Resource.decode e.contentType e.payload = .ok r)
      (ha : rules.mustArchive (some r) = true) :
    Along rules e writer deleter (.writing rules ⟨r, e.payload⟩) [.write ⟨r, e.payload⟩]
  | persistFailed (r : Resource) (hd : Resource.decode e.contentType e.payload = .ok r)
      (ha : rules.mustArchive (some r) = true) (hw : writer ≠ .success) :
    Along rules e writer deleter (.finished .persistFailed) [.write ⟨r, e.payload⟩, .answer writer]
  | written (r : Resource) (hd : Resource.decode e.contentType e.payload = .ok r)
      (ha : rules.mustArchive (some r) = true) (hw : writer = .success) :
    Along rules e writer deleter (.written rules ⟨r, e.payload⟩)
      [.write ⟨r, e.payload⟩, .answer .success]
  | archived (r : Resource) (hd : Resource.decode e.contentType e.payload = .ok r)
      (ha : rules.mustArchive (some r) = true) (hw : writer = .success)
      (hx : rules.mustDelete (some r) = false) :
    Along rules e writer deleter (.finished .archived) [.write ⟨r, e.payload⟩, .answer .success]
  | deleting (r : Resource) (hd : Resource.decode e.contentType e.payload = .ok r)
      (ha : rules.mustArchive (some r) = true) (hw : writer = .success)
      (hx : rules.mustDelete (some r) = true) :
    Along rules e writer deleter (.deleting (.of r))
      [.write ⟨r, e.payload⟩, .answer .success, .delete (.of r)]
  | deleted (r : Resource) (hd : Resource.decode e.contentType e.payload = .ok r)
      (ha : rules.mustArchive (some r) = true) (hw : writer = .success)
      (hx : rules.mustDelete (some r) = true) :
    Along rules e writer deleter (.finished (afterDelete deleter))
      [.write ⟨r, e.payload⟩, .answer .success, .delete (.of r), .answer deleter]

/-- One step of processing. -/
theorem along_proceed {c : Course} (h : Along rules e writer deleter c.state c.contacts) :
    Along rules e writer deleter (c.proceed writer deleter).state
      (c.proceed writer deleter).contacts := by
  obtain ⟨inForce, state, contacts⟩ := c
  simp only [Course.proceed, Processing.next] at h ⊢
  cases h with
  | received =>
    simp only [Processing.answer?, Processing.advance]
    cases hd : Resource.decode e.contentType e.payload with
    | error err => exact .malformed err hd
    | ok r => exact .decoded r hd
  | decoded r hd =>
    simp only [Processing.answer?, Processing.advance]
    cases ha : rules.mustArchive (some r) with
    | false => exact .skipped r hd ha
    | true => exact .writing r hd ha
  | writing r hd ha =>
    simp only [Processing.answer?, Processing.resume]
    cases hw : writer with
    | success => exact .written r hd ha rfl
    | failure => exact .persistFailed r hd ha (by simp)
    | timeout => exact .persistFailed r hd ha (by simp)
  | written r hd ha hw =>
    simp only [Processing.answer?, Processing.advance]
    cases hx : rules.mustDelete (some r) with
    | false => exact .archived r hd ha hw hx
    | true => exact .deleting r hd ha hw hx
  | deleting r hd ha hw hx => exact .deleted r hd ha hw hx
  | malformed err hd => exact .malformed err hd
  | skipped r hd ha => exact .skipped r hd ha
  | persistFailed r hd ha hw => exact .persistFailed r hd ha hw
  | archived r hd ha hw hx => exact .archived r hd ha hw hx
  | deleted r hd ha hw hx => exact .deleted r hd ha hw hx

/-- One step of a course; an exchange of the rules changes neither state nor contacts. -/
theorem along_step {c : Course} (h : Along rules e writer deleter c.state c.contacts)
    (x : Happening) :
    Along rules e writer deleter (c.step writer deleter x).state
      (c.step writer deleter x).contacts := by
  cases x with
  | exchange _ => exact h
  | proceed => exact along_proceed h

theorem along_run : ∀ (happenings : List Happening) {c : Course},
    Along rules e writer deleter c.state c.contacts →
      Along rules e writer deleter (c.run writer deleter happenings).state
        (c.run writer deleter happenings).contacts
  | [], _, h => h
  | x :: happenings, _, h => along_run happenings (along_step h x)

/-! ### The end is reached -/

variable (writer deleter) in
theorem stepsLeft_next (p : Processing) : (p.next writer deleter).stepsLeft ≤ p.stepsLeft - 1 := by
  cases p with
  | received rules e =>
    simp only [Processing.next, Processing.answer?, Processing.advance]
    split <;> simp [Processing.stepsLeft]
  | decoded rules call =>
    simp only [Processing.next, Processing.answer?, Processing.advance]
    split <;> simp [Processing.stepsLeft]
  | writing rules call =>
    simp only [Processing.next, Processing.answer?, Processing.resume]
    split <;> simp [Processing.stepsLeft]
  | written rules call =>
    simp only [Processing.next, Processing.answer?, Processing.advance]
    split <;> simp [Processing.stepsLeft]
  | deleting call =>
    simp [Processing.next, Processing.answer?, Processing.resume, Processing.stepsLeft]
  | finished o =>
    simp [Processing.next, Processing.answer?, Processing.advance, Processing.stepsLeft]

/-- Whether processing goes on. -/
def isProceed : Happening → Bool
  | .proceed => true
  | .exchange _ => false

variable (writer deleter) in
theorem stepsLeft_run : ∀ (happenings : List Happening) (c : Course),
    (c.run writer deleter happenings).state.stepsLeft ≤
      c.state.stepsLeft - happenings.countP isProceed
  | [], c => by simp [Course.run]
  | .exchange rules :: happenings, c => by
    have h := stepsLeft_run happenings { c with inForce := rules }
    rw [List.countP_cons_of_neg (by simp [isProceed])]
    exact h
  | .proceed :: happenings, c => by
    have h := stepsLeft_run happenings (c.proceed writer deleter)
    have hn := stepsLeft_next writer deleter c.state
    rw [List.countP_cons_of_pos rfl]
    change ((c.proceed writer deleter).run writer deleter happenings).state.stepsLeft ≤ _
    change _ ≤ (c.state.next writer deleter).stepsLeft - _ at h
    omega

theorem finished_of_stepsLeft {p : Processing} (h : p.stepsLeft = 0) : ∃ o, p = .finished o := by
  cases p with
  | finished o => exact ⟨o, rfl⟩
  | _ => simp [Processing.stepsLeft] at h

/-- Five steps of processing end a course, whatever happens between them. -/
theorem finished_of_count {happenings : List Happening} (h : 5 ≤ happenings.countP isProceed) :
    ∃ o, ((Course.start rules e).run writer deleter happenings).state = .finished o := by
  have hl := stepsLeft_run writer deleter happenings (Course.start rules e)
  refine finished_of_stepsLeft ?_
  simp only [Course.start, Processing.stepsLeft] at hl ⊢
  omega

/-! ### The outcome -/

/-- What passes between processing and the outside in the course of a trace. -/
def exchanged (writer deleter : Answer) (t : Trace) : List Contact :=
  (match t.write with
    | some call => [.write call, .answer writer]
    | none => []) ++
  match t.delete with
  | some call => [.delete call, .answer deleter]
  | none => []

/-- A course that has ended did what processing at a stretch does under the rules at the
beginning. -/
theorem process_eq_of_finished {happenings : List Happening} {o : Outcome}
    (h : ((Course.start rules e).run writer deleter happenings).state = .finished o) :
    (process rules e writer deleter).outcome = o ∧
      exchanged writer deleter (process rules e writer deleter) =
        ((Course.start rules e).run writer deleter happenings).contacts := by
  have ha : Along rules e writer deleter _ _ :=
    along_run happenings (c := Course.start rules e) .received
  rw [h] at ha
  generalize ((Course.start rules e).run writer deleter happenings).contacts = contacts at ha ⊢
  unfold process
  cases ha with
  | malformed err hd =>
    rw [hd]
    exact ⟨rfl, rfl⟩
  | skipped r hd hm =>
    simp only [hd, hm]
    exact ⟨rfl, rfl⟩
  | persistFailed r hd hm hw =>
    simp only [hd, hm]
    cases writer with
    | success => exact absurd rfl hw
    | failure => exact ⟨rfl, rfl⟩
    | timeout => exact ⟨rfl, rfl⟩
  | archived r hd hm hw hx =>
    simp only [hd, hm, hw, hx]
    exact ⟨rfl, rfl⟩
  | deleted r hd hm hw hx =>
    simp only [hd, hm, hw, hx]
    exact ⟨rfl, rfl⟩

/-- How an event ends under rules, and what passes between processing and the outside until then. -/
structure Judged (rules : RuleSet) (e : Envelope) (writer deleter : Answer) (o : Outcome)
    (contacts : List Contact) : Prop where
  malformed : ∀ err, Resource.decode e.contentType e.payload = .error err →
    o = .malformed ∧ contacts = []
  skipped : ∀ r, Resource.decode e.contentType e.payload = .ok r →
    rules.mustArchive (some r) = false → o = .skipped ∧ contacts = []
  persistFailed : ∀ r, Resource.decode e.contentType e.payload = .ok r →
    rules.mustArchive (some r) = true → writer ≠ .success →
      o = .persistFailed ∧ contacts = [.write ⟨r, e.payload⟩, .answer writer]
  archived : ∀ r, Resource.decode e.contentType e.payload = .ok r →
    rules.mustArchive (some r) = true →
    writer = .success → rules.mustDelete (some r) = false →
      o = .archived ∧ contacts = [.write ⟨r, e.payload⟩, .answer .success]
  deleted : ∀ r, Resource.decode e.contentType e.payload = .ok r →
    rules.mustArchive (some r) = true →
    writer = .success → rules.mustDelete (some r) = true →
      o = (if deleter = .success then .archivedAndDeleted else .deleteFailed) ∧
      contacts = [.write ⟨r, e.payload⟩, .answer .success,
        .delete ⟨.guess r.identity.gvk, r.identity.namespace_, r.identity.name⟩, .answer deleter]

theorem judged_of_along {o : Outcome} {contacts : List Contact}
    (h : Along rules e writer deleter (.finished o) contacts) :
    Judged rules e writer deleter o contacts := by
  cases h with
  | malformed err hd => constructor <;> simp [hd]
  | skipped r hd hm => constructor <;> simp [hd, hm]
  | persistFailed r hd hm hw => constructor <;> simp [hd, hm, hw]
  | archived r hd hm hw hx => constructor <;> simp [hd, hm, hw, hx]
  | deleted r hd hm hw hx =>
    have ho : afterDelete deleter =
        if deleter = .success then .archivedAndDeleted else .deleteFailed := by
      cases deleter <;> rfl
    constructor <;> simp [hd, hm, hw, hx, ho, DeleteCall.of]

/-- **An event is judged by the rules in force at the beginning**, and its course comes to an end,
whatever happens in between. -/
theorem course_judged_at_start (rules : RuleSet) (e : Envelope) (writer deleter : Answer)
    (happenings : List Happening) :
    (5 ≤ happenings.countP isProceed →
      ∃ o, ((Course.start rules e).run writer deleter happenings).state = .finished o) ∧
    ∀ o, ((Course.start rules e).run writer deleter happenings).state = .finished o →
      Judged rules e writer deleter o
        ((Course.start rules e).run writer deleter happenings).contacts := by
  refine ⟨finished_of_count, fun o ho => judged_of_along ?_⟩
  rw [← ho]
  exact along_run happenings (c := Course.start rules e) .received

end ClusterArchive.Proofs.Sink.Judgement
