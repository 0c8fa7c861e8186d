import ClusterArchive.Sink.Workers

/-! # What a step of the sink can do

`Transition s x t` lists, for every kind of step, when it can be taken and what becomes of the sink.
Every step that is taken is of this form (`transition_of_step?`), and a property that transitions
keep holds after every run (`run_induction`). -/

namespace ClusterArchive.Proofs.Sink.Steps

open ClusterArchive.Sink

/-- A step `x` that takes the sink from `s` to another state. -/
inductive Transition (s : Pool) : Step → Pool → Prop
  | send {event : Envelope} (hroom : s.queue.waiting.length < s.capacity)
    (hopen : s.queue.closed = false) :
    Transition s (.send event)
      ({ s with queue := ⟨s.queue.waiting ++ [event], s.queue.closed⟩ }.record [.sent event])
  | close : Transition s .close { s with queue := ⟨s.queue.waiting, true⟩ }
  | take {i : Nat} {event : Envelope} {rest : List Envelope} (hw : s.workers[i]? = some .idle)
      (hq : s.queue.waiting = event :: rest) :
    Transition s (.take i)
      (({ s with queue := ⟨rest, s.queue.closed⟩, taken := s.taken + 1 }.record
        [.taken i ⟨s.taken, event⟩]).withWorker i (.holding ⟨s.taken, event⟩))
  | begin_ {i : Nat} {job : Job} (hw : s.workers[i]? = some (.holding job)) :
    Transition s (.begin_ i)
    (s.withWorker i (.busy job (.received s.rules job.event) s.clock false))
  | advance {i : Nat} {job : Job} {state : Processing} {time : Nat} {written : Bool}
      (hw : s.workers[i]? = some (.busy job state time written)) (hr : state.isReady = true) :
    Transition s (.advance i)
      ((s.record (Entry.ofDeletion job state.advance)).withWorker i
        (.busy job state.advance s.clock written))
  | carryOut {i : Nat} {job : Job} {rules : Policy.RuleSet} {call : WriteCall} {time : Nat}
      (hw : s.workers[i]? = some (.busy job (.writing rules call) time false)) :
    Transition s (.carryOut i)
      ((s.commit ⟨job, call, time⟩).withWorker i (.busy job (.writing rules call) time true))
  | carryOutLate {j : Nat} {u : Upsert} (hl : s.late[j]? = some u) :
    Transition s (.carryOutLate j) ({ s with late := s.late.eraseIdx j }.commit u)
  | succeed {i : Nat} {job : Job} {rules : Policy.RuleSet} {call : WriteCall} {time : Nat}
      (hw : s.workers[i]? = some (.busy job (.writing rules call) time true)) :
    Transition s (.answer i .success) (s.withWorker i (.busy job (.written rules call) time true))
  | fail {i : Nat} {job : Job} {rules : Policy.RuleSet} {call : WriteCall} {time : Nat}
      (hw : s.workers[i]? = some (.busy job (.writing rules call) time false)) :
    Transition s (.answer i .failure)
      (s.withWorker i (.busy job (.finished .persistFailed) time false))
  | giveUp {i : Nat} {job : Job} {rules : Policy.RuleSet} {call : WriteCall} {time : Nat}
    {written : Bool} (hw : s.workers[i]? = some (.busy job (.writing rules call) time written)) :
    Transition s (.answer i .timeout)
      ((s.giveUp written ⟨job, call, time⟩).withWorker i
        (.busy job (.finished .persistFailed) time written))
  | answerDelete {i : Nat} {job : Job} {call : DeleteCall} {time : Nat} {written : Bool}
    {a : Answer} (hw : s.workers[i]? = some (.busy job (.deleting call) time written)) :
    Transition s (.answer i a) (s.withWorker i (.busy job (.finished (afterDelete a)) time written))
  | finish {i : Nat} {job : Job} {o : Outcome} {time : Nat} {written : Bool}
      (hw : s.workers[i]? = some (.busy job (.finished o) time written)) :
    Transition s (.finish i) ((s.record [.processed i job o]).withWorker i .idle)
  | stop {i : Nat} (hw : s.workers[i]? = some .idle) (hclosed : s.queue.closed = true)
      (hempty : s.queue.waiting = []) :
    Transition s (.stop i) (s.withWorker i .stopped)
  | exchange {rules : Policy.RuleSet} : Transition s (.exchange rules) { s with rules }
  | setClock {time : Nat} : Transition s (.setClock time) { s with clock := time }

theorem transition_of_answer? {s t : Pool} {i : Nat} {a : Answer} (h : s.answer? i a = some t) :
    Transition s (.answer i a) t := by
  unfold Pool.answer? at h
  split at h
  · rename_i job rules call time written hw
    cases a with
    | success =>
      cases written with
      | true => cases h; exact .succeed hw
      | false => cases h
    | failure =>
      cases written with
      | true => cases h
      | false => cases h; exact .fail hw
    | timeout => cases h; exact .giveUp hw
  · rename_i job call time written hw
    cases h
    exact .answerDelete hw
  · cases h

/-- Every step that is taken is a transition. -/
theorem transition_of_step? {s t : Pool} {x : Step} (h : s.step? x = some t) :
    Transition s x t := by
  cases x with
  | send event =>
    simp only [Pool.step?, Queue.push?] at h
    split at h
    · rename_i hroom
      cases hc : s.queue.closed with
      | true => simp [hc] at h
      | false =>
        simp only [hc, Bool.false_eq_true, if_false, Option.map_some, Option.some.injEq] at h
        rw [← h, ← hc]
        exact .send hroom hc
    · cases h
  | close => cases h; exact .close
  | take i =>
    simp only [Pool.step?] at h
    split at h
    · rename_i event rest hw hq
      cases h
      exact .take hw hq
    · cases h
  | begin_ i =>
    simp only [Pool.step?] at h
    split at h
    · rename_i job hw
      cases h
      exact .begin_ hw
    · cases h
  | advance i =>
    simp only [Pool.step?] at h
    split at h
    · rename_i job state time written hw
      split at h
      · rename_i hr
        cases h
        exact .advance hw hr
      · cases h
    · cases h
  | carryOut i =>
    simp only [Pool.step?] at h
    split at h
    · rename_i job rules call time hw
      cases h
      exact .carryOut hw
    · cases h
  | carryOutLate j =>
    simp only [Pool.step?] at h
    split at h
    · rename_i u hl
      cases h
      exact .carryOutLate hl
    · cases h
  | answer i a => exact transition_of_answer? h
  | finish i =>
    simp only [Pool.step?] at h
    split at h
    · rename_i job o time written hw
      cases h
      exact .finish hw
    · cases h
  | stop i =>
    simp only [Pool.step?] at h
    split at h
    · rename_i hw
      split at h
      · rename_i hs
        simp only [Bool.and_eq_true, List.isEmpty_iff] at hs
        cases h
        exact .stop hw hs.1 hs.2
      · cases h
    · cases h
  | exchange rules => cases h; exact .exchange
  | setClock time => cases h; exact .setClock

/-- Giving up a write changes no more than what is late. -/
theorem giveUp_eq (s : Pool) (written : Bool) (u : Upsert) :
    s.giveUp written u = { s with late := if written then s.late else u :: s.late } := by
  cases written <;> rfl

/-- What the transitions of a run keep holds after it, where all steps of the run are of a certain
kind. -/
theorem run_induction_of {P : Pool → Prop} {Q : Step → Prop}
    (hstep : ∀ s x t, P s → Q x → Transition s x t → P t) :
    ∀ {steps : List Step} {s t : Pool}, (∀ x ∈ steps, Q x) → P s → s.run? steps = some t → P t
  | [], s, t, _, hs, h => by cases h; exact hs
  | x :: steps, s, t, hq, hs, h => by
    obtain ⟨s', hx, h⟩ := Option.bind_eq_some_iff.mp h
    obtain ⟨hqx, hq⟩ := List.forall_mem_cons.mp hq
    exact run_induction_of hstep hq (hstep s x s' hs hqx (transition_of_step? hx)) h

/-- What every transition keeps holds after every run. -/
theorem run_induction {P : Pool → Prop} (hstep : ∀ s x t, P s → Transition s x t → P t)
    {steps : List Step} {s t : Pool} (hs : P s) (h : s.run? steps = some t) : P t :=
  run_induction_of (Q := fun _ => True) (fun s x t hs _ => hstep s x t hs) (fun _ _ => trivial) hs h

end ClusterArchive.Proofs.Sink.Steps
