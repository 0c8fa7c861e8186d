import ClusterArchive.Proofs.Sink.Judgement
import ClusterArchive.Proofs.Sink.Schedules
import Mathlib.Algebra.GroupWithZero.Nat

/-! # Every run can be brought to its end

`work` is how many steps the workers have before them at most, the events that wait included. Every
step of a worker leaves less of it, whatever it is and however calls are answered (`work_lt`), and
once the queue is closed, a worker that has not stopped can go on (`exists_step`). So no state is a
dead end, and a closed queue is emptied within `work` steps (`exists_end`). -/

namespace ClusterArchive.Proofs.Sink.Progress

open ClusterArchive.Sink ClusterArchive.Proofs.Sink.Steps ClusterArchive.Proofs.Sink.Judgement
open ClusterArchive.Proofs.Sink.Accounts ClusterArchive.Proofs.Sink.Schedules

/-- Whether a step is that of a worker. -/
def ofWorker : Step → Bool
  | .take _ | .begin_ _ | .advance _ | .carryOut _ | .answer _ _ | .finish _ | .stop _ => true
  | .send _ | .close | .carryOutLate _ | .exchange _ | .setClock _ => false

/-- How many steps a worker has before it at most, until it stops. -/
def stepsOf : Worker → Nat
  | .stopped => 0
  | .idle => 1
  | .busy _ state _ carriedOut => 2 * state.stepsLeft + (if carriedOut then 0 else 1) + 2
  | .holding _ => 14

/-- How many steps the workers have before them at most: an event that waits is taken, and then the
worker is idle again. -/
def work (s : Pool) : Nat := 14 * s.queue.waiting.length + (s.workers.map stepsOf).sum

theorem sum_stepsOf_set {workers : List Worker} {i : Nat} {w₀ : Worker}
    (hw : workers[i]? = some w₀) (w : Worker) :
    ((workers.set i w).map stepsOf).sum + stepsOf w₀ = (workers.map stepsOf).sum + stepsOf w := by
  rw [List.map_set]
  refine sum_set _ ?_
  rw [List.getElem?_map, hw, Option.map_some]

theorem stepsLeft_advance {state : Processing} (hr : state.isReady = true) :
    state.advance.stepsLeft + 1 ≤ state.stepsLeft := by
  have hn := stepsLeft_next .success .success state
  cases state with
  | received | decoded | written =>
    simp only [Processing.next, Processing.answer?, Processing.stepsLeft] at hn ⊢
    omega
  | _ => cases hr

/-- A worker that moves, while nothing is taken, has fewer steps before it. -/
theorem work_lt_of_set {s t : Pool} {i : Nat} {w₀ w : Worker} (hw : s.workers[i]? = some w₀)
    (ht : t.workers = s.workers.set i w) (hq : t.queue = s.queue) (hl : stepsOf w < stepsOf w₀) :
    work t < work s := by
  have hs := sum_stepsOf_set hw w
  simp only [work, ht, hq]
  omega

/-- A step of a worker leaves less work, and a closed queue stays closed. -/
theorem work_lt {s t : Pool} {x : Step} (hx : Transition s x t) (hof : ofWorker x = true) :
    work t < work s ∧ t.queue.closed = s.queue.closed := by
  cases hx with
  | @take i event rest hw hq =>
    have hs := sum_stepsOf_set hw (.holding ⟨s.taken, event⟩)
    refine ⟨?_, rfl⟩
    simp only [work, hq, Pool.withWorker, Pool.record, List.length_cons, stepsOf] at hs ⊢
    omega
  | begin_ hw => exact ⟨work_lt_of_set hw rfl rfl (by simp [stepsOf, Processing.stepsLeft]), rfl⟩
  | advance hw hr =>
    have hl := stepsLeft_advance hr
    refine ⟨work_lt_of_set hw rfl rfl ?_, rfl⟩
    simp only [stepsOf]
    omega
  | carryOut hw => exact ⟨work_lt_of_set hw rfl rfl (by simp [stepsOf]), rfl⟩
  | succeed hw => exact ⟨work_lt_of_set hw rfl rfl (by simp [stepsOf, Processing.stepsLeft]), rfl⟩
  | fail hw => exact ⟨work_lt_of_set hw rfl rfl (by simp [stepsOf, Processing.stepsLeft]), rfl⟩
  | giveUp hw =>
    rw [giveUp_eq]
    exact ⟨work_lt_of_set hw rfl rfl (by simp [stepsOf, Processing.stepsLeft]), rfl⟩
  | answerDelete hw =>
    exact ⟨work_lt_of_set hw rfl rfl (by simp [stepsOf, Processing.stepsLeft]), rfl⟩
  | finish hw => exact ⟨work_lt_of_set hw rfl rfl (by simp [stepsOf]), rfl⟩
  | stop hw _ _ => exact ⟨work_lt_of_set hw rfl rfl (by simp [stepsOf]), rfl⟩
  | _ => cases hof

/-- A step with which a worker goes on, where calls are answered with success. -/
def GoesOn (x : Step) : Prop := ofWorker x = true ∧ ∀ rules, Calm rules x

/-- A worker that holds an event can go on with it. -/
theorem exists_step_of_busy {s : Pool} {i : Nat} {job : Job} {state : Processing} {time : Nat}
    {b : Bool} (hw : s.workers[i]? = some (.busy job state time b)) :
    ∃ x t, s.step? x = some t ∧ GoesOn x := by
  have hadvance : state.isReady = true → ∃ x t, s.step? x = some t ∧ GoesOn x := fun hr =>
    ⟨.advance i, _, by simp only [Pool.step?, hw, hr, if_true]; rfl, rfl, fun _ => trivial⟩
  cases state with
  | received | decoded | written => exact hadvance rfl
  | writing rules call =>
    cases b with
    | false => exact ⟨.carryOut i, _, by simp only [Pool.step?, hw]; rfl, rfl, fun _ => trivial⟩
    | true =>
      exact ⟨.answer i .success, _, by simp only [Pool.step?, Pool.answer?, hw]; rfl, rfl,
        fun _ => rfl⟩
  | deleting call =>
    exact ⟨.answer i .success, _, by simp only [Pool.step?, Pool.answer?, hw]; rfl, rfl,
      fun _ => rfl⟩
  | finished o => exact ⟨.finish i, _, by simp only [Pool.step?, hw]; rfl, rfl, fun _ => trivial⟩

/-- A worker that has not stopped can go on, once the queue is closed. -/
theorem exists_step {s : Pool} (hc : s.queue.closed = true) (he : isEnded s = false) :
    ∃ x t, s.step? x = some t ∧ GoesOn x := by
  obtain ⟨w, hm, hn⟩ : ∃ w ∈ s.workers, isStopped w = false := by simpa [isEnded, hc] using he
  obtain ⟨i, hw⟩ := List.mem_iff_getElem?.mp hm
  cases w with
  | stopped => cases hn
  | busy job state time b => exact exists_step_of_busy hw
  | holding job => exact ⟨.begin_ i, _, by simp only [Pool.step?, hw]; rfl, rfl, fun _ => trivial⟩
  | idle =>
    cases hq : s.queue.waiting with
    | nil => exact ⟨.stop i, _, by simp only [Pool.step?, hw, hc, hq]; rfl, rfl, fun _ => trivial⟩
    | cons event rest =>
      exact ⟨.take i, _, by simp only [Pool.step?, hw, hq]; rfl, rfl, fun _ => trivial⟩

/-- **No state is a dead end**: once the queue is closed, the workers can go on until all have
stopped, with no more steps than there is work. -/
theorem exists_end : ∀ {s : Pool}, s.queue.closed = true →
    ∃ steps t, s.run? steps = some t ∧ isEnded t = true ∧ steps.length ≤ work s ∧
      ∀ x ∈ steps, GoesOn x := by
  intro s hc
  induction hn : work s using Nat.strong_induction_on generalizing s with
  | _ n ih =>
    cases he : isEnded s with
    | true => exact ⟨[], s, rfl, he, Nat.zero_le _, by simp⟩
    | false =>
      obtain ⟨x, s', hx, hg⟩ := exists_step hc he
      obtain ⟨hl, hc'⟩ := work_lt (transition_of_step? hx) hg.1
      obtain ⟨steps, t, hr, ht, hlen, hall⟩ := ih (work s') (hn ▸ hl) (hc'.trans hc) rfl
      refine ⟨x :: steps, t, ?_, ht, ?_, List.forall_mem_cons.mpr ⟨hg, hall⟩⟩
      · exact Option.bind_eq_some_iff.mpr ⟨s', hx, hr⟩
      · rw [List.length_cons]
        omega

end ClusterArchive.Proofs.Sink.Progress
