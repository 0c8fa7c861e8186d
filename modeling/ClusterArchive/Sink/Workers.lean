import ClusterArchive.Archive.Store
import ClusterArchive.Sink.Processing
import ClusterArchive.Sink.Receiver

/-!
# Workers

Any number of workers take events from one queue and process one event at a time; there is always at
least one worker. Each holds the event that it works on, so a step of the sink is a step of one part
of it: an event is put into the queue while there is room, a worker takes one, processing goes on, a
write is carried out, a call is answered, the rules are exchanged, the clock is set, the queue is
closed, a worker stops. The rules that an event is judged by are those in force when a worker begins
with it.

A write is carried out apart from its answer: one that was given up may still be carried out
afterwards. What happens is kept in a log, the latest first.
-/

namespace ClusterArchive.Sink

/-- An event that a worker has taken; events are numbered in the order in which they are taken. -/
structure Job where
  number : Nat
  event : Envelope
deriving DecidableEq, Repr

/-- A worker: idle, stopped, or with an event that it has taken; once it has begun with the event,
where processing stands, the time of the last step and whether the write has been carried out. -/
inductive Worker
  | idle
  | holding (job : Job)
  | busy (job : Job) (state : Processing) (time : Nat) (written : Bool)
  | stopped

/-- A write on its way to the archive: whose it is, what is written, and the time of the call. -/
structure Upsert where
  job : Job
  call : WriteCall
  time : Nat

/-- What has happened: an event was put into the queue, taken by a worker, written to the archive,
sent to the cluster for deletion, or dealt with. -/
inductive Entry
  | sent (event : Envelope)
  | taken (worker : Nat) (job : Job)
  | wrote (job : Job) (call : WriteCall)
  | deleted (job : Job) (call : DeleteCall)
  | processed (worker : Nat) (job : Job) (outcome : Outcome)

/-- The sink: the rules in force, the queue with its capacity, the workers, the archive, the clock,
the writes that were given up, how many events were taken, and the log. -/
structure Pool where
  rules : Policy.RuleSet
  capacity : Nat
  queue : Queue
  workers : List Worker
  store : Archive.Store
  clock : Nat
  late : List Upsert
  taken : Nat
  log : List Entry

/-- A step of the sink. -/
inductive Step
  | send (event : Envelope)
  | close
  | take (worker : Nat)
  | begin_ (worker : Nat)
  | advance (worker : Nat)
  | carryOut (worker : Nat)
  | carryOutLate (index : Nat)
  | answer (worker : Nat) (a : Answer)
  | finish (worker : Nat)
  | stop (worker : Nat)
  | exchange (rules : Policy.RuleSet)
  | setClock (time : Nat)

/-- How many workers there are if some number is asked for. -/
def workerCount (asked : Nat) : Nat := max asked 1

/-- The deletion that is sent when processing comes to a state. -/
def Entry.ofDeletion (job : Job) : Processing → List Entry
  | .deleting call => [.deleted job call]
  | _ => []

namespace Pool

/-- The sink at the beginning, with an archive as it was left. -/
def opened (store : Archive.Store) (rules : Policy.RuleSet) (workers capacity : Nat) : Pool :=
  { rules
    capacity
    queue := .empty
    workers := List.replicate (workerCount workers) .idle
    store
    clock := 0
    late := []
    taken := 0
    log := [] }

/-- The sink at the beginning, with a new archive. -/
def start (rules : Policy.RuleSet) (workers capacity : Nat) : Pool :=
  opened [] rules workers capacity

/-- The writes that were carried out, the latest first. -/
def writes (s : Pool) : List WriteCall :=
  s.log.filterMap fun
    | .wrote _ call => some call
    | _ => none

/-- The deletions that were sent, the latest first. -/
def deletes (s : Pool) : List DeleteCall :=
  s.log.filterMap fun
    | .deleted _ call => some call
    | _ => none

/-- The sink with one worker changed. -/
def withWorker (s : Pool) (i : Nat) (w : Worker) : Pool := { s with workers := s.workers.set i w }

/-- The sink with more in its log. -/
def record (s : Pool) (entries : List Entry) : Pool := { s with log := entries ++ s.log }

/-- Carries out a write. -/
def commit (s : Pool) (u : Upsert) : Pool :=
  { s with store := s.store.write u.call.resource u.call.payload u.time }.record
    [.wrote u.job u.call]

/-- Gives up a write, which is late if it has not been carried out before. -/
def giveUp (s : Pool) (written : Bool) (u : Upsert) : Pool :=
  if written then s else { s with late := u :: s.late }

/-- Whether a write may be answered so: it succeeds only if it has been carried out, and fails only
if it has not been. -/
def answers (written : Bool) : Answer → Bool
  | .success => written
  | .failure => !written
  | .timeout => true

/-- Answers the call of a worker. -/
def answer? (s : Pool) (i : Nat) (a : Answer) : Option Pool :=
  match s.workers[i]? with
  | some (.busy job (.writing rules call) time written) =>
    let s := if a = .timeout then s.giveUp written ⟨job, call, time⟩ else s
    if answers written a then
      some (s.withWorker i (.busy job ((Processing.writing rules call).resume a) time written))
    else none
  | some (.busy job (.deleting call) time written) =>
    some (s.withWorker i (.busy job ((Processing.deleting call).resume a) time written))
  | _ => none

/-- The sink after a step, if the step can be taken. -/
def step? (s : Pool) : Step → Option Pool
  | .send event =>
    if s.queue.waiting.length < s.capacity then
      (s.queue.push? event).map fun q => { s with queue := q }.record [.sent event]
    else none
  | .close => some { s with queue := { s.queue with closed := true } }
  | .take i =>
    match s.workers[i]?, s.queue.waiting with
    | some .idle, event :: rest =>
      let job : Job := ⟨s.taken, event⟩
      let s := { s with queue := { s.queue with waiting := rest }, taken := s.taken + 1 }
      some ((s.record [.taken i job]).withWorker i (.holding job))
    | _, _ => none
  | .begin_ i =>
    match s.workers[i]? with
    | some (.holding job) =>
      some (s.withWorker i (.busy job (.received s.rules job.event) s.clock false))
    | _ => none
  | .advance i =>
    match s.workers[i]? with
    | some (.busy job state _ written) =>
      if state.isReady then
        some ((s.record (Entry.ofDeletion job state.advance)).withWorker i
          (.busy job state.advance s.clock written))
      else none
    | _ => none
  | .carryOut i =>
    match s.workers[i]? with
    | some (.busy job (.writing rules call) time false) =>
      some ((s.commit ⟨job, call, time⟩).withWorker i (.busy job (.writing rules call) time true))
    | _ => none
  | .carryOutLate j =>
    match s.late[j]? with
    | some u => some ({ s with late := s.late.eraseIdx j }.commit u)
    | none => none
  | .answer i a => s.answer? i a
  | .finish i =>
    match s.workers[i]? with
    | some (.busy job (.finished o) _ _) =>
      some ((s.record [.processed i job o]).withWorker i .idle)
    | _ => none
  | .stop i =>
    match s.workers[i]? with
    | some .idle =>
      if s.queue.closed && s.queue.waiting.isEmpty then some (s.withWorker i .stopped) else none
    | _ => none
  | .exchange rules => some { s with rules }
  | .setClock time => some { s with clock := time }

/-- The sink after steps taken one after another, if all of them can be taken. -/
def run? (s : Pool) : List Step → Option Pool
  | [] => some s
  | step :: rest => (s.step? step).bind fun s => s.run? rest

/-- The steps by which a worker deals with an event from the beginning to the end, when the calls of
the given trace are made and answered in time. -/
def stepsFor (i : Nat) (e : Envelope) (t : Trace) : List Step :=
  [.send e, .take i, .begin_ i,
    .advance i] ++ (if t.outcome = .malformed then [] else [.advance i]) ++
    (if t.write.isSome then [.carryOut i, .answer i .success, .advance i] else []) ++
    (if t.delete.isSome then [.answer i .success] else []) ++ [.finish i]

/-- The steps by which workers deal with events in turn, one event after another, and then stop. -/
def stepsInTurn (rules : Policy.RuleSet) (workers : Nat) (events : List Envelope) : List Step :=
  let n := workerCount workers
  (events.zipIdx.flatMap fun (e, k) => stepsFor (k % n) e (process rules e .success .success)) ++
    .close :: (List.range n).map .stop

end Pool

end ClusterArchive.Sink
