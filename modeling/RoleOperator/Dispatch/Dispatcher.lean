import RoleOperator.Dispatch.ChangeFilter
import RoleOperator.Queue.WorkQueue
import RoleOperator.Queue.Wakeups
import RoleOperator.Settings

/-!
# Dispatcher

Events become keys on the work queue, and a fixed number of workers hand each key to a handler. The
dispatcher is a state with one action for each step that a task takes without being interrupted:
actions of different workers, of the event loop and of retry timers may come in any order. What a task
does before and after it holds the queue are different actions, even where it is not suspended in
between, because a task on another processor may come in.
-/
namespace RoleOperator

/-- Where a worker stands. A worker listens for wake-ups before it looks at the queue, so that no
key added in between is missed. -/
inductive Worker where
  | idle
  | listening
  | asleep
  | reporting (raw : String)
  | handling (raw : String) (key : ObjectKey)
  | settled (raw : String)
  | stopped
  | crashed (raw : String)
  deriving DecidableEq, Repr

/-- How a handler call ends. -/
inductive HandlerOutcome where
  | ok
  | failed
  | crashed
  deriving DecidableEq, Repr

/-- A failed key on its way back to the queue. -/
structure Retry where
  due : Nat
  key : String
  deriving DecidableEq, Repr

/-- Where the event loop stands: after an accepted event it still has to report the depth. -/
inductive Intake where
  | watching
  | reporting
  | ended
  | stopped
  deriving DecidableEq, Repr

/-- `now` is in nanoseconds. `depth` is what was last reported as the queue's depth. -/
structure Dispatcher where
  maxRequeues : Nat
  queue : WorkQueue
  wakeups : Wakeups := {}
  filter : ChangeFilter := {}
  intake : Intake := .watching
  workers : List Worker
  retries : List Retry := []
  now : Nat := 0
  depth : Option Nat := none
  requeued : Nat := 0
  dropped : Nat := 0
  deriving Repr

namespace Dispatcher

/-- One uninterrupted step of some task. -/
inductive Action where
  | event (e : WatchEvent)
  | reportIntake
  | streamEnd
  | add (key : String)
  | listen (worker : Nat)
  | look (worker : Nat)
  | wake (worker : Nat)
  | report (worker : Nat)
  | finish (worker : Nat) (outcome : HandlerOutcome)
  | release (worker : Nat)
  | fire (retry : Retry)
  | elapse (nanos : Nat)
  | stop
  deriving Repr

def ofSettings (s : DispatchSettings) : Dispatcher where
  maxRequeues := s.maxRequeues
  queue := { baseDelay := s.baseDelay, maxDelay := s.maxDelay }
  workers := List.replicate s.workers .idle

/-- Put a key on the queue and wake a worker for it. -/
def enqueue (d : Dispatcher) (key : String) : Dispatcher :=
  let (isNew, q) := d.queue.add key
  { d with queue := q, wakeups := if isNew then d.wakeups.wakeOne else d.wakeups }

def giveBack (d : Dispatcher) (key : String) : Dispatcher :=
  let (again, q) := d.queue.done key
  { d with queue := q, wakeups := if again then d.wakeups.wakeOne else d.wakeups }

/-- Read how many keys wait and report that, in one step: nobody else changes the queue or reports
between the reading and the report. The task is not suspended there. -/
def reportDepth (d : Dispatcher) : Dispatcher := { d with depth := some d.queue.depth }

def setWorker (d : Dispatcher) (i : Nat) (w : Worker) : Dispatcher :=
  { d with workers := d.workers.set i w }

/-- Bring a failed key back after its delay, at once if there is none. -/
def retry (d : Dispatcher) (key : String) : Dispatcher :=
  let (delay, q) := d.queue.fail key
  let d := { d with queue := q, requeued := d.requeued + 1 }
  if delay.isZero then d.enqueue key
  else { d with retries := d.retries ++ [⟨Duration.endOfWait d.now delay.nanos, key⟩] }

/-- What follows from a handler's outcome before the key is given back. -/
def settle (d : Dispatcher) (raw : String) : HandlerOutcome → Dispatcher
  | .ok => { d with queue := d.queue.forget raw }
  | .failed =>
    if d.queue.requeues raw < d.maxRequeues then d.retry raw
    else { d with queue := d.queue.forget raw, dropped := d.dropped + 1 }
  | .crashed => d

/-- A worker's look at the queue after it began to listen. -/
def look (d : Dispatcher) (i : Nat) : Dispatcher :=
  if d.queue.isDown then { d with wakeups := d.wakeups.leave i }.setWorker i .stopped
  else
    match d.queue.take? with
    | some (raw, q) =>
      { d with queue := q, wakeups := d.wakeups.leave i }.setWorker i (.reporting raw)
    | none => d.setWorker i .asleep

/-- The state after an action, or nothing if the action is not possible now. -/
def step (d : Dispatcher) : Action → Option Dispatcher
  | .event e =>
    if d.intake = .watching then
      let (key, f) := d.filter.observe e
      let d := { d with filter := f }
      match key with
      | some k => some { d.enqueue k with intake := .reporting }
      | none => some d
    else none
  | .reportIntake =>
    if d.intake = .reporting then some { d.reportDepth with intake := .watching } else none
  | .streamEnd => if d.intake = .watching then some { d with intake := .ended } else none
  | .add key => some (d.enqueue key)
  | .listen i =>
    if d.workers[i]? = some .idle then
      some ({ d with wakeups := d.wakeups.listen i }.setWorker i .listening)
    else none
  | .look i => if d.workers[i]? = some .listening then some (d.look i) else none
  | .wake i =>
    if d.workers[i]? = some .asleep && !d.wakeups.waiting.contains i then
      some ({ d with wakeups := d.wakeups.consume i }.setWorker i .idle)
    else none
  | .report i =>
    match d.workers[i]? with
    | some (.reporting raw) =>
      let d := d.reportDepth
      match ObjectKey.parse? raw with
      | some key => some (d.setWorker i (.handling raw key))
      | none => some ({ d with queue := d.queue.forget raw }.setWorker i (.settled raw))
    | _ => none
  | .finish i outcome =>
    match d.workers[i]? with
    | some (.handling raw _) =>
      let next := if outcome = .crashed then Worker.crashed raw else Worker.settled raw
      some ((d.settle raw outcome).setWorker i next)
    | _ => none
  | .release i =>
    match d.workers[i]? with
    | some (.settled raw) => some ((d.giveBack raw).setWorker i .idle)
    | _ => none
  | .fire r =>
    if r ∈ d.retries ∧ r.due ≤ d.now then
      some ({ d with retries := d.retries.erase r }.enqueue r.key)
    else none
  | .elapse nanos => some { d with now := d.now + nanos }
  | .stop =>
    if d.intake = .watching || d.intake = .ended then
      some { d with
        intake := .stopped, queue := d.queue.shutDown, wakeups := d.wakeups.wakeAll }
    else none

/-- Run a list of actions. -/
def run (d : Dispatcher) : List Action → Option Dispatcher
  | [] => some d
  | a :: rest => (d.step a).bind fun d => d.run rest

/-- The dispatcher returns when it was stopped and every worker has ended. -/
def isFinished (d : Dispatcher) : Bool :=
  d.intake = .stopped && d.workers.all fun
    | .stopped | .crashed _ => true
    | _ => false

/-- Raw keys of the handler calls in flight. -/
def inFlight (d : Dispatcher) : List String :=
  d.workers.filterMap fun
    | .handling raw _ => some raw
    | _ => none

end Dispatcher
end RoleOperator
