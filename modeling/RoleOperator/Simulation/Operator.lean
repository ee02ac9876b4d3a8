import RoleOperator.Cluster.WatchMessage
import RoleOperator.Simulation.ScriptedServer
import RoleOperator.Simulation.Crew
import RoleOperator.Simulation.Dispatch

/-!
# Simulated operator

The whole operator for one kind: a follower feeds the dispatcher, whose handler reconciles against
the simulated cluster, while finalizations run in the background. Time is virtual throughout.
-/
namespace RoleOperator.Simulation

/-- `resumeAt` is when a follower that lost its watch tries again. -/
structure OperatorRun where
  dispatch : DispatchRun (Crew ClusterWorld)
  follower : Cluster.Follower := .starting
  resumeAt : Option Nat := none

/-- A reconcile in the foreground, as the dispatcher's handler. -/
def reconcileNow : Handler (Crew ClusterWorld) := fun key now crew =>
  let (id, crew) := { crew with now := max crew.now now }.startReconcile key false
  let crew := crew.quiesce
  match crew.results.lookup id with
  | some (.error e) => ({ fault := some e }, crew)
  | _ => ({}, crew)

namespace OperatorRun

def crew (r : OperatorRun) : Crew ClusterWorld := r.dispatch.state

def mapCrew (f : Crew ClusterWorld → Crew ClusterWorld) (r : OperatorRun) : OperatorRun :=
  { r with dispatch := { r.dispatch with state := f r.dispatch.state } }

def mapServer (f : ApiServer → ApiServer) (r : OperatorRun) : OperatorRun :=
  r.mapCrew fun c => { c with world := { c.world with server := f c.world.server } }

/-- Let the cache follow events, then the dispatcher, then everyone. -/
def deliver (events : List WatchEvent) (r : OperatorRun) : OperatorRun :=
  let r := r.mapCrew fun c =>
    { c with world := { c.world with cache := events.foldl ReadCache.observe c.world.cache } }
  { r with dispatch := { r.dispatch with inbox := r.dispatch.inbox ++ events }.quiesce }

def now (r : OperatorRun) : Nat := r.dispatch.dispatcher.now

/-- How long a follower that lost its watch pauses: eight tenths of a second. -/
def pauseAfterLoss : Nat := 800000000

/-- Messages on the watch. A follower that loses the watch by them pauses. -/
def report (messages : List Cluster.WatchMessage) (r : OperatorRun) : OperatorRun :=
  let (events, stage) := r.follower.hearAll messages
  let isLost := r.follower ≠ stage && stage = .starting
  { r with
    follower := stage
    resumeAt := if isLost then some (r.now + pauseAfterLoss) else r.resumeAt }.deliver events

/-- List and watch until the watch is open. -/
def follow : Nat → OperatorRun → OperatorRun
  | 0, r => r
  | fuel + 1, r =>
    match r.follower with
    | .watching _ => r
    | stage =>
      let server := r.crew.world.server
      let ((events, stage), server) := (stage.advance ApiServer.serve server.kind).run server
      follow fuel (({ r with follower := stage }.mapServer fun _ => server).deliver events)

/-- See that the kind can be listed, before anything is started. -/
def probe (server : ApiServer) : Except ClusterFault Unit × ApiServer :=
  let (result, server) := (Cluster.list ApiServer.serve server.kind 1 none).run server
  (result.map fun _ => (), server)

def start (d : Dispatcher) (crew : Crew ClusterWorld) : OperatorRun :=
  follow patience { dispatch := DispatchRun.start d reconcileNow crew }

/-- When something happens next. -/
def nextDue? (r : OperatorRun) : Option Nat :=
  [Timed.earliest? r.dispatch.timers, Timed.earliest? r.crew.timers, r.resumeAt].foldl
    (fun a b =>
      match a, b with
      | some a, some b => some (min a b)
      | a, b => a.or b) none

def goTo (due : Nat) (r : OperatorRun) : OperatorRun :=
  let r := r.mapCrew (Crew.advanceTo due patience)
  let r := { r with dispatch := r.dispatch.advance (due - r.now) }
  if r.resumeAt.any (· ≤ due) then follow patience { r with resumeAt := none } else r

/-- Let time pass until the condition holds, or up to a limit; says whether it held. -/
def waitUntil (p : OperatorRun → Bool) (limit : Nat) : Nat → OperatorRun → Bool × OperatorRun
  | 0, r => (false, r)
  | fuel + 1, r =>
    if p r then (true, r)
    else
      match r.nextDue? with
      | some due =>
        if due ≤ limit then waitUntil p limit fuel (r.goTo due) else (false, r.goTo limit)
      | none => (false, r.goTo limit)

/-- How long a condition is waited for: five seconds. -/
def waitLimit : Nat := 5000000000

def wait (p : OperatorRun → Bool) (r : OperatorRun) : Bool × OperatorRun :=
  waitUntil p (r.now + waitLimit) patience r

/-- Stop the dispatcher, then wait for what runs behind it; says whether that ended in time. -/
def shutDown (r : OperatorRun) : Bool × OperatorRun :=
  let stopped := DispatchRun.await patience (r.dispatch.act .stop).quiesce
  let (id, crew) := stopped.state.drain
  let crew := crew.await fun c => c.drained.any (·.1 = id)
  ((crew.drained.lookup id).getD false, { r with dispatch := { stopped with state := crew } })

end OperatorRun
end RoleOperator.Simulation
