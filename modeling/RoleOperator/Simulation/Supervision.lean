import RoleOperator.Simulation.Script
import RoleOperator.Supervisor

/-!
# Simulated supervision

Tasks of known length under a supervisor. A task listens for the call to give up, or is deaf to it.
-/
namespace RoleOperator.Simulation

structure BackgroundTask where
  name : String
  deaf : Bool
  deriving Repr

inductive SupervisionMark where
  | done (name : String)
  | abandoned (name : String)
  | drained (inTime : Bool)
  deriving Repr

inductive SupervisionTimer where
  | ends (task : Nat)
  | expires (drain : Nat)
  deriving Repr

/-- Tasks and drains are known by their number in the order in which they began. -/
structure SupervisionRun where
  supervisor : Supervisor
  now : Nat := 0
  tasks : List BackgroundTask := []
  drains : Nat := 0
  timers : List (Timed SupervisionTimer) := []
  notes : List (Nat × SupervisionMark) := []
  deriving Repr

namespace SupervisionRun

def note (r : SupervisionRun) (m : SupervisionMark) : SupervisionRun :=
  { r with notes := r.notes ++ [(r.now, m)] }

/-- Note the drains that have returned. -/
def returned (r : SupervisionRun) (ds : List Supervisor.Drained) (s : Supervisor) :
    SupervisionRun :=
  ds.foldl (fun r d => r.note (.drained d.2)) { r with supervisor := s }

/-- A task that still runs ends with the mark. -/
def endTask (r : SupervisionRun) (mark : String → SupervisionMark) (i : Nat) : SupervisionRun :=
  if r.supervisor.running.contains i then
    let r := r.note (mark ((r.tasks[i]?.map (·.name)).getD ""))
    let (ds, s) := r.supervisor.finish i
    r.returned ds s
  else r

def isListening (r : SupervisionRun) (i : Nat) : Bool :=
  (r.tasks[i]?.map fun t => !t.deaf).getD false

/-- Once tasks have to give up, those that listen do, in the order in which they began. -/
def abandon (r : SupervisionRun) : SupervisionRun :=
  if r.supervisor.abandoned then
    (r.supervisor.running.filter r.isListening).foldl (endTask · .abandoned ·) r
  else r

def fire (r : SupervisionRun) : SupervisionTimer → SupervisionRun
  | .ends i => r.endTask .done i
  | .expires id => { r with supervisor := r.supervisor.expire id }.abandon

/-- Start a task; one without work is done before it could be told to give up. -/
def spawn (r : SupervisionRun) (task : BackgroundTask) (nanos : Nat) : SupervisionRun :=
  let i := r.tasks.length
  let r := { r with supervisor := r.supervisor.spawn i, tasks := r.tasks ++ [task] }
  if nanos = 0 then r.endTask .done i
  else
    let r := r.abandon
    { r with timers := r.timers ++ [⟨Duration.endOfWait r.now nanos, .ends i⟩] }

def stop (r : SupervisionRun) : SupervisionRun := { r with supervisor := r.supervisor.stop }

def drain (r : SupervisionRun) : SupervisionRun :=
  let id := r.drains
  let (ds, s) := r.supervisor.drain Duration.endOfWait id r.now
  let r := { r with drains := id + 1 }.returned ds s
  if s.drains.any (·.id = id) then
    if s.grace.isZero then r.fire (.expires id)
    else
      let due := Duration.endOfWait r.now s.grace.nanos
      { r with timers := r.timers ++ [⟨due, .expires id⟩] }
  else r

/-- Let time pass up to `target`, through every timer on the way. -/
def advanceTo (target : Nat) : Nat → SupervisionRun → SupervisionRun
  | 0, r => r
  | fuel + 1, r =>
    match Timed.earliest? r.timers with
    | some due =>
      if due ≤ target then
        let (due', timers) := Timed.split due r.timers
        advanceTo target fuel (due'.foldl fire { r with now := due, timers := timers })
      else { r with now := target }
    | none => { r with now := target }

def advance (r : SupervisionRun) (nanos : Nat) : SupervisionRun :=
  advanceTo (Duration.endOfWait r.now nanos) patience r

end SupervisionRun
end RoleOperator.Simulation
