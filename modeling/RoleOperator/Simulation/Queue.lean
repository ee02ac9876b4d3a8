import RoleOperator.Simulation.Script
import RoleOperator.Queue.WorkQueue
import RoleOperator.Queue.Wakeups

/-!
# Simulated queue

A work queue on its own, with takers that wait for a key and retries that come back in time.
-/
namespace RoleOperator.Simulation

/-- What a taker got, when it did. -/
structure Taken where
  taker : String
  time : Nat
  key : Option String
  deriving Repr

/-- Takers are known by their index in `takers`. -/
structure QueueRun where
  queue : WorkQueue
  wakeups : Wakeups := {}
  now : Nat := 0
  retries : List (Timed String) := []
  takers : List String := []
  taken : List Taken := []
  deriving Repr

/-- What a single look at the queue finds. -/
inductive Look where
  | key (key : String)
  | down
  | pending
  deriving DecidableEq, Repr

namespace QueueRun

/-- Listen, look once, and stay in line if there was nothing. -/
def poll (r : QueueRun) (id : Nat) : Look × QueueRun :=
  let w := r.wakeups.listen id
  if r.queue.isDown then (.down, { r with wakeups := w.leave id })
  else
    match r.queue.take? with
    | some (key, q) => (.key key, { r with queue := q, wakeups := w.leave id })
    | none => (.pending, { r with wakeups := w })

/-- A taker's turn: poll until it has a key, finds the queue down or has to wait in line. -/
def turn : Nat → Nat → QueueRun → QueueRun
  | 0, _, r => r
  | fuel + 1, id, r =>
    let r := { r with wakeups := r.wakeups.consume id }
    let got := fun (r : QueueRun) key =>
      { r with taken := r.taken ++ [⟨(r.takers[id]?).getD "", r.now, key⟩] }
    match r.poll id with
    | (.key key, r) => got r (some key)
    | (.down, r) => got r none
    | (.pending, r) => if r.wakeups.waiting.contains id then r else turn fuel id r

/-- Run an operation on the wake-ups and let those who were woken go on. -/
def settle : Nat → List Nat → QueueRun → QueueRun
  | 0, _, r => r
  | _, [], r => r
  | fuel + 1, id :: rest, r =>
    let before := r.wakeups.waiting
    let r := turn patience id r
    let woken := before.filter fun i => !r.wakeups.waiting.contains i
    settle fuel (rest ++ woken.filter (!rest.contains ·)) r

def changed (r : QueueRun) (before : List Nat) : QueueRun :=
  settle patience (before.filter fun i => !r.wakeups.waiting.contains i) r

def add (r : QueueRun) (key : String) : QueueRun :=
  let (isNew, q) := r.queue.add key
  let w := if isNew then r.wakeups.wakeOne else r.wakeups
  { r with queue := q, wakeups := w }.changed r.wakeups.waiting

def done (r : QueueRun) (key : String) : QueueRun :=
  let (again, q) := r.queue.done key
  let w := if again then r.wakeups.wakeOne else r.wakeups
  { r with queue := q, wakeups := w }.changed r.wakeups.waiting

/-- A look by someone who does not wait. -/
def get (r : QueueRun) : Look × QueueRun :=
  let id := r.takers.length
  let (look, r) := { r with takers := r.takers ++ [""] }.poll id
  (look, { r with wakeups := r.wakeups.leave id })

/-- Somebody comes to take one key. -/
def wait (r : QueueRun) (name : String) : QueueRun :=
  turn patience r.takers.length { r with takers := r.takers ++ [name] }

def fail (r : QueueRun) (key : String) : Duration × QueueRun :=
  let (delay, q) := r.queue.fail key
  let r := { r with queue := q }
  (delay, if delay.isZero then r.add key
    else { r with retries := r.retries ++ [⟨Duration.endOfWait r.now delay.nanos, key⟩] })

def shutDown (r : QueueRun) : QueueRun :=
  { r with queue := r.queue.shutDown, wakeups := r.wakeups.wakeAll }.changed r.wakeups.waiting

/-- Let time pass up to `target`, through every retry on the way. -/
def advanceTo (target : Nat) : Nat → QueueRun → QueueRun
  | 0, r => r
  | fuel + 1, r =>
    match Timed.earliest? r.retries with
    | some due =>
      if due ≤ target then
        let (keys, retries) := Timed.split due r.retries
        advanceTo target fuel (keys.foldl add { r with now := due, retries := retries })
      else { r with now := target }
    | none => { r with now := target }

def advance (r : QueueRun) (nanos : Nat) : QueueRun :=
  advanceTo (Duration.endOfWait r.now nanos) patience r

end QueueRun
end RoleOperator.Simulation
