import RoleOperator.Simulation.Script
import RoleOperator.Dispatch.Dispatcher

/-!
# Simulated dispatcher

Runs a dispatcher with some handler under a clock that moves only when nothing else can. Tasks run
one after the other until they have to wait, in the order in which they were woken.
-/
namespace RoleOperator.Simulation

/-- What a handler shows of a call. -/
inductive HandlerMark where
  | start | ok | failed
  deriving DecidableEq, Repr

structure HandlerNote where
  time : Nat
  mark : HandlerMark
  key : String
  deriving Repr

/-- A task that can go on. -/
inductive DispatchTask where
  | worker (i : Nat)
  | finish (i : Nat) (outcome : Outcome)
  | retry (r : Retry)
  deriving Repr

/-- How a call that begins now goes, and what is left behind. -/
abbrev Handler (σ : Type) := (key : ObjectKey) → (now : Nat) → σ → Outcome × σ

/-- The run of a dispatcher whose handler keeps a state. -/
structure DispatchRun (σ : Type) where
  dispatcher : Dispatcher
  handler : Handler σ
  state : σ
  inbox : List WatchEvent := []
  timers : List (Timed DispatchTask) := []
  ready : List DispatchTask := []
  notes : List HandlerNote := []

/-- Outcomes for some keys, and one outcome for all other calls. -/
structure HandlerScript where
  keys : List (String × List Outcome) := []
  after : Outcome := {}
  deriving Repr

/-- The next outcome for a key. -/
def HandlerScript.next : Handler HandlerScript := fun key _ s =>
  match s.keys.lookup key.text with
  | some (o :: rest) =>
    (o, { s with keys := s.keys.map fun k => if k.1 = key.text then (key.text, rest) else k })
  | _ => (s.after, s)

namespace DispatchRun

variable {σ : Type}

/-- Take a step of the machine, if possible, and note who was woken and which retries began. -/
def act (r : DispatchRun σ) (a : Dispatcher.Action) : DispatchRun σ :=
  match r.dispatcher.step a with
  | none => r
  | some d =>
    let old := r.dispatcher
    let woken := old.wakeups.waiting.filter fun i =>
      !d.wakeups.waiting.contains i && d.workers[i]? = some .asleep
    let begun := d.retries.drop old.retries.length
    { r with
      dispatcher := d
      ready := r.ready ++ woken.map .worker
      timers := r.timers ++ begun.map fun x => ⟨x.due, .retry x⟩ }

def note (r : DispatchRun σ) (mark : HandlerMark) (key : String) : DispatchRun σ :=
  { r with notes := r.notes ++ [⟨r.dispatcher.now, mark, key⟩] }

/-- The end of a handler call, as it shows and as the dispatcher learns of it. -/
def finish (r : DispatchRun σ) (i : Nat) (o : Outcome) : DispatchRun σ :=
  match r.dispatcher.workers[i]? with
  | some (.handling _ key) =>
    if o.crashes then r.act (.finish i .crashed)
    else
      match o.fault with
      | none => (r.note .ok key.text).act (.finish i .ok)
      | some _ => (r.note .failed key.text).act (.finish i .failed)
  | _ => r

/-- Let a worker go on until it has to wait. -/
def turn : Nat → Nat → DispatchRun σ → DispatchRun σ
  | 0, _, r => r
  | fuel + 1, i, r =>
    match r.dispatcher.workers[i]? with
    | some .idle => turn fuel i (r.act (.listen i))
    | some .listening => turn fuel i (r.act (.look i))
    | some .asleep =>
      if r.dispatcher.wakeups.waiting.contains i then r else turn fuel i (r.act (.wake i))
    | some (.reporting _) =>
      let r := r.act (.report i)
      match r.dispatcher.workers[i]? with
      | some (.handling _ key) =>
        let (o, s) := r.handler key r.dispatcher.now r.state
        let r := { r.note .start key.text with state := s }
        if o.delay = 0 then turn fuel i (r.finish i o)
        else
          let due := Duration.endOfWait r.dispatcher.now o.delay
          { r with timers := r.timers ++ [⟨due, .finish i o⟩] }
      | _ => turn fuel i r
    | some (.settled _) => turn fuel i (r.act (.release i))
    | _ => r

def runTask (r : DispatchRun σ) : DispatchTask → DispatchRun σ
  | .worker i => turn patience i r
  | .finish i o => turn patience i (r.finish i o)
  | .retry x => r.act (.fire x)

/-- Run all tasks as far as they can. -/
def settle : Nat → DispatchRun σ → DispatchRun σ
  | 0, r => r
  | fuel + 1, r =>
    match r.ready with
    | [] => r
    | t :: rest => settle fuel ({ r with ready := rest }.runTask t)

/-- Take in the events that have arrived, then let everyone run. -/
def quiesce (r : DispatchRun σ) : DispatchRun σ :=
  let events := r.inbox
  let r := events.foldl (fun r e => (r.act (.event e)).act .reportIntake) { r with inbox := [] }
  settle patience r

def goTo (r : DispatchRun σ) (time : Nat) : DispatchRun σ :=
  r.act (.elapse (time - r.dispatcher.now))

/-- Let time pass up to `target`, through every timer on the way. -/
def advanceTo (target : Nat) : Nat → DispatchRun σ → DispatchRun σ
  | 0, r => r
  | fuel + 1, r =>
    match Timed.earliest? r.timers with
    | some due =>
      if due ≤ target then
        let r := r.goTo due
        let (tasks, timers) := Timed.split due r.timers
        advanceTo target fuel
          (settle patience { r with ready := r.ready ++ tasks, timers := timers })
      else r.goTo target
    | none => r.goTo target

def advance (r : DispatchRun σ) (nanos : Nat) : DispatchRun σ :=
  advanceTo (Duration.endOfWait r.dispatcher.now nanos) patience r.quiesce

/-- Let time pass until the dispatcher has returned. -/
def await : Nat → DispatchRun σ → DispatchRun σ
  | 0, r => r
  | fuel + 1, r =>
    if r.dispatcher.isFinished then r
    else
      match Timed.earliest? r.timers with
      | some due => await fuel (r.advance (due - r.dispatcher.now))
      | none => r

/-- All workers have been started. -/
def start (d : Dispatcher) (handler : Handler σ) (state : σ) : DispatchRun σ :=
  quiesce {
    dispatcher := d, handler, state
    ready := (List.range d.workers.length).map .worker }

end DispatchRun
end RoleOperator.Simulation
