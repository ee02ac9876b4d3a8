import RoleOperator.Simulation.Surroundings
import RoleOperator.Finalization
import RoleOperator.Reconcile
import RoleOperator.Supervisor

/-!
# Simulated crew

Runs reconciles and the finalizations that they start, under a supervisor and a clock that moves
only when everyone has to wait. Each task runs until a call takes time or it pauses.
-/
namespace RoleOperator.Simulation

/-- How often things happened. -/
structure Counts where
  reconciliations : Nat := 0
  errors : Nat := 0
  timed : Nat := 0
  finalizations : List (String × Nat) := []
  deriving Repr

/-- Count an outcome; outcomes are kept sorted. -/
def Counts.finalized (c : Counts) (o : Finalization.Outcome) : Counts :=
  let old := (c.finalizations.lookup o.text).getD 0
  { c with finalizations := (o.text, old + 1) :: c.finalizations.filter (·.1 ≠ o.text) }

/-- Something that can go on. -/
inductive Job where
  | reconcile (id : Nat) (program : Program (Except Fault Unit))
  | begin (id : Nat) (role : Role)
  | finalization (id : Nat) (f : Finalization)
  | wake (id : Nat)
  | expire (drain : Nat)
  | abandon

/-- Tasks and drains have numbers; `pauses` holds the finalizations between two attempts. -/
structure Crew (σ : Type) where
  answering : Answering σ
  world : σ
  now : Nat := 0
  settings : FinalizationSettings
  supervisor : Supervisor
  registry : Registry := {}
  counts : Counts := {}
  nextId : Nat := 0
  ready : List Job := []
  timers : List (Timed Job) := []
  pauses : List (Nat × Finalization) := []
  background : List Nat := []
  results : List (Nat × Except Fault Unit) := []
  outcomes : List (Nat × Finalization.Outcome) := []
  drained : List Supervisor.Drained := []
  notes : List (Nat × Note) := []

namespace Crew

variable {σ : Type}

def addNotes (c : Crew σ) (ns : List Note) : Crew σ :=
  { c with notes := c.notes ++ ns.map fun n => (c.now, n) }

def after (c : Crew σ) (delay : Nat) (job : Job) : Crew σ :=
  { c with timers := c.timers ++ [⟨Duration.endOfWait c.now delay, job⟩] }

/-- Hand a finalization over to the supervisor. -/
def spawn (c : Crew σ) (role : Role) : Crew σ :=
  { c with
    supervisor := c.supervisor.spawn c.nextId
    nextId := c.nextId + 1
    ready := c.ready ++ [.begin c.nextId role] }

/-- The answer to a call, how long it takes, and the crew afterwards. -/
def reply : (call : Call) → Crew σ → call.Answer × Nat × Crew σ
  | .finalize role, c => ((), 0, c.spawn role)
  | call, c =>
    let r := c.answering call c.world
    (r.answer, r.delay, { c with world := r.world }.addNotes r.notes)

/-- Run a program until it is done, or until a call takes time; then the rest of it is left. -/
def runProgram {α : Type} : Program α → Crew σ → (α ⊕ (Nat × Program α)) × Crew σ
  | .done a, c => (.inl a, c)
  | .ask call next, c =>
    let (x, delay, c) := c.reply call
    if delay = 0 then runProgram (next x) c else (.inr (delay, next x), c)

def finishReconcile (c : Crew σ) (id : Nat) (result : Except Fault Unit) : Crew σ :=
  let failed := match result with
    | .ok _ => 0
    | .error _ => 1
  let c := { c with
    results := c.results ++ [(id, result)]
    counts := { c.counts with timed := c.counts.timed + 1, errors := c.counts.errors + failed } }
  if c.background.contains id then c.addNotes [.reconciled result] else c

/-- A task in the background has ended, in whatever way. -/
def finishTask (c : Crew σ) (id : Nat) : Crew σ :=
  let (ds, s) := c.supervisor.finish id
  { c with supervisor := s, drained := c.drained ++ ds }

def finishFinalization (c : Crew σ) (id : Nat) (o : Finalization.Outcome) : Crew σ :=
  let c := c.finishTask id
  { c with outcomes := c.outcomes ++ [(id, o)], counts := c.counts.finalized o }

/-- Let a finalization go on until it pauses, ends or has to wait for an answer. -/
def runFinalization (id : Nat) : Nat → Finalization → Crew σ → Crew σ
  | 0, _, c => c
  | fuel + 1, f, c =>
    match f.stage with
    | .attempting p =>
      match runProgram p c with
      | (.inl a, c) =>
        runFinalization id fuel (f.afterAttempt c.now c.supervisor.abandoned a) c
      | (.inr (delay, rest), c) =>
        c.after delay (.finalization id { f with stage := .attempting rest })
    | .removing o p =>
      match runProgram p c with
      | (.inl _, c) => runFinalization id fuel { f with stage := .ended o } c
      | (.inr (delay, rest), c) =>
        c.after delay (.finalization id { f with stage := .removing o rest })
    | .pausing wakeAt =>
      if wakeAt ≤ c.now then runFinalization id fuel (f.wake c.now) c
      else { c with pauses := c.pauses ++ [(id, f)] }.after (wakeAt - c.now) (.wake id)
    | .ended o => { c with registry := c.registry.release f.id }.finishFinalization id o

def begin (id : Nat) (role : Role) (c : Crew σ) : Crew σ :=
  match Finalization.launch c.settings c.now c.registry role with
  | (none, registry) => { c with registry := registry }.finishTask id
  | (some (.error o), registry) => { c with registry := registry }.finishFinalization id o
  | (some (.ok f), registry) => runFinalization id patience f { c with registry := registry }

/-- Take a finalization out of its pause. -/
def unpause (id : Nat) (f : Finalization → Finalization) (c : Crew σ) : Crew σ :=
  match c.pauses.lookup id with
  | none => c
  | some paused =>
    runFinalization id patience (f paused) { c with pauses := c.pauses.filter (·.1 ≠ id) }

/-- Everyone who pauses gives up. -/
def abandon (c : Crew σ) : Crew σ :=
  (c.pauses.map (·.1)).foldl (fun c id => c.unpause id Finalization.abandon) c

def runReconcile (id : Nat) (p : Program (Except Fault Unit)) (c : Crew σ) : Crew σ :=
  match runProgram p c with
  | (.inl result, c) => c.finishReconcile id result
  | (.inr (delay, rest), c) => c.after delay (.reconcile id rest)

def runJob (c : Crew σ) : Job → Crew σ
  | .reconcile id p => c.runReconcile id p
  | .begin id role => c.begin id role
  | .finalization id f => runFinalization id patience f c
  | .wake id => c.unpause id fun f => f.wake c.now
  | .expire drain =>
    if c.supervisor.drains.any (·.id = drain) then
      { c with supervisor := c.supervisor.expire drain }.abandon
    else c
  | .abandon => { c with supervisor := { c.supervisor with abandoned := true } }.abandon

/-- Run all jobs as far as they can. -/
def settle : Nat → Crew σ → Crew σ
  | 0, c => c
  | fuel + 1, c =>
    match c.ready with
    | [] => c
    | job :: rest => settle fuel ({ c with ready := rest }.runJob job)

def quiesce (c : Crew σ) : Crew σ := settle patience c

/-- Start to reconcile a key, before anything else unless it is done in the background; the result
will be found under the number. -/
def startReconcile (c : Crew σ) (key : ObjectKey) (inBackground : Bool) : Nat × Crew σ :=
  let id := c.nextId
  let job := Job.reconcile id (Reconcile.program key)
  (id, { c with
    nextId := id + 1
    background := if inBackground then c.background ++ [id] else c.background
    counts := { c.counts with reconciliations := c.counts.reconciliations + 1 }
    ready := if inBackground then c.ready ++ [job] else job :: c.ready })

/-- Begin to wait for the tasks in the background; the result will be found under the number. -/
def drain (c : Crew σ) : Nat × Crew σ :=
  let id := c.nextId
  let (ds, s) := c.supervisor.drain Duration.endOfWait id c.now
  let c := { c with nextId := id + 1, supervisor := s, drained := c.drained ++ ds }
  if s.drains.any (·.id = id) then
    (id, if s.grace.isZero then { c with ready := c.ready ++ [.expire id] }
      else c.after s.grace.nanos (.expire id))
  else (id, c)

/-- Go to the next due time, if it is not after `target`. -/
def tick? (c : Crew σ) (target : Option Nat) : Option (Crew σ) :=
  match Timed.earliest? c.timers with
  | none => none
  | some due =>
    if target.any (· < due) then none
    else
      let (jobs, timers) := Timed.split due c.timers
      some { c with now := max c.now due, timers := timers, ready := c.ready ++ jobs }.quiesce

/-- Let time pass up to `target`, through every timer on the way. -/
def advanceTo (target : Nat) : Nat → Crew σ → Crew σ
  | 0, c => c
  | fuel + 1, c =>
    match c.tick? (some target) with
    | some c => advanceTo target fuel c
    | none => { c with now := max c.now target }

def advance (c : Crew σ) (nanos : Nat) : Crew σ :=
  advanceTo (Duration.endOfWait c.now nanos) patience c.quiesce

/-- Let time pass until the condition holds. -/
def waitUntil (p : Crew σ → Bool) : Nat → Crew σ → Crew σ
  | 0, c => c
  | fuel + 1, c =>
    if p c then c
    else
      match c.tick? none with
      | some c => waitUntil p fuel c
      | none => c

def await (c : Crew σ) (p : Crew σ → Bool) : Crew σ := waitUntil p patience c.quiesce

end Crew
end RoleOperator.Simulation
