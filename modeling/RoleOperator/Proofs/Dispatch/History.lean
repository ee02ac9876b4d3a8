import RoleOperator.Dispatch.Dispatcher
import RoleOperator.Proofs.Queue.Bookkeeping

/-!
# History of a dispatcher

What happens to keys in the course of a run, and the few ways in which a step can change the queue,
the workers and the pending retries. Every property of runs is proved over these changes, so no
other proof looks into the step function.
-/
namespace RoleOperator

/-- The key that a worker has taken and not yet given back. A worker that crashed keeps its key. -/
def Worker.held : Worker → Option String
  | .reporting raw | .handling raw _ | .settled raw | .crashed raw => some raw
  | .idle | .listening | .asleep | .stopped => none

namespace Dispatcher

/-- Who adds a key. -/
inductive Origin where
  | event
  | direct
  | retry
  deriving DecidableEq, Repr

inductive Happening where
  | added (origin : Origin) (key : String)
  | taken (key : String)
  | started (key : String)
  | ended (key : String) (outcome : HandlerOutcome)
  | dropped (key : String)
  deriving DecidableEq, Repr

/-- What the end of a handler call brings about. A retry without delay adds the key at once. -/
def settlement (d : Dispatcher) (raw : String) : HandlerOutcome → List Happening
  | .failed =>
    if d.queue.requeues raw < d.maxRequeues then
      if (d.queue.fail raw).1.isZero then [.ended raw .failed, .added .retry raw]
      else [.ended raw .failed]
    else [.ended raw .failed, .dropped raw]
  | outcome => [.ended raw outcome]

/-- What happens to keys in a step. -/
def happenings (d : Dispatcher) : Action → List Happening
  | .event e => (d.filter.observe e).1.toList.map (.added .event)
  | .add key => [.added .direct key]
  | .look _ => (d.queue.take?.map fun t => Happening.taken t.1).toList
  | .report i =>
    match d.workers[i]? with
    | some (.reporting raw) => if (ObjectKey.parse? raw).isSome then [.started raw] else []
    | _ => []
  | .finish i outcome =>
    match d.workers[i]? with
    | some (.handling raw _) => d.settlement raw outcome
    | _ => []
  | .fire r => [.added .retry r.key]
  | _ => []

/-- What happens to keys in a run, as far as the actions are possible. -/
def history (d : Dispatcher) : List Action → List Happening
  | [] => []
  | a :: rest =>
    d.happenings a ++ match d.step a with
      | some d => d.history rest
      | none => []

/-- The changes that a step can make, each with what happens to keys. -/
inductive Change (d d' : Dispatcher) : List Happening → Prop where
  | stay (queue : d'.queue = d.queue) (workers : d'.workers = d.workers)
      (retries : d'.retries = d.retries) : Change d d' []
  | shift {i : Nat} {w w' : Worker} (was : d.workers[i]? = some w) (free : w.held = none)
      (free' : w'.held = none) (queue : d'.queue = d.queue)
      (workers : d'.workers = d.workers.set i w') (retries : d'.retries = d.retries) :
      Change d d' []
  | add {origin : Origin} {key : String} (queue : d'.queue = (d.queue.add key).2)
      (workers : d'.workers = d.workers) (retries : d'.retries = d.retries) :
      Change d d' [.added origin key]
  | fire {r : Retry} (pending : r ∈ d.retries) (queue : d'.queue = (d.queue.add r.key).2)
      (workers : d'.workers = d.workers) (retries : d'.retries = d.retries.erase r) :
      Change d d' [.added .retry r.key]
  | take {i : Nat} {raw : String} (was : d.workers[i]? = some .listening)
      (queue : d.queue.take? = some (raw, d'.queue))
      (workers : d'.workers = d.workers.set i (.reporting raw)) (retries : d'.retries = d.retries) :
      Change d d' [.taken raw]
  | start {i : Nat} {raw : String} {key : ObjectKey} (was : d.workers[i]? = some (.reporting raw))
      (parsed : ObjectKey.parse? raw = some key) (queue : d'.queue = d.queue)
      (workers : d'.workers = d.workers.set i (.handling raw key))
      (retries : d'.retries = d.retries) : Change d d' [.started raw]
  | discard {i : Nat} {raw : String} (was : d.workers[i]? = some (.reporting raw))
      (malformed : ObjectKey.parse? raw = none) (queue : d'.queue = d.queue.forget raw)
      (workers : d'.workers = d.workers.set i (.settled raw)) (retries : d'.retries = d.retries) :
      Change d d' []
  | succeed {i : Nat} {raw : String} {key : ObjectKey}
      (was : d.workers[i]? = some (.handling raw key)) (queue : d'.queue = d.queue.forget raw)
      (workers : d'.workers = d.workers.set i (.settled raw)) (retries : d'.retries = d.retries) :
      Change d d' [.ended raw .ok]
  | postpone {i : Nat} {raw : String} {key : ObjectKey} {due : Nat}
      (was : d.workers[i]? = some (.handling raw key))
      (budget : d.queue.requeues raw < d.maxRequeues) (queue : d'.queue = (d.queue.fail raw).2)
      (workers : d'.workers = d.workers.set i (.settled raw))
      (retries : d'.retries = d.retries ++ [⟨due, raw⟩]) : Change d d' [.ended raw .failed]
  | again {i : Nat} {raw : String} {key : ObjectKey}
      (was : d.workers[i]? = some (.handling raw key))
      (budget : d.queue.requeues raw < d.maxRequeues)
      (queue : d'.queue = ((d.queue.fail raw).2.add raw).2)
      (workers : d'.workers = d.workers.set i (.settled raw)) (retries : d'.retries = d.retries) :
      Change d d' [.ended raw .failed, .added .retry raw]
  | drop {i : Nat} {raw : String} {key : ObjectKey}
      (was : d.workers[i]? = some (.handling raw key))
      (spent : d.maxRequeues ≤ d.queue.requeues raw) (queue : d'.queue = d.queue.forget raw)
      (workers : d'.workers = d.workers.set i (.settled raw)) (retries : d'.retries = d.retries) :
      Change d d' [.ended raw .failed, .dropped raw]
  | crash {i : Nat} {raw : String} {key : ObjectKey}
      (was : d.workers[i]? = some (.handling raw key)) (queue : d'.queue = d.queue)
      (workers : d'.workers = d.workers.set i (.crashed raw)) (retries : d'.retries = d.retries) :
      Change d d' [.ended raw .crashed]
  | release {i : Nat} {raw : String} (was : d.workers[i]? = some (.settled raw))
      (queue : d'.queue = (d.queue.done raw).2) (workers : d'.workers = d.workers.set i .idle)
      (retries : d'.retries = d.retries) : Change d d' []
  | close (queue : d'.queue = d.queue.shutDown) (workers : d'.workers = d.workers)
      (retries : d'.retries = d.retries) : Change d d' []

variable {d d' : Dispatcher}

/-! ## Every step is such a change -/

theorem change_event {e : WatchEvent} (h : d.step (.event e) = some d') :
    Change d d' (d.happenings (.event e)) := by
  simp only [step] at h
  split at h
  · simp only [happenings]
    cases hk : (d.filter.observe e).1 with
    | none =>
      simp only [hk, Option.some.injEq] at h
      subst h
      exact .stay rfl rfl rfl
    | some k =>
      simp only [hk, Option.some.injEq] at h
      subst h
      exact .add rfl rfl rfl
  · cases h

theorem change_look {i : Nat} (h : d.step (.look i) = some d') :
    Change d d' (d.happenings (.look i)) := by
  simp only [step] at h
  split at h
  · rename_i was
    simp only [look, Option.some.injEq] at h
    simp only [happenings]
    split at h
    · rename_i down
      subst h
      rw [show d.queue.take? = none by simp [WorkQueue.take?, down]]
      exact .shift was rfl rfl rfl rfl rfl
    · cases ht : d.queue.take? with
      | none =>
        simp only [ht] at h
        subst h
        exact .shift was rfl rfl rfl rfl rfl
      | some t =>
        obtain ⟨raw, q⟩ := t
        simp only [ht] at h
        subst h
        exact .take was ht rfl rfl
  · cases h

theorem change_report {i : Nat} (h : d.step (.report i) = some d') :
    Change d d' (d.happenings (.report i)) := by
  simp only [step] at h
  split at h
  · rename_i raw was
    simp only [happenings, was]
    cases hp : ObjectKey.parse? raw with
    | none =>
      simp only [hp, Option.some.injEq] at h
      subst h
      exact .discard was hp rfl rfl rfl
    | some key =>
      simp only [hp, Option.some.injEq] at h
      subst h
      exact .start was hp rfl rfl rfl
  · cases h

theorem change_finish {i : Nat} {outcome : HandlerOutcome}
    (h : d.step (.finish i outcome) = some d') :
    Change d d' (d.happenings (.finish i outcome)) := by
  simp only [step] at h
  split at h
  · rename_i raw key was
    simp only [happenings, was]
    cases outcome with
    | ok =>
      simp only [Option.some.injEq] at h
      subst h
      exact .succeed was rfl rfl rfl
    | crashed =>
      simp only [Option.some.injEq] at h
      subst h
      exact .crash was rfl rfl rfl
    | failed =>
      simp only [settle, settlement, Option.some.injEq] at h ⊢
      split at h
      · rename_i budget
        rw [if_pos budget]
        simp only [retry] at h
        split at h
        · rename_i zero
          subst h
          rw [if_pos zero]
          exact .again was budget rfl rfl rfl
        · rename_i delayed
          subst h
          rw [if_neg delayed]
          exact .postpone was budget rfl rfl rfl
      · rename_i spent
        subst h
        rw [if_neg spent]
        exact .drop was (Nat.le_of_not_lt spent) rfl rfl rfl
  · cases h

/-- A step changes queue, workers and retries in one of the listed ways. -/
theorem change_of_step {a : Action} (h : d.step a = some d') : Change d d' (d.happenings a) := by
  cases a with
  | event e => exact change_event h
  | look i => exact change_look h
  | report i => exact change_report h
  | finish i outcome => exact change_finish h
  | reportIntake =>
    simp only [step] at h
    split at h
    · cases h
      exact .stay rfl rfl rfl
    · cases h
  | streamEnd =>
    simp only [step] at h
    split at h
    · cases h
      exact .stay rfl rfl rfl
    · cases h
  | add key =>
    cases h
    exact .add rfl rfl rfl
  | listen i =>
    simp only [step] at h
    split at h
    · rename_i was
      cases h
      exact .shift was rfl rfl rfl rfl rfl
    · cases h
  | wake i =>
    simp only [step] at h
    split at h
    · rename_i was
      cases h
      exact .shift (by simpa using (Bool.and_eq_true_iff.1 was).1) rfl rfl rfl rfl rfl
    · cases h
  | release i =>
    simp only [step] at h
    split at h
    · rename_i raw was
      cases h
      exact .release was rfl rfl rfl
    · cases h
  | fire r =>
    simp only [step] at h
    split at h
    · rename_i due
      cases h
      exact .fire due.1 rfl rfl rfl
    · cases h
  | elapse nanos =>
    cases h
    exact .stay rfl rfl rfl
  | stop =>
    simp only [step] at h
    split at h
    · cases h
      exact .close rfl rfl rfl
    · cases h

/-! ## Runs -/

theorem run_cons {a : Action} {rest : List Action} (h : d.run (a :: rest) = some d') :
    ∃ m, d.step a = some m ∧ m.run rest = some d' := Option.bind_eq_some_iff.1 h

theorem history_cons {a : Action} {m : Dispatcher} (h : d.step a = some m) (rest : List Action) :
    d.history (a :: rest) = d.happenings a ++ m.history rest := by simp only [history, h]

/-- What every change preserves, of the history so far and the state, a whole run preserves. -/
theorem run_induction {P : List Happening → Dispatcher → Prop}
    (change : ∀ {d d' : Dispatcher} {log news : List Happening},
      P log d → Change d d' news → P (log ++ news) d')
    (log : List Happening) {actions : List Action} (start : P log d)
    (h : d.run actions = some d') : P (log ++ d.history actions) d' := by
  induction actions generalizing d log with
  | nil =>
    cases h
    simpa [history] using start
  | cons a rest ih =>
    obtain ⟨m, hs, hr⟩ := run_cons h
    rw [history_cons hs, ← List.append_assoc]
    exact ih _ (change start (change_of_step hs)) hr

end Dispatcher
end RoleOperator
