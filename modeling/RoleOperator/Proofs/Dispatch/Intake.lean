import RoleOperator.Proofs.Dispatch.Relisting

/-!
# Intake of events

What the event loop alone is in charge of: the change filter, which follows the events, and the end of
the work. Workers and timers leave it as it is.
-/
namespace RoleOperator

/-- The filter after a number of events. -/
def ChangeFilter.follow (f : ChangeFilter) (events : List WatchEvent) : ChangeFilter :=
  events.foldl (fun f e => (f.observe e).2) f

namespace Dispatcher

open ChangeFilter (follow)

variable {d d' : Dispatcher} {actions : List Action} {a : Action}

/-- What only the event loop changes, and what never changes. -/
def intakeState (d : Dispatcher) : ChangeFilter × Intake × Bool × Nat :=
  (d.filter, d.intake, d.queue.isDown, d.maxRequeues)

theorem enqueue_intakeState (key : String) : (d.enqueue key).intakeState = d.intakeState := by
  have hd := WorkQueue.add_isDown d.queue key
  simp [intakeState, enqueue, hd]

theorem giveBack_intakeState (key : String) : (d.giveBack key).intakeState = d.intakeState := by
  have hd := WorkQueue.done_isDown d.queue key
  simp [intakeState, giveBack, hd]

theorem settle_intakeState (raw : String) (outcome : HandlerOutcome) :
    (d.settle raw outcome).intakeState = d.intakeState := by
  cases outcome with
  | ok => rfl
  | crashed => rfl
  | failed =>
    simp only [settle, retry]
    split
    · split
      · exact enqueue_intakeState raw
      · rfl
    · rfl

theorem look_intakeState (i : Nat) : (d.look i).intakeState = d.intakeState := by
  unfold look
  split
  · rfl
  · split
    · next raw q ht =>
      obtain ⟨_, rest, _, rfl⟩ := WorkQueue.take?_eq_some ht
      rfl
    · rfl

/-- Whatever happens, the filter follows the events; and whoever shuts the queue down stops the
event loop for good. -/
structure Follows (d d' : Dispatcher) (seen : List WatchEvent) : Prop where
  filter : d'.filter = follow d.filter seen
  intake : d'.intake = .stopped ∨
    d'.queue.isDown = d.queue.isDown ∧ (d.intake = .stopped → d'.intake = .stopped)
  limit : d'.maxRequeues = d.maxRequeues

theorem Follows.stopped {seen : List WatchEvent} (f : Follows d d' seen)
    (h : d.queue.isDown → d.intake = .stopped) : d'.queue.isDown → d'.intake = .stopped := by
  intro down
  rcases f.intake with stopped | ⟨same, kept⟩
  · exact stopped
  · exact kept (h (same ▸ down))

theorem follows_of_kept (kept : d'.intakeState = d.intakeState) : Follows d d' [] := by
  have hf : d'.filter = d.filter := congrArg (·.1) kept
  have hi : d'.intake = d.intake := congrArg (·.2.1) kept
  have hd : d'.queue.isDown = d.queue.isDown := congrArg (·.2.2.1) kept
  have hl : d'.maxRequeues = d.maxRequeues := congrArg (·.2.2.2) kept
  exact ⟨hf, Or.inr ⟨hd, fun stopped => hi.trans stopped⟩, hl⟩

theorem follows_event {e : WatchEvent} (h : d.step (.event e) = some d') : Follows d d' [e] := by
  simp only [step] at h
  split at h
  · next watching =>
    have running : d.intake ≠ .stopped := by simp [watching]
    cases hk : (d.filter.observe e).1 with
    | none =>
      simp only [hk, Option.some.injEq] at h
      subst h
      exact ⟨rfl, Or.inr ⟨rfl, fun stopped => absurd stopped running⟩, rfl⟩
    | some k =>
      simp only [hk, Option.some.injEq] at h
      subst h
      exact ⟨rfl, Or.inr ⟨WorkQueue.add_isDown _ _, fun stopped => absurd stopped running⟩, rfl⟩
  · cases h

theorem follows_of_step (h : d.step a = some d') : Follows d d' (events [a]) := by
  cases a with
  | event e => exact follows_event h
  | reportIntake | streamEnd =>
    obtain ⟨running, he⟩ := Option.ite_none_right_eq_some.1 h
    cases he
    exact ⟨rfl, Or.inr ⟨rfl, fun stopped => by simp [running] at stopped⟩, rfl⟩
  | stop =>
    obtain ⟨_, he⟩ := Option.ite_none_right_eq_some.1 h
    cases he
    exact ⟨rfl, Or.inl rfl, rfl⟩
  | add key =>
    cases h
    exact follows_of_kept (enqueue_intakeState key)
  | elapse nanos =>
    cases h
    exact follows_of_kept rfl
  | listen i | wake i =>
    obtain ⟨_, he⟩ := Option.ite_none_right_eq_some.1 h
    cases he
    exact follows_of_kept rfl
  | look i =>
    obtain ⟨_, he⟩ := Option.ite_none_right_eq_some.1 h
    cases he
    exact follows_of_kept (look_intakeState i)
  | fire r =>
    obtain ⟨_, he⟩ := Option.ite_none_right_eq_some.1 h
    cases he
    exact follows_of_kept (enqueue_intakeState r.key)
  | report i =>
    simp only [step] at h
    split at h
    · split at h <;> cases h <;> exact follows_of_kept rfl
    · cases h
  | finish i outcome =>
    simp only [step] at h
    split at h
    · next raw key was =>
      cases h
      exact follows_of_kept (settle_intakeState (d := d) raw outcome)
    · cases h
  | release i =>
    simp only [step] at h
    split at h
    · next raw was =>
      cases h
      exact follows_of_kept (giveBack_intakeState (d := d) raw)
    · cases h

theorem run_follows (r : d.run actions = some d') : d'.filter = follow d.filter (events actions) := by
  induction actions generalizing d with
  | nil =>
    cases r
    rfl
  | cons a rest ih =>
    obtain ⟨m, hs, hr⟩ := run_cons r
    have split : events (a :: rest) = events [a] ++ events rest := by
      rw [events, events, events, ← List.filterMap_append, List.singleton_append]
    rw [ih hr, (follows_of_step hs).filter, split, follow, follow, follow, List.foldl_append]

theorem run_stopped (r : d.run actions = some d') (h : d.queue.isDown → d.intake = .stopped) :
    d'.queue.isDown → d'.intake = .stopped := by
  induction actions generalizing d with
  | nil =>
    cases r
    exact h
  | cons a rest ih =>
    obtain ⟨m, hs, hr⟩ := run_cons r
    exact ih hr ((follows_of_step hs).stopped h)

theorem run_maxRequeues (r : d.run actions = some d') : d'.maxRequeues = d.maxRequeues := by
  induction actions generalizing d with
  | nil =>
    cases r
    rfl
  | cons a rest ih =>
    obtain ⟨m, hs, hr⟩ := run_cons r
    exact (ih hr).trans (follows_of_step hs).limit

theorem running_of_event {e : WatchEvent} (h : d.step (.event e) = some d') :
    d'.intake ≠ .stopped := by
  simp only [step] at h
  split at h
  · next watching =>
    cases hk : (d.filter.observe e).1 <;> simp only [hk, Option.some.injEq] at h <;> subst h
    · simp [watching]
    · simp
  · cases h

end Dispatcher
end RoleOperator
