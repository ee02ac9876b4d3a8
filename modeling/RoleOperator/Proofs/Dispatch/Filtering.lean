import Mathlib.Data.List.Induction
import RoleOperator.Proofs.Association
import RoleOperator.Proofs.Dispatch.Intake

/-!
# What the change filter lets through

The filter remembers of each key what the last event about it looked like, and only a delete makes it
forget. An update passes unless it looks like the last event. A list that no longer names an object
leaves the memory of it in place, so an object that is created in its stead may be taken for the old
one.
-/
namespace RoleOperator

/-- The key of the object that an event is about. -/
def WatchEvent.about? (e : WatchEvent) : Option String :=
  (e.role?.bind fun r => r.metadata.key?).map ObjectKey.text

namespace ChangeFilter

variable {f : ChangeFilter} {m : Metadata} {key : String}

def lastAbout (key : String) (events : List WatchEvent) : Option WatchEvent :=
  (events.filter fun e => e.about? = some key).getLast?

/-- What an event looked like, as far as it is remembered. -/
def remembered : WatchEvent → Option Signature
  | .apply r | .initApply r => some (Signature.of r.metadata)
  | .delete _ | .init | .initDone => none

theorem accept_of_key {k : ObjectKey} (named : m.key? = some k) (force : Bool) :
    f.accept m force =
      if force = false ∧ f.seen.lookup k.text = some (Signature.of m) then (none, f)
      else (some k.text, f.remember k.text (Signature.of m)) := by
  cases force <;> simp [accept, named]

theorem accept_lookup (force : Bool) :
    (f.accept m force).2.seen.lookup key =
      if m.key?.map ObjectKey.text = some key then some (Signature.of m) else f.seen.lookup key := by
  obtain named | ⟨k, named⟩ := Option.eq_none_or_eq_some m.key?
  · simp [accept, named]
  simp only [accept_of_key named, named, Option.map_some, Option.some.injEq]
  split
  · next same =>
    -- A skipped event looks like what is remembered already.
    split
    · next he => exact he ▸ same.2
    · rfl
  · simp only [remember, lookup_replace, eq_comm]

theorem observe_lookup (e : WatchEvent) :
    (f.observe e).2.seen.lookup key =
      if e.about? = some key then remembered e else f.seen.lookup key := by
  cases e with
  | init => simp [observe, WatchEvent.about?, WatchEvent.role?]
  | initDone => simp [observe, WatchEvent.about?, WatchEvent.role?]
  | apply r => exact accept_lookup false
  | initApply r => exact accept_lookup true
  | delete r =>
    have known : (f.accept r.metadata true).2.seen.lookup key =
        if r.metadata.key?.map ObjectKey.text = some key then some (Signature.of r.metadata)
        else f.seen.lookup key := accept_lookup true
    simp only [observe, WatchEvent.about?, WatchEvent.role?, Option.bind_some, remembered]
    obtain named | ⟨k, named⟩ := Option.eq_none_or_eq_some r.metadata.key?
    · simpa [named] using known
    · simp only [named, Option.map_some, Option.some.injEq] at known ⊢
      simp only [forget, lookup_filter_ne, known, eq_comm]
      split <;> rfl

/-- The filter knows the last event about a key, if it was no delete, and nothing else. -/
theorem follow_lookup (events : List WatchEvent) :
    (follow {} events).seen.lookup key = (lastAbout key events).bind remembered := by
  induction events using List.reverseRecOn with
  | nil => rfl
  | append_singleton events e ih =>
    have step : follow {} (events ++ [e]) = ((follow {} events).observe e).2 := by
      simp [follow]
    rw [step, observe_lookup, lastAbout, List.filter_append]
    by_cases he : e.about? = some key
    · simp [he]
    · simp [he, ih, lastAbout]

end ChangeFilter

namespace Dispatcher

open ChangeFilter (lastAbout remembered follow)

variable {d d' : Dispatcher} {actions : List Action} {a : Action}

/-! ## Updates -/

/-- The key will be handed out: it waits, or it is being processed and will wait again. -/
def OnQueue (d : Dispatcher) (key : String) : Prop :=
  key ∈ d.queue.waiting ∨ key ∈ d.queue.processing ∧ key ∈ d.queue.dirty

/-- That an update of an object that is not in the read cache always puts its key on the queue. -/
def NewObjectsPass : Prop :=
  ∀ (s : DispatchSettings) (actions : List Action) (d d' : Dispatcher) (role : Role)
    (key : ObjectKey), (ofSettings s).run actions = some d →
    role.metadata.key? = some key → (cacheAfter actions).objects.lookup key = none →
    d.step (.event (.apply role)) = some d' → d'.OnQueue key.text

/-- An object is listed and reconciled; the next list is empty. -/
def listedOnce : List Action :=
  [.event .init, .event (.initApply reader), .reportIntake, .event .initDone, .listen 0, .look 0,
    .report 0, .finish 0 .ok, .release 0, .event .init, .event .initDone]

/-- A new object of the same name looks like the one that has vanished. -/
theorem successor_swallowed : ¬ NewObjectsPass := by
  intro pass
  have queued := pass { workers := 1 } listedOnce _ _ reader ⟨some "demo", "reader"⟩ rfl rfl rfl rfl
  revert queued
  simp only [OnQueue]
  decide

theorem happenings_apply {role : Role} {key : ObjectKey} (named : role.metadata.key? = some key) :
    d.happenings (.event (.apply role)) =
      if d.filter.seen.lookup key.text = some (Signature.of role.metadata) then []
      else [.added .event key.text] := by
  simp only [happenings, ChangeFilter.observe, ChangeFilter.accept_of_key named, true_and]
  split <;> rfl

/-- An update enqueues its key unless the last event about the key was an update or a listing with
the same generation and deletion mark. What is enqueued is then on the queue. -/
theorem apply_enqueued_iff {s : DispatchSettings} {role : Role} {key : ObjectKey}
    (r : (ofSettings s).run actions = some d) (named : role.metadata.key? = some key)
    (h : d.step (.event (.apply role)) = some d') :
    (.added .event key.text ∈ d.happenings (.event (.apply role)) ↔
      ∀ old, lastAbout key.text (events actions) = some (.apply old) ∨
          lastAbout key.text (events actions) = some (.initApply old) →
        Signature.of old.metadata ≠ Signature.of role.metadata) ∧
    (.added .event key.text ∈ d.happenings (.event (.apply role)) → d'.OnQueue key.text) := by
  constructor
  · have memory : d.filter.seen.lookup key.text =
        (lastAbout key.text (events actions)).bind remembered := by
      rw [run_follows r]
      exact ChangeFilter.follow_lookup (events actions)
    rw [happenings_apply named, memory]
    rcases lastAbout key.text (events actions) with _ | (_ | _ | _ | _ | _) <;> simp [remembered, eq_comm]
  · intro added
    have coherent : d'.Coherent := ((coherent_ofSettings s).run r).change (change_of_step h)
    have up : d'.queue.isDown = false := by
      have stopped := (follows_of_step h).stopped (run_stopped r Bool.false_ne_true.elim)
      exact Bool.eq_false_iff.2 fun down => running_of_event h (stopped down)
    have dirty := (change_of_step h).mem_dirty.2 (Or.inr ⟨⟨_, added, rfl⟩, (change_of_step h).isDown up⟩)
    exact coherent.placed up dirty

/-- An object is seen and deleted. -/
def removedOnce : List Action :=
  [.event (.apply reader), .reportIntake, .event (.delete reader), .reportIntake]

/-- After a delete an object of the same name and generation is taken for a new one. -/
theorem recreated_enqueued :
    ∃ d d', (ofSettings {}).run removedOnce = some d ∧
      d.step (.event (.apply reader)) = some d' ∧ d'.OnQueue "demo/reader" := by
  obtain ⟨d, d', r, h⟩ : ∃ d d', (ofSettings {}).run removedOnce = some d ∧
      d.step (.event (.apply reader)) = some d' := ⟨_, _, rfl, rfl⟩
  have last : lastAbout "demo/reader" (events removedOnce) = some (.delete reader) := rfl
  have named : reader.metadata.key? = some ⟨some "demo", "reader"⟩ := rfl
  obtain ⟨passes, queued⟩ := apply_enqueued_iff r named h
  have text : (⟨some "demo", "reader"⟩ : ObjectKey).text = "demo/reader" := rfl
  rw [text, last] at passes
  exact ⟨d, d', r, h, queued (passes.2 (by simp))⟩

end Dispatcher
end RoleOperator
