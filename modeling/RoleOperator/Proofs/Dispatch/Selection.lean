import RoleOperator.Proofs.Dispatch.Filtering
import RoleOperator.Proofs.Dispatch.Stopping

/-!
# Selection of events

Which events the event loop puts on the queue, told by the events before them alone. What the filter
remembers is no part of it: an update is compared with the last event about its key, whether that one
was put on the queue or not, and events about other keys make no difference.
-/
namespace RoleOperator

namespace ChangeFilter

variable {f : ChangeFilter} {past past' : List WatchEvent} {e : WatchEvent} {role : Role}
  {key : ObjectKey}

/-- What is put on the queue for the event `e` after the events `past`. -/
structure Selects (past : List WatchEvent) (e : WatchEvent) (put : Option String) : Prop where
  /-- An update is compared with the last event about its key. -/
  update : ∀ role key, e = .apply role → role.metadata.key? = some key →
    (put = some key.text ↔
      lastAbout key.text past = none ∨ (∃ old, lastAbout key.text past = some (.delete old)) ∨
        ∃ old, (lastAbout key.text past = some (.apply old) ∨
            lastAbout key.text past = some (.initApply old)) ∧
          (old.metadata.generation, old.isDeleting) ≠ (role.metadata.generation, role.isDeleting))
  /-- What is listed or deleted is always put on the queue. -/
  forced : ∀ role key, e = .initApply role ∨ e = .delete role → role.metadata.key? = some key →
    put = some key.text
  unnamed : ∀ role, e.role? = some role → role.metadata.key? = none → put = none
  own : ∀ k, put = some k → e.about? = some k
  /-- Whatever reports another generation or deletion mark than the last event is put on the queue. -/
  change : ∀ role key last old, e.role? = some role → role.metadata.key? = some key →
    lastAbout key.text past = some last → last.role? = some old →
    old.metadata.generation ≠ role.metadata.generation ∨ old.isDeleting ≠ role.isDeleting →
    put = some key.text

/-- The last event about a key is about an object of that key. -/
theorem lastAbout_about {k : String} {last : WatchEvent} (h : lastAbout k past = some last) :
    last.about? = some k := by
  have listed := List.mem_of_getLast? h
  simpa using (List.mem_filter.1 listed).2

/-! ## One event -/

theorem accept_own {m : Metadata} {force : Bool} {k : String} (h : (f.accept m force).1 = some k) :
    m.key?.map ObjectKey.text = some k := by
  obtain named | ⟨key, named⟩ := Option.eq_none_or_eq_some m.key?
  · simp [accept, named] at h
  · rw [accept_of_key named] at h
    split at h
    · cases h
    · simpa [named] using h

theorem observe_own {k : String} (h : (f.observe e).1 = some k) : e.about? = some k := by
  cases e with
  | init | initDone => cases h
  | apply role | initApply role | delete role => exact accept_own h

/-- Of the memory, an event is compared with what is remembered of its own key. -/
theorem observe_congr {f' : ChangeFilter}
    (same : ∀ k, e.about? = some k → f.seen.lookup k = f'.seen.lookup k) :
    (f.observe e).1 = (f'.observe e).1 := by
  have accepted : ∀ (m : Metadata) force,
      (∀ k, m.key?.map ObjectKey.text = some k → f.seen.lookup k = f'.seen.lookup k) →
        (f.accept m force).1 = (f'.accept m force).1 := by
    intro m force same
    obtain named | ⟨key, named⟩ := Option.eq_none_or_eq_some m.key?
    · simp [accept, named]
    · rw [accept_of_key named, accept_of_key named, same key.text (by rw [named]; rfl)]
      split <;> rfl
  cases e with
  | init | initDone => rfl
  | apply role => exact accepted role.metadata false same
  | initApply role | delete role => exact accepted role.metadata true same

theorem observe_forced (listed : e = .initApply role ∨ e = .delete role)
    (named : role.metadata.key? = some key) : (f.observe e).1 = some key.text := by
  have forced : (f.accept role.metadata true).1 = some key.text := by simp [accept_of_key named]
  rcases listed with rfl | rfl <;> exact forced

theorem observe_apply (named : role.metadata.key? = some key) :
    ((follow {} past).observe (.apply role)).1 = some key.text ↔
      (lastAbout key.text past).bind remembered ≠ some (Signature.of role.metadata) := by
  rw [← follow_lookup, observe, accept_of_key named]
  simp only [true_and]
  split
  · next same => simp [same]
  · next differs => simp [differs]

/-! ## After any events -/

theorem lastAbout_congr {k : String}
    (same : past'.filter (fun e => e.about? = some k) = past.filter fun e => e.about? = some k) :
    lastAbout k past' = lastAbout k past := by
  rw [lastAbout, lastAbout, same]

theorem unlike_iff {old : Role} :
    Signature.of old.metadata ≠ Signature.of role.metadata ↔
      (old.metadata.generation, old.isDeleting) ≠ (role.metadata.generation, role.isDeleting) := by
  simp [Signature.of, Role.isDeleting]

theorem update_selected (named : role.metadata.key? = some key) :
    ((follow {} past).observe (.apply role)).1 = some key.text ↔
      lastAbout key.text past = none ∨ (∃ old, lastAbout key.text past = some (.delete old)) ∨
        ∃ old, (lastAbout key.text past = some (.apply old) ∨
            lastAbout key.text past = some (.initApply old)) ∧
          (old.metadata.generation, old.isDeleting) ≠
            (role.metadata.generation, role.isDeleting) := by
  rw [observe_apply named]
  rcases last : lastAbout key.text past with _ | (_ | old | _ | old | old)
  · simp
  · cases lastAbout_about last
  · simp [remembered, unlike_iff]
  · cases lastAbout_about last
  · simp [remembered, unlike_iff]
  · simp [remembered]

theorem change_selected {last : WatchEvent} {old : Role} (about : e.role? = some role)
    (named : role.metadata.key? = some key) (seen : lastAbout key.text past = some last)
    (shows : last.role? = some old)
    (differs : old.metadata.generation ≠ role.metadata.generation ∨
      old.isDeleting ≠ role.isDeleting) :
    ((follow {} past).observe e).1 = some key.text := by
  have unlike : (old.metadata.generation, old.isDeleting) ≠
      (role.metadata.generation, role.isDeleting) := by
    rintro same
    obtain ⟨generation, deleting⟩ := Prod.mk.inj same
    exact differs.elim (absurd generation) (absurd deleting)
  cases e with
  | init | initDone => cases about
  | initApply r =>
    cases about
    exact observe_forced (Or.inl rfl) named
  | delete r =>
    cases about
    exact observe_forced (Or.inr rfl) named
  | apply r =>
    cases about
    rw [update_selected named, seen]
    cases last with
    | init | initDone => cases shows
    | delete r => exact Or.inr (Or.inl ⟨r, rfl⟩)
    | apply r =>
      cases shows
      exact Or.inr (Or.inr ⟨old, Or.inl rfl, unlike⟩)
    | initApply r =>
      cases shows
      exact Or.inr (Or.inr ⟨old, Or.inr rfl, unlike⟩)

theorem selects (past : List WatchEvent) (e : WatchEvent) :
    Selects past e ((follow {} past).observe e).1 where
  update role key apply named := by
    rw [apply]
    exact update_selected named
  forced role key := observe_forced
  unnamed role about named := by
    rw [Option.eq_none_iff_forall_ne_some]
    intro k put
    have nameless : e.about? = none := by simp [WatchEvent.about?, about, named]
    cases nameless.symm.trans (observe_own put)
  own k := observe_own
  change role key last old := change_selected

theorem observe_other_keys (same : past'.filter (fun x => x.about? = e.about?) =
      past.filter fun x => x.about? = e.about?) :
    ((follow {} past').observe e).1 = ((follow {} past).observe e).1 := by
  refine observe_congr fun k about => ?_
  rw [follow_lookup, follow_lookup, lastAbout_congr (about ▸ same)]

end ChangeFilter

namespace Dispatcher

open ChangeFilter (Selects follow)

variable {d d' : Dispatcher} {e : WatchEvent} {actions : List Action}

/-- The event loop puts on the queue what the filter lets through, and nothing else. -/
theorem event_queue (h : d.step (.event e) = some d') :
    d'.queue = (d.filter.observe e).1.elim d.queue fun key => (d.queue.add key).2 := by
  simp only [step] at h
  split at h
  · cases put : (d.filter.observe e).1 <;> simp only [put] at h <;> cases h <;> rfl
  · cases h

/-- A watching event loop takes any event, and is ready for the next one once it has reported. -/
theorem exists_run_of_event (e : WatchEvent) (watching : d.intake = .watching) :
    ∃ actions d', d.run actions = some d' ∧ events actions = [e] ∧ d'.intake = .watching := by
  cases put : (d.filter.observe e).1 with
  | none =>
    refine ⟨[.event e], { d with filter := (d.filter.observe e).2 }, ?_, rfl, watching⟩
    simp [Dispatcher.run, step, watching, put]
  | some key =>
    refine ⟨[.event e, .reportIntake],
      { (({ d with filter := (d.filter.observe e).2 } : Dispatcher).enqueue key).reportDepth with
        intake := .watching }, ?_, rfl, rfl⟩
    simp [Dispatcher.run, step, watching, put, reportDepth]

/-- Every sequence of events can come. -/
theorem exists_run_of_events (past : List WatchEvent) (watching : d.intake = .watching) :
    ∃ actions d', d.run actions = some d' ∧ events actions = past ∧ d'.intake = .watching := by
  induction past generalizing d with
  | nil => exact ⟨[], d, rfl, rfl, watching⟩
  | cons e rest ih =>
    obtain ⟨first, m, run, one, ready⟩ := exists_run_of_event e watching
    obtain ⟨later, d', runs, others, still⟩ := ih ready
    refine ⟨first ++ later, d', stepwise.append run runs, ?_, still⟩
    rw [events, List.filterMap_append]
    exact congrArg₂ (· ++ ·) one others

/-- The event loop enqueues a key for an event exactly when the events before it call for that,
whatever else the dispatcher has done. Events about other keys have no part in it. -/
theorem selected_by_history (s : DispatchSettings) (past : List WatchEvent) (e : WatchEvent) :
    ∃ put, Selects past e put ∧
      (∀ actions d d', (ofSettings s).run actions = some d →
        (events actions).filter (fun x => x.about? = e.about?) =
          past.filter (fun x => x.about? = e.about?) →
        d.step (.event e) = some d' →
        d.happenings (.event e) = put.toList.map (.added .event) ∧
          d'.queue = put.elim d.queue fun key => (d.queue.add key).2) ∧
      ∃ actions d d', (ofSettings s).run actions = some d ∧ events actions = past ∧
        d.step (.event e) = some d' := by
  refine ⟨((follow {} past).observe e).1, ChangeFilter.selects past e, ?_, ?_⟩
  · intro actions d d' run same taken
    have known : (d.filter.observe e).1 = ((follow {} past).observe e).1 := by
      rw [run_follows run]
      exact ChangeFilter.observe_other_keys same
    refine ⟨?_, known ▸ event_queue taken⟩
    rw [happenings, known]
  · obtain ⟨actions, d, run, told, watching⟩ :=
      exists_run_of_events (d := ofSettings s) past rfl
    obtain ⟨d', taken⟩ : ∃ d', d.step (.event e) = some d' := by
      simp only [step, watching, if_true]
      split <;> exact ⟨_, rfl⟩
    exact ⟨actions, d, d', run, told, taken⟩

end Dispatcher
end RoleOperator
