import RoleOperator.Proofs.Dispatch.Delivery
import RoleOperator.Proofs.Dispatch.Selection

/-!
# Keys on the queue

An object's key goes through the queue as a text. The worker that takes the text reads the key of that
object and of no other. A text that is no key ends with the worker that reads it: there is no call for
it, and nothing stays behind in the queue.
-/
namespace RoleOperator

/-- A named object has the key that its name and its namespace make. -/
theorem Metadata.key?_of_parts {m : Metadata} {key : ObjectKey} (nonempty : key.name ≠ "")
    (name : m.name = some key.name) (ns : m.ns = key.ns) : m.key? = some key := by
  simp [Metadata.key?, name, ns, nonempty]

namespace Dispatcher

variable {d d' : Dispatcher} {log news : List Happening} {raw k : String} {i : Nat}
  {e : WatchEvent} {role : Role} {key : ObjectKey} {actions : List Action}

/-! ## Keys that can be read -/

/-- The event loop adds the object's key, or it leaves the queue alone. -/
theorem event_adds_own (about : e.role? = some role) (named : role.metadata.key? = some key)
    (h : d.step (.event e) = some d') :
    d.happenings (.event e) = [] ∧ d'.queue = d.queue ∨
      d.happenings (.event e) = [.added .event key.text] ∧
        d'.queue = (d.queue.add key.text).2 := by
  have queue := event_queue h
  simp only [happenings]
  cases put : (d.filter.observe e).1 with
  | none => exact Or.inl ⟨rfl, by rw [queue, put]; rfl⟩
  | some k =>
    have own : some k = some key.text := by
      rw [← ChangeFilter.observe_own put, WatchEvent.about?, about, Option.bind_some, named]
      rfl
    cases own
    exact Or.inr ⟨rfl, by rw [queue, put]; rfl⟩

theorem event_adds_listed (listed : e = .initApply role ∨ e = .delete role)
    (named : role.metadata.key? = some key) :
    d.happenings (.event e) = [.added .event key.text] := by
  rw [happenings, ChangeFilter.observe_forced listed named]
  rfl

/-! ## Texts that are no keys -/

/-- A handler is only called with a key that could be read. -/
theorem Change.parsed_of_started (c : Change d d' news) (started : .started k ∈ news) :
    ∃ key, ObjectKey.parse? k = some key := by
  cases c with
  | start was parsed =>
    obtain rfl : k = _ := by simpa using started
    exact ⟨_, parsed⟩
  | _ => simp at started

theorem Change.parsed_of_ended {outcome : HandlerOutcome} (coherent : d.Coherent)
    (c : Change d d' news) (ended : .ended k outcome ∈ news) :
    ∃ key, ObjectKey.parse? k = some key := by
  obtain ⟨i, key, was⟩ := c.handling_of_ended ended
  exact ⟨key, coherent.parsed i k key was⟩

/-- Failures are counted at the end of a call, and nowhere else. -/
theorem Change.lookup_failures (c : Change d d' news)
    (quiet : ∀ outcome, .ended k outcome ∉ news) :
    d'.queue.failures.lookup k = d.queue.failures.lookup k ∨
      d'.queue.failures.lookup k = none := by
  have others : ∀ raw, .ended raw .failed ∈ news → k ≠ raw := by
    rintro raw failed rfl
    exact quiet .failed failed
  cases c with
  | stay queue | shift _ _ _ queue | start _ _ queue | crash _ queue => exact Or.inl (by rw [queue])
  | add queue | fire _ queue => exact Or.inl (by rw [queue, WorkQueue.add_frame])
  | take _ queue =>
    obtain ⟨-, rest, -, taken⟩ := WorkQueue.take?_eq_some queue
    exact Or.inl (by rw [taken])
  | release _ queue => exact Or.inl (by rw [queue, WorkQueue.done_frame])
  | close queue => exact Or.inl (by rw [queue]; rfl)
  | discard _ _ queue | succeed _ queue | drop _ _ queue =>
    rw [queue, WorkQueue.lookup_forget]
    split
    · exact Or.inr rfl
    · exact Or.inl rfl
  | postpone _ _ queue =>
    refine Or.inl ?_
    rw [queue, WorkQueue.lookup_fail, if_neg (others _ (by simp))]
  | again _ _ queue =>
    refine Or.inl ?_
    rw [queue, WorkQueue.add_frame]
    exact (WorkQueue.lookup_fail d.queue _ k).trans (if_neg (others _ (by simp)))

/-- A worker that crashes was in a call. -/
theorem Change.crashed (c : Change d d' news) (now : d'.workers[i]? = some (.crashed k)) :
    d.workers[i]? = some (.crashed k) ∨ .ended k .crashed ∈ news := by
  have moved : ∀ {j w w'}, d.workers[j]? = some w → d'.workers = d.workers.set j w' →
      w' ≠ .crashed k → d.workers[i]? = some (.crashed k) := by
    intro j w w' was workers other
    rw [worker_set was workers] at now
    split at now
    · exact absurd (Option.some.inj now) other
    · exact now
  cases c with
  | stay _ workers | add _ workers | fire _ _ workers | close _ workers =>
    exact Or.inl (workers ▸ now)
  | @shift j w w' was _ free _ workers =>
    refine Or.inl (moved was workers ?_)
    rintro rfl
    cases free
  | take was _ workers | start was _ _ workers | discard was _ _ workers | succeed was _ workers
  | postpone was _ _ workers | again was _ _ workers | drop was _ _ workers
  | release was _ workers => exact Or.inl (moved was workers (by simp))
  | @crash j raw key was _ workers =>
    rw [worker_set was workers] at now
    split at now
    · obtain rfl : raw = k := by simpa using now
      exact Or.inr (by simp)
    · exact Or.inl now

/-- No handler is called with the text, no failure is counted for it, and whoever holds it is about to
give it back. -/
structure Ignored (raw : String) (log : List Happening) (d : Dispatcher) : Prop where
  started : .started raw ∉ log
  ended : ∀ outcome, .ended raw outcome ∉ log
  failures : d.queue.failures.lookup raw = none
  processing : raw ∈ d.queue.processing → ∃ i : Nat,
    d.workers[i]? = some (.reporting raw) ∨ d.workers[i]? = some (.settled raw)

/-- The invariant behind `Ignored`. -/
structure Unread (raw : String) (log : List Happening) (d : Dispatcher) : Prop where
  coherent : d.Coherent
  started : .started raw ∉ log
  ended : ∀ outcome, .ended raw outcome ∉ log
  failures : d.queue.failures.lookup raw = none
  crashed : ∀ i : Nat, d.workers[i]? ≠ some (.crashed raw)

theorem unread_ofSettings (s : DispatchSettings) (raw : String) : Unread raw [] (ofSettings s) := by
  refine ⟨coherent_ofSettings s, List.not_mem_nil, fun _ => List.not_mem_nil, rfl, ?_⟩
  intro i h
  cases (List.mem_replicate.1 (List.mem_of_getElem? h)).2

theorem Unread.change (malformed : ObjectKey.parse? raw = none) (h : Unread raw log d)
    (c : Change d d' news) : Unread raw (log ++ news) d' := by
  have unread : ∀ key, ObjectKey.parse? raw ≠ some key := by simp [malformed]
  have quiet : ∀ outcome, .ended raw outcome ∉ news := by
    intro outcome ended
    obtain ⟨key, parsed⟩ := c.parsed_of_ended h.coherent ended
    exact unread key parsed
  refine ⟨h.coherent.change c, ?_, ?_, ?_, ?_⟩
  · intro started
    rcases List.mem_append.1 started with before | now
    · exact h.started before
    · obtain ⟨key, parsed⟩ := c.parsed_of_started now
      exact unread key parsed
  · intro outcome ended
    exact (List.mem_append.1 ended).elim (h.ended outcome) (quiet outcome)
  · exact (c.lookup_failures quiet).elim (fun same => same.trans h.failures) id
  · intro i now
    exact (c.crashed now).elim (h.crashed i) (quiet .crashed)

theorem Unread.ignored (malformed : ObjectKey.parse? raw = none) (h : Unread raw log d) :
    Ignored raw log d := by
  refine ⟨h.started, h.ended, h.failures, fun held => ?_⟩
  obtain ⟨i, holds⟩ := (h.coherent.processing_iff raw).1 held
  obtain ⟨w, was, keeps⟩ := Option.bind_eq_some_iff.1 holds
  cases w with
  | idle | listening | asleep | stopped => cases keeps
  | reporting => cases keeps; exact ⟨i, Or.inl was⟩
  | settled => cases keeps; exact ⟨i, Or.inr was⟩
  | crashed => cases keeps; exact absurd was (h.crashed i)
  | handling _ key =>
    cases keeps
    cases (h.coherent.parsed i raw key was).symm.trans malformed

theorem run_ignored {s : DispatchSettings} (malformed : ObjectKey.parse? raw = none)
    (r : (ofSettings s).run actions = some d) : Ignored raw ((ofSettings s).history actions) d := by
  have unread := run_induction (P := Unread raw) (fun h c => h.change malformed c) []
    (unread_ofSettings s raw) r
  exact unread.ignored malformed

/-- The worker that reads the text can only drop it. -/
theorem report_malformed (malformed : ObjectKey.parse? raw = none)
    (was : d.workers[i]? = some (.reporting raw)) :
    d.happenings (.report i) = [] ∧ ∃ m, d.step (.report i) = some m ∧
      m.workers[i]? = some (.settled raw) ∧ m.queue.failures.lookup raw = none := by
  let m := { d.reportDepth with queue := d.queue.forget raw }.setWorker i (.settled raw)
  have reported : d.step (.report i) = some m := by
    simp only [step, was, malformed]
    rfl
  have workers : m.workers = d.workers.set i (.settled raw) := rfl
  refine ⟨by simp [happenings, was, malformed], m, reported, ?_, ?_⟩
  · rw [worker_set was workers, if_pos rfl]
  · exact (WorkQueue.lookup_forget d.queue raw raw).trans (if_pos rfl)

/-- A worker that has settled gives its key back. -/
theorem release_settled (was : d.workers[i]? = some (.settled raw)) :
    ∃ d', d.step (.release i) = some d' ∧ raw ∉ d'.queue.processing ∧
      d'.queue.failures = d.queue.failures := by
  refine ⟨(d.giveBack raw).setWorker i .idle, by simp only [step, was], ?_, ?_⟩
  · simp [setWorker, giveBack, WorkQueue.mem_processing_done]
  · simp only [setWorker, giveBack]
    rw [WorkQueue.done_frame]

/-- The keys of objects can be read back from the queue, and nothing else can. Whatever else is put
there reaches no handler, and the worker that takes it leaves no trace of it in the queue. -/
theorem names_survive_queue :
    (∀ raw, ((∃ key, ObjectKey.parse raw = .ok key) ↔ ObjectKey.IsPart raw ∨
        ∃ ns name, ObjectKey.IsPart ns ∧ ObjectKey.IsPart name ∧ raw = ns ++ "/" ++ name) ∧
      ∀ key, ObjectKey.parse raw = .ok key → key.text = raw) ∧
    (∀ (key : ObjectKey) (role : Role), key.WellFormed → role.metadata.name = some key.name →
      role.metadata.ns = key.ns →
        role.key = .ok key ∧ ObjectKey.parse key.text = role.key ∧
        (∀ (d d' : Dispatcher) (e : WatchEvent), e.role? = some role →
          d.step (.event e) = some d' →
          d.happenings (.event e) = [] ∧ d'.queue = d.queue ∨
            d.happenings (.event e) = [.added .event key.text] ∧
              d'.queue = (d.queue.add key.text).2) ∧
        ∀ (d : Dispatcher) (e : WatchEvent), e = .initApply role ∨ e = .delete role →
          d.happenings (.event e) = [.added .event key.text]) ∧
    (∀ key key' : ObjectKey, key.WellFormed → key'.WellFormed → key.text = key'.text →
      key = key') ∧
    ∀ raw, (∀ key, ObjectKey.parse raw ≠ .ok key) →
      (∀ s actions d, (ofSettings s).run actions = some d →
        Ignored raw ((ofSettings s).history actions) d) ∧
      ∀ (d : Dispatcher) (i : Nat),
        (d.workers[i]? = some (.reporting raw) → d.happenings (.report i) = [] ∧
          ∃ m, d.step (.report i) = some m ∧ m.workers[i]? = some (.settled raw) ∧
            m.queue.failures.lookup raw = none) ∧
        (d.workers[i]? = some (.settled raw) → ∃ d', d.step (.release i) = some d' ∧
          raw ∉ d'.queue.processing ∧ d'.queue.failures = d.queue.failures) := by
  refine ⟨fun raw => ⟨?_, ?_⟩, ?_, ?_, ?_⟩
  · simp only [ObjectKey.parse_eq_ok_iff, ObjectKey.parse?_eq_some_iff,
      ObjectKey.exists_wellFormed_iff]
  · intro key parsed
    exact ObjectKey.text_of_parse? (ObjectKey.parse_eq_ok_iff.1 parsed)
  · intro key role fits name ns
    have named : role.metadata.key? = some key := Metadata.key?_of_parts fits.name.1 name ns
    have own : role.key = .ok key := by simp [Role.key, Metadata.key, named]
    have readable : ObjectKey.parse key.text = .ok key :=
      ObjectKey.parse_eq_ok_iff.2 (ObjectKey.parse?_eq_some_iff.2 ⟨fits, rfl⟩)
    exact ⟨own, readable.trans own.symm, fun d d' e about => event_adds_own about named,
      fun d e listed => event_adds_listed listed named⟩
  · intro key key' fits fits' same
    have one := ObjectKey.parse?_eq_some_iff.2 ⟨fits, same⟩
    have other := ObjectKey.parse?_eq_some_iff.2 ⟨fits', rfl⟩
    exact Option.some.inj (one.symm.trans other)
  · intro raw unread
    have malformed : ObjectKey.parse? raw = none := by
      rw [Option.eq_none_iff_forall_ne_some]
      exact fun key parsed => unread key (ObjectKey.parse_eq_ok_iff.2 parsed)
    exact ⟨fun s actions d => run_ignored malformed,
      fun d i => ⟨report_malformed malformed, release_settled⟩⟩

end Dispatcher
end RoleOperator
