import RoleOperator.Proofs.Dispatch.History
import RoleOperator.Proofs.ObjectKey.Text

/-!
# Coherence of queue and workers

The queue's set of keys that are being processed and the keys in the workers' hands are the same, and
no key is in two hands. This holds in every state of every run, also after a shutdown and with
workers that crashed.
-/
namespace RoleOperator.Dispatcher

variable {d d' : Dispatcher} {i j : Nat} {w w' : Worker} {log : List Happening}

/-- The key in the hands of a worker. -/
def holding (d : Dispatcher) (i : Nat) : Option String := d.workers[i]?.bind Worker.held

/-- The objects of the handler calls in flight. -/
def calls (d : Dispatcher) : List ObjectKey :=
  d.workers.filterMap fun
    | .handling _ key => some key
    | _ => none

structure Coherent (d : Dispatcher) : Prop where
  sound : d.queue.Sound
  processing_iff : ∀ k, k ∈ d.queue.processing ↔ ∃ i, d.holding i = some k
  holder_unique : ∀ i j k, d.holding i = some k → d.holding j = some k → i = j
  parsed : ∀ (i : Nat) raw key, d.workers[i]? = some (.handling raw key) →
    ObjectKey.parse? raw = some key

theorem coherent_ofSettings (s : DispatchSettings) : Coherent (ofSettings s) := by
  have idle : ∀ (i : Nat) w, (ofSettings s).workers[i]? = some w → w = .idle := by
    intro i w h
    exact (List.mem_replicate.1 (List.mem_of_getElem? h)).2
  have free : ∀ i k, (ofSettings s).holding i ≠ some k := by
    intro i k h
    obtain ⟨w, hw, hk⟩ := Option.bind_eq_some_iff.1 h
    rw [idle i w hw] at hk
    cases hk
  refine ⟨WorkQueue.sound_empty _ _, fun k => ?_, fun i j k h => absurd h (free i k), ?_⟩
  · constructor
    · intro h
      cases h
    · rintro ⟨i, h⟩
      exact absurd h (free i k)
  · intro i raw key h
    cases idle i _ h

/-! ## Workers that change what they do -/

theorem worker_set (was : d.workers[i]? = some w) (workers : d'.workers = d.workers.set i w')
    (j : Nat) : d'.workers[j]? = if i = j then some w' else d.workers[j]? := by
  obtain ⟨hi, _⟩ := List.getElem?_eq_some_iff.1 was
  rw [workers, List.getElem?_set, if_pos hi]

theorem holding_set (was : d.workers[i]? = some w) (workers : d'.workers = d.workers.set i w')
    (j : Nat) : d'.holding j = if i = j then w'.held else d.holding j := by
  rw [holding, worker_set was workers]
  split <;> rfl

theorem holding_of_worker (was : d.workers[i]? = some w) : d.holding i = w.held := by
  rw [holding, was]
  rfl

theorem Coherent.parsed_set (h : Coherent d) (was : d.workers[i]? = some w)
    (workers : d'.workers = d.workers.set i w')
    (fits : ∀ raw key, w' = .handling raw key → ObjectKey.parse? raw = some key) (j : Nat)
    (raw : String) (key : ObjectKey) (hj : d'.workers[j]? = some (.handling raw key)) :
    ObjectKey.parse? raw = some key := by
  rw [worker_set was workers] at hj
  split at hj
  · exact fits raw key (Option.some.inj hj)
  · exact h.parsed j raw key hj

/-- A worker that keeps what it holds keeps the rest coherent. -/
theorem Coherent.keep (h : Coherent d) (was : d.workers[i]? = some w)
    (workers : d'.workers = d.workers.set i w') (same : w'.held = w.held)
    (fits : ∀ raw key, w' = .handling raw key → ObjectKey.parse? raw = some key)
    (sound : d'.queue.Sound) (processing : d'.queue.processing = d.queue.processing) :
    Coherent d' := by
  have hold : ∀ j, d'.holding j = d.holding j := by
    intro j
    rw [holding_set was workers]
    split
    · rename_i he
      rw [same, ← he, holding_of_worker was]
    · rfl
  refine ⟨sound, ?_, ?_, h.parsed_set was workers fits⟩
  · intro k
    simp only [processing, hold]
    exact h.processing_iff k
  · intro i j k
    rw [hold, hold]
    exact h.holder_unique i j k

/-- Only the queue changes, and not in what is being processed. -/
theorem Coherent.same_workers (h : Coherent d) (workers : d'.workers = d.workers)
    (sound : d'.queue.Sound) (processing : d'.queue.processing = d.queue.processing) :
    Coherent d' := by
  have hold : ∀ j, d'.holding j = d.holding j := fun j => by rw [holding, workers, holding]
  refine ⟨sound, ?_, ?_, ?_⟩
  · intro k
    simp only [processing, hold]
    exact h.processing_iff k
  · intro i j k
    rw [hold, hold]
    exact h.holder_unique i j k
  · rw [workers]
    exact h.parsed

/-- A free worker takes a key that nobody holds. -/
theorem Coherent.take {raw : String} (h : Coherent d) (was : d.workers[i]? = some .listening)
    (queue : d.queue.take? = some (raw, d'.queue))
    (workers : d'.workers = d.workers.set i (.reporting raw)) : Coherent d' := by
  have hold := holding_set was workers
  have free : ∀ j, d.holding j ≠ some raw := fun j hj =>
    h.sound.idle_of_take queue ((h.processing_iff raw).2 ⟨j, hj⟩)
  refine ⟨h.sound.take queue, ?_, ?_, h.parsed_set was workers (by rintro r key ⟨⟩)⟩
  · intro k
    rw [WorkQueue.mem_processing_take queue]
    constructor
    · rintro (hk | rfl)
      · obtain ⟨j, hj⟩ := (h.processing_iff k).1 hk
        refine ⟨j, ?_⟩
        rw [hold, if_neg, hj]
        -- The worker that takes the key had empty hands.
        rintro rfl
        rw [holding_of_worker was] at hj
        cases hj
      · exact ⟨i, by rw [hold, if_pos rfl]; rfl⟩
    · rintro ⟨j, hj⟩
      rw [hold] at hj
      split at hj
      · exact Or.inr (Option.some.inj hj).symm
      · exact Or.inl ((h.processing_iff k).2 ⟨j, hj⟩)
  · intro a b k ha hb
    rw [hold] at ha hb
    split at ha <;> split at hb
    · rename_i ea eb
      exact ea.symm.trans eb
    · exact absurd (hb.trans ha.symm) (free b)
    · exact absurd (ha.trans hb.symm) (free a)
    · exact h.holder_unique a b k ha hb

/-- The only worker that holds a key gives it back. -/
theorem Coherent.release {raw : String} (h : Coherent d)
    (was : d.workers[i]? = some (.settled raw)) (queue : d'.queue = (d.queue.done raw).2)
    (workers : d'.workers = d.workers.set i .idle) : Coherent d' := by
  have hold := holding_set was workers
  have held : d.holding i = some raw := holding_of_worker was
  refine ⟨?_, ?_, ?_, h.parsed_set was workers (by rintro r key ⟨⟩)⟩
  · rw [queue]
    exact h.sound.done ((h.processing_iff raw).2 ⟨i, held⟩)
  · intro k
    rw [queue, WorkQueue.mem_processing_done]
    constructor
    · rintro ⟨hk, hne⟩
      obtain ⟨j, hj⟩ := (h.processing_iff k).1 hk
      refine ⟨j, ?_⟩
      rw [hold, if_neg, hj]
      rintro rfl
      exact hne (Option.some.inj (hj.symm.trans held))
    · rintro ⟨j, hj⟩
      rw [hold] at hj
      split at hj
      · cases hj
      · rename_i hne
        refine ⟨(h.processing_iff k).2 ⟨j, hj⟩, ?_⟩
        rintro rfl
        exact hne (h.holder_unique i j k held hj)
  · intro a b k ha hb
    rw [hold] at ha hb
    split at ha
    · cases ha
    · split at hb
      · cases hb
      · exact h.holder_unique a b k ha hb

/-! ## Every run is coherent -/

theorem Coherent.change (h : Coherent d) (c : Change d d' log) : Coherent d' := by
  cases c with
  | stay queue workers =>
    exact h.same_workers workers (queue ▸ h.sound) (by rw [queue])
  | shift was free free' queue workers =>
    refine h.keep was workers (free'.trans free.symm) ?_ (queue ▸ h.sound) (by rw [queue])
    rintro raw key rfl
    cases free'
  | add queue workers =>
    exact h.same_workers workers (queue ▸ h.sound.add _) (by rw [queue, WorkQueue.add_processing])
  | fire _ queue workers =>
    exact h.same_workers workers (queue ▸ h.sound.add _) (by rw [queue, WorkQueue.add_processing])
  | take was queue workers => exact h.take was queue workers
  | start was parsed queue workers =>
    refine h.keep was workers rfl ?_ (queue ▸ h.sound) (by rw [queue])
    intro raw key he
    cases he
    exact parsed
  | discard was _ queue workers | succeed was queue workers | drop was _ queue workers =>
    refine h.keep was workers rfl ?_ (queue ▸ h.sound.forget _) (by rw [queue]; rfl)
    intro raw key he
    cases he
  | postpone was _ queue workers =>
    refine h.keep was workers rfl ?_ (queue ▸ h.sound.fail _) (by rw [queue]; rfl)
    intro raw key he
    cases he
  | again was _ queue workers =>
    refine h.keep was workers rfl ?_ (queue ▸ (h.sound.fail _).add _)
      (by rw [queue, WorkQueue.add_processing]; rfl)
    intro raw key he
    cases he
  | crash was queue workers =>
    refine h.keep was workers rfl ?_ (queue ▸ h.sound) (by rw [queue])
    intro raw key he
    cases he
  | release was queue workers => exact h.release was queue workers
  | close queue workers =>
    exact h.same_workers workers (queue ▸ h.sound.shutDown) (by rw [queue]; rfl)

theorem Coherent.run {actions : List Action} (h : Coherent d) (r : d.run actions = some d') :
    Coherent d' :=
  run_induction (P := fun _ d => Coherent d) (fun h c => h.change c) [] h r

theorem Change.workers_length (c : Change d d' log) : d'.workers.length = d.workers.length := by
  cases c <;> simp [*]

theorem run_workers_length {actions : List Action} (r : d.run actions = some d') :
    d'.workers.length = d.workers.length :=
  run_induction (P := fun _ e => e.workers.length = d.workers.length)
    (fun h c => c.workers_length.trans h) [] rfl r

/-! ## Calls in flight -/

/-- No object has two handler calls in flight. -/
theorem Coherent.calls_nodup (h : Coherent d) : d.calls.Nodup := by
  unfold calls List.Nodup
  rw [List.pairwise_filterMap, List.pairwise_iff_getElem]
  intro i j hi hj hlt k hk k' hk' he
  subst he
  split at hk
  · rename_i raw key hw
    split at hk'
    · rename_i raw' key' hw'
      cases hk
      cases hk'
      have wi : d.workers[i]? = some (.handling raw k) := by rw [List.getElem?_eq_getElem hi, hw]
      have wj : d.workers[j]? = some (.handling raw' k) := by rw [List.getElem?_eq_getElem hj, hw']
      have same : raw = raw' := ObjectKey.eq_of_parse? (h.parsed i _ _ wi) (h.parsed j _ _ wj)
      have := h.holder_unique i j raw (holding_of_worker wi) (same ▸ holding_of_worker wj)
      omega
    · cases hk'
  · cases hk

theorem calls_length_le (d : Dispatcher) : d.calls.length ≤ d.workers.length :=
  List.length_filterMap_le _ _

end RoleOperator.Dispatcher
