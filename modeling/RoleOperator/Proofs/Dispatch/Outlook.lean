import Mathlib.Data.List.Count
import RoleOperator.Proofs.Dispatch.Delivery

/-!
# Outlook of a key

What is in store for one key: how many handler calls for it are to come or in flight, and how many
failures are counted. Every step takes one of a few turns for the key, and statements about the number
of calls are proved over these turns.
-/
namespace RoleOperator

def Worker.reports (k : String) : Worker → Bool
  | .reporting raw => raw = k
  | _ => false

def Worker.handles (k : String) : Worker → Bool
  | .handling raw _ => raw = k
  | _ => false

namespace Dispatcher

variable {d d' : Dispatcher} {news : List Happening} {k : String} {up : Prop}

/-- The key that something happens to. -/
def Happening.key : Happening → String
  | .added _ k | .taken k | .started k | .ended k _ | .dropped k => k

/-- Chances are the ways in which the key is on its way to a call: by a timer, as dirty, or in the
hands of a worker that is about to call. -/
structure Outlook where
  chances : Nat
  calls : Nat
  failures : Nat

def marks (d : Dispatcher) (k : String) : Nat := if k ∈ d.queue.dirty then 1 else 0

def outlook (d : Dispatcher) (k : String) : Outlook where
  chances := d.retries.countP (·.key = k) + d.marks k + d.workers.countP (Worker.reports k)
  calls := d.workers.countP (Worker.handles k)
  failures := d.queue.requeues k

/-- What a step can mean for a key. A chance is lost only to another one or to the shutdown. -/
inductive Turn (limit : Nat) (up : Prop) (k : String) (o o' : Outlook) : List Happening → Prop where
  | rest {news : List Happening} (unrelated : ∀ x ∈ news, x.key ≠ k) (same : o' = o) :
      Turn limit up k o o' news
  | take (same : o' = o) : Turn limit up k o o' [.taken k]
  | add {origin : Origin} (outside : origin ≠ .retry)
      (chances : o'.chances = o.chances + 1 ∨ o'.chances = o.chances ∧ (up → 0 < o.chances))
      (calls : o'.calls = o.calls) (failures : o'.failures = o.failures) :
      Turn limit up k o o' [.added origin k]
  | fire
      (chances : o'.chances = o.chances ∨ o'.chances + 1 = o.chances ∧ (up → 0 < o'.chances))
      (calls : o'.calls = o.calls) (failures : o'.failures = o.failures) :
      Turn limit up k o o' [.added .retry k]
  | start (chances : o'.chances + 1 = o.chances) (calls : o'.calls = o.calls + 1)
      (failures : o'.failures = o.failures) : Turn limit up k o o' [.started k]
  | succeed (chances : o'.chances = o.chances) (calls : o'.calls + 1 = o.calls)
      (failures : o'.failures = 0) : Turn limit up k o o' [.ended k .ok]
  | retry {back : List Happening} (added : ∀ x ∈ back, x = .added .retry k)
      (budget : o.failures < limit)
      (chances : o'.chances = o.chances + 1 ∨ o'.chances = o.chances ∧ (up → 0 < o.chances))
      (calls : o'.calls + 1 = o.calls) (failures : o'.failures = o.failures + 1) :
      Turn limit up k o o' (.ended k .failed :: back)
  | drop (spent : limit ≤ o.failures) (chances : o'.chances = o.chances)
      (calls : o'.calls + 1 = o.calls) (failures : o'.failures = 0) :
      Turn limit up k o o' [.ended k .failed, .dropped k]
  | crash (chances : o'.chances = o.chances) (calls : o'.calls + 1 = o.calls)
      (failures : o'.failures = o.failures) : Turn limit up k o o' [.ended k .crashed]

/-! ## Counting -/

theorem countP_set {p : Worker → Bool} {i : Nat} {w w' : Worker} (was : d.workers[i]? = some w)
    (workers : d'.workers = d.workers.set i w') :
    d'.workers.countP p + (if p w then 1 else 0) =
      d.workers.countP p + (if p w' then 1 else 0) := by
  obtain ⟨hi, rfl⟩ := List.getElem?_eq_some_iff.1 was
  have hpos : p d.workers[i] = true → 0 < d.workers.countP p := fun h =>
    List.countP_pos_iff.2 ⟨_, List.getElem_mem hi, h⟩
  rw [workers, List.countP_set hi]
  split
  · next h =>
    have := hpos h
    omega
  · omega

theorem marks_eq (h : k ∈ d'.queue.dirty ↔ k ∈ d.queue.dirty) : d'.marks k = d.marks k := by
  simp only [marks, h]

theorem marks_add (h : k ∈ d'.queue.dirty ↔ k ∈ d.queue.dirty ∨ d.queue.isDown = false) :
    d'.marks k = d.marks k + 1 ∨
      d'.marks k = d.marks k ∧ (d.queue.isDown = false → 0 < d.marks k) := by
  by_cases hd : k ∈ d.queue.dirty
  · right
    simp [marks, h, hd]
  · cases up : d.queue.isDown with
    | true =>
      right
      simp [marks, h, hd, up]
    | false =>
      left
      simp [marks, h, hd, up]

/-- A key that is added with all else as it was has one chance more, unless it was dirty already. -/
theorem chances_add (dirty : k ∈ d'.queue.dirty ↔ k ∈ d.queue.dirty ∨ d.queue.isDown = false)
    (retries : d'.retries.countP (·.key = k) = d.retries.countP (·.key = k))
    (reports : d'.workers.countP (Worker.reports k) = d.workers.countP (Worker.reports k)) :
    (d'.outlook k).chances = (d.outlook k).chances + 1 ∨
      (d'.outlook k).chances = (d.outlook k).chances ∧
        (d.queue.isDown = false → 0 < (d.outlook k).chances) := by
  simp only [outlook, retries, reports]
  rcases marks_add dirty with hm | ⟨hm, hpos⟩
  · omega
  · right
    refine ⟨by omega, fun up => ?_⟩
    have := hpos up
    omega

/-- A timer of the key, which has fired. -/
def Fires (d d' : Dispatcher) (key : String) : Prop :=
  ∃ r ∈ d.retries, r.key = key ∧ d'.queue = (d.queue.add key).2 ∧ d'.workers = d.workers ∧
    d'.retries = d.retries.erase r

theorem Fires.turn {key : String} (h : Fires d d' key) :
    Turn d.maxRequeues (d.queue.isDown = false) k (d.outlook k) (d'.outlook k)
      [.added .retry key] := by
  obtain ⟨r, pending, rfl, queue, workers, retries⟩ := h
  have hc : d'.retries.countP (·.key = k) + (if r.key = k then 1 else 0) =
      d.retries.countP (·.key = k) := by
    have hpos : r.key = k → 0 < d.retries.countP (·.key = k) := fun he =>
      List.countP_pos_iff.2 ⟨r, pending, by simpa using he⟩
    rw [retries, List.countP_erase]
    by_cases he : r.key = k
    · have := hpos he
      simp [pending, he]
      omega
    · simp [he]
  have hf : d'.queue.requeues k = d.queue.requeues k := by
    rw [queue, WorkQueue.requeues_add]
  by_cases he : r.key = k
  · subst he
    rw [if_pos rfl] at hc
    refine .fire ?_ ?_ hf
    · have hd : r.key ∈ d'.queue.dirty ↔ r.key ∈ d.queue.dirty ∨ d.queue.isDown = false := by
        simp [queue, WorkQueue.mem_dirty_add]
      simp only [outlook, workers]
      rcases marks_add hd with hm | ⟨hm, hpos⟩
      · omega
      · right
        refine ⟨by omega, fun up => ?_⟩
        have := hpos up
        omega
    · simp only [outlook, workers]
  · rw [if_neg he] at hc
    have hm : d'.marks k = d.marks k := marks_eq (by
      rw [queue, WorkQueue.mem_dirty_add]
      simp [Ne.symm he])
    refine .rest (by simpa [Happening.key] using he) ?_
    simp only [outlook, workers, hf, hm]
    congr 1
    omega

/-- A worker that turns from one thing to another, neither of which has to do with the key. -/
theorem outlook_set {i : Nat} {w w' : Worker} (was : d.workers[i]? = some w)
    (workers : d'.workers = d.workers.set i w') (reports : w.reports k = w'.reports k)
    (handles : w.handles k = w'.handles k)
    (retries : d'.retries.countP (·.key = k) = d.retries.countP (·.key = k))
    (dirty : k ∈ d'.queue.dirty ↔ k ∈ d.queue.dirty)
    (failures : d'.queue.requeues k = d.queue.requeues k) : d'.outlook k = d.outlook k := by
  have hr := countP_set (p := Worker.reports k) was workers
  have hh := countP_set (p := Worker.handles k) was workers
  have hm : d'.marks k = d.marks k := marks_eq dirty
  rw [reports] at hr
  rw [handles] at hh
  simp only [outlook, retries, hm, failures, Nat.add_right_cancel hr, Nat.add_right_cancel hh]

/-- A call for the key that ends. -/
theorem counts_end {i : Nat} {key : ObjectKey} {w' : Worker}
    (was : d.workers[i]? = some (.handling k key)) (workers : d'.workers = d.workers.set i w')
    (reports : w'.reports k = false) (handles : w'.handles k = false) :
    d'.workers.countP (Worker.reports k) = d.workers.countP (Worker.reports k) ∧
      d'.workers.countP (Worker.handles k) + 1 = d.workers.countP (Worker.handles k) := by
  have hr := countP_set (p := Worker.reports k) was workers
  have hh := countP_set (p := Worker.handles k) was workers
  rw [reports] at hr
  rw [handles] at hh
  exact ⟨by simpa [Worker.reports] using hr, by simpa [Worker.handles] using hh⟩

/-! ## One lemma for each end of a call, and for what comes before it -/

variable {raw : String}

theorem Change.turn_taken (c : Change d d' [.taken raw]) (h : d.Coherent) :
    Turn d.maxRequeues (d.queue.isDown = false) k (d.outlook k) (d'.outlook k) [.taken raw] := by
  have dirty := c.mem_dirty (k := k)
  cases c with
  | take was queue workers retries =>
    have failures : d'.queue.requeues k = d.queue.requeues k := WorkQueue.requeues_take queue k
    by_cases he : raw = k
    · subst he
      -- The key was dirty, and now a worker reports it.
      refine .take ?_
      have hd : d.marks raw = 1 := if_pos (h.sound.dirty_of_take queue)
      have hd' : d'.marks raw = 0 := by simp [marks, dirty, Adds]
      have hr := countP_set (p := Worker.reports raw) was workers
      have hh := countP_set (p := Worker.handles raw) was workers
      simp [Worker.reports, Worker.handles] at hr hh
      simp only [outlook, retries, failures, hd, hd', hh, hr]
      congr 1
      omega
    · exact .rest (by simpa [Happening.key] using he) (outlook_set was workers
        (by simp [Worker.reports, he]) rfl (by rw [retries])
        (by simp [dirty, Adds, Ne.symm he]) failures)

theorem Change.turn_started (c : Change d d' [.started raw]) :
    Turn d.maxRequeues up k (d.outlook k) (d'.outlook k) [.started raw] := by
  cases c with
  | start was _ queue workers retries =>
    by_cases he : raw = k
    · subst he
      have hr := countP_set (p := Worker.reports raw) was workers
      have hh := countP_set (p := Worker.handles raw) was workers
      simp [Worker.reports, Worker.handles] at hr hh
      refine .start ?_ hh (by simp only [outlook, queue])
      simp only [outlook, marks, queue, retries]
      omega
    · exact .rest (by simpa [Happening.key] using he) (outlook_set was workers
        (by simp [Worker.reports, he]) (by simp [Worker.handles, he]) (by rw [retries])
        (by rw [queue]) (by rw [queue]))

theorem Change.turn_ok (c : Change d d' [.ended raw .ok]) :
    Turn d.maxRequeues up k (d.outlook k) (d'.outlook k) [.ended raw .ok] := by
  cases c with
  | succeed was queue workers retries =>
    have failures := WorkQueue.requeues_forget d.queue raw k
    rw [← queue] at failures
    by_cases he : raw = k
    · subst he
      obtain ⟨hr, hh⟩ := counts_end was workers rfl rfl
      have hm : d'.marks raw = d.marks raw := marks_eq (by rw [queue]; rfl)
      exact .succeed (by simp only [outlook, retries, hr, hm]) hh (failures.trans (if_pos rfl))
    · rw [if_neg (Ne.symm he)] at failures
      exact .rest (by simpa [Happening.key] using he) (outlook_set was workers rfl
        (by simp [Worker.handles, he]) (by rw [retries]) (by rw [queue]; rfl) failures)

theorem Change.turn_crashed (c : Change d d' [.ended raw .crashed]) :
    Turn d.maxRequeues up k (d.outlook k) (d'.outlook k) [.ended raw .crashed] := by
  cases c with
  | crash was queue workers retries =>
    by_cases he : raw = k
    · subst he
      obtain ⟨hr, hh⟩ := counts_end was workers rfl rfl
      have hm : d'.marks raw = d.marks raw := marks_eq (by rw [queue])
      exact .crash (by simp only [outlook, retries, hr, hm]) hh (by simp only [outlook, queue])
    · exact .rest (by simpa [Happening.key] using he) (outlook_set was workers rfl
        (by simp [Worker.handles, he]) (by rw [retries]) (by rw [queue]) (by rw [queue]))

theorem Change.turn_dropped (c : Change d d' [.ended raw .failed, .dropped raw]) :
    Turn d.maxRequeues up k (d.outlook k) (d'.outlook k) [.ended raw .failed, .dropped raw] := by
  cases c with
  | drop was spent queue workers retries =>
    have failures := WorkQueue.requeues_forget d.queue raw k
    rw [← queue] at failures
    by_cases he : raw = k
    · subst he
      obtain ⟨hr, hh⟩ := counts_end was workers rfl rfl
      have hm : d'.marks raw = d.marks raw := marks_eq (by rw [queue]; rfl)
      exact .drop spent (by simp only [outlook, retries, hr, hm]) hh (failures.trans (if_pos rfl))
    · rw [if_neg (Ne.symm he)] at failures
      exact .rest (by simpa [Happening.key] using he) (outlook_set was workers rfl
        (by simp [Worker.handles, he]) (by rw [retries]) (by rw [queue]; rfl) failures)

theorem Change.turn_postponed (c : Change d d' [.ended raw .failed]) :
    Turn d.maxRequeues up k (d.outlook k) (d'.outlook k) [.ended raw .failed] := by
  cases c with
  | postpone was budget queue workers retries =>
    have failures := WorkQueue.requeues_fail d.queue raw k
    rw [← queue] at failures
    by_cases he : raw = k
    · subst he
      obtain ⟨hr, hh⟩ := counts_end was workers rfl rfl
      have hm : d'.marks raw = d.marks raw := marks_eq (by rw [queue]; rfl)
      have ht : d'.retries.countP (·.key = raw) = d.retries.countP (·.key = raw) + 1 := by
        simp [retries, List.countP_append]
      refine .retry (by simp) budget (Or.inl ?_) hh (failures.trans (if_pos rfl))
      simp only [outlook, hr, hm, ht]
      omega
    · rw [if_neg (Ne.symm he)] at failures
      exact .rest (by simpa [Happening.key] using he) (outlook_set was workers rfl
        (by simp [Worker.handles, he]) (by simp [retries, List.countP_append, he])
        (by rw [queue]; rfl) failures)

theorem Change.turn_again (c : Change d d' [.ended raw .failed, .added .retry raw]) :
    Turn d.maxRequeues (d.queue.isDown = false) k (d.outlook k) (d'.outlook k)
      [.ended raw .failed, .added .retry raw] := by
  have dirty := c.mem_dirty (k := k)
  cases c with
  | again was budget queue workers retries =>
    have failures := WorkQueue.requeues_add (d.queue.fail raw).2 raw k
    rw [← queue, WorkQueue.requeues_fail] at failures
    by_cases he : raw = k
    · subst he
      obtain ⟨hr, hh⟩ := counts_end was workers rfl rfl
      exact .retry (by simp) budget (chances_add (by simp [dirty, Adds]) (by rw [retries]) hr) hh
        (failures.trans (if_pos rfl))
    · rw [if_neg (Ne.symm he)] at failures
      exact .rest (by simpa [Happening.key] using he) (outlook_set was workers rfl
        (by simp [Worker.handles, he]) (by rw [retries])
        (by simp [dirty, Adds, Ne.symm he]) failures)

theorem Change.turn_added {origin : Origin} {key : String} (outside : origin ≠ .retry)
    (c : Change d d' [.added origin key]) :
    Turn d.maxRequeues (d.queue.isDown = false) k (d.outlook k) (d'.outlook k)
      [.added origin key] := by
  have dirty := c.mem_dirty (k := k)
  cases c with
  | fire => exact absurd rfl outside
  | add queue workers retries =>
    have failures : d'.queue.requeues k = d.queue.requeues k := by
      rw [queue, WorkQueue.requeues_add]
    by_cases he : key = k
    · subst he
      exact .add outside (chances_add (by simp [dirty, Adds]) (by rw [retries]) (by rw [workers]))
        (by simp only [outlook, workers]) failures
    · have hm : d'.marks k = d.marks k := marks_eq (by simp [dirty, Adds, Ne.symm he])
      exact .rest (by simpa [Happening.key] using he)
        (by simp only [outlook, workers, retries, failures, hm])

/-! ## Every step is a turn -/

theorem Change.turn (c : Change d d' news) (h : d.Coherent) (parses : (ObjectKey.parse? k).isSome)
    (timer : ∀ key, news = [.added .retry key] → Fires d d' key) :
    Turn d.maxRequeues (d.queue.isDown = false) k (d.outlook k) (d'.outlook k) news := by
  cases c with
  | stay queue workers retries =>
    exact .rest (by simp) (by simp only [outlook, marks, queue, workers, retries])
  | close queue workers retries =>
    exact .rest (by simp) (by simp only [outlook, marks, queue, workers, retries]; rfl)
  | @shift i w w' was free free' queue workers retries =>
    have reports : ∀ v : Worker, v.held = none → v.reports k = false := by
      intro v hv
      cases v <;> simp_all [Worker.held, Worker.reports]
    have handles : ∀ v : Worker, v.held = none → v.handles k = false := by
      intro v hv
      cases v <;> simp_all [Worker.held, Worker.handles]
    exact .rest (by simp) (outlook_set was workers (by rw [reports w free, reports w' free'])
      (by rw [handles w free, handles w' free']) (by rw [retries]) (by rw [queue]) (by rw [queue]))
  | @add origin key queue workers retries =>
    by_cases outside : origin = .retry
    · subst outside
      exact (timer key rfl).turn
    · exact (Change.add queue workers retries).turn_added outside
  | @fire r => exact (timer r.key rfl).turn
  | take was queue workers retries => exact (Change.take was queue workers retries).turn_taken h
  | start was parsed queue workers retries =>
    exact (Change.start was parsed queue workers retries).turn_started
  | @discard i raw was malformed queue workers retries =>
    have he : raw ≠ k := by
      rintro rfl
      simp [malformed] at parses
    exact .rest (by simp) (outlook_set was workers (by simp [Worker.reports, he]) rfl
      (by rw [retries]) (by rw [queue]; rfl)
      (by rw [queue, WorkQueue.requeues_forget, if_neg (Ne.symm he)]))
  | succeed was queue workers retries => exact (Change.succeed was queue workers retries).turn_ok
  | postpone was budget queue workers retries =>
    exact (Change.postpone was budget queue workers retries).turn_postponed
  | again was budget queue workers retries =>
    exact (Change.again was budget queue workers retries).turn_again
  | drop was spent queue workers retries =>
    exact (Change.drop was spent queue workers retries).turn_dropped
  | crash was queue workers retries => exact (Change.crash was queue workers retries).turn_crashed
  | release was queue workers retries =>
    exact .rest (by simp) (outlook_set was workers rfl rfl (by rw [retries])
      (by rw [queue, WorkQueue.done_dirty]) (by rw [queue, WorkQueue.requeues_done]))

/-- What comes back from a timer had a timer. -/
theorem fires_of_step {a : Action} {key : String} (h : d.step a = some d')
    (back : d.happenings a = [.added .retry key]) : Fires d d' key := by
  cases a with
  | fire r =>
    obtain ⟨pending, he⟩ := Option.ite_none_right_eq_some.1 h
    cases he
    cases back
    exact ⟨r, pending.1, rfl, rfl, rfl, rfl⟩
  | event e =>
    cases hk : (d.filter.observe e).1 <;> simp [happenings, hk] at back
  | look i =>
    cases ht : d.queue.take? <;> simp [happenings, ht] at back
  | report i =>
    simp only [happenings] at back
    split at back
    · split at back <;> cases back
    · cases back
  | finish i outcome =>
    simp only [happenings] at back
    split at back
    · cases outcome with
      | failed =>
        simp only [settlement] at back
        split at back
        · split at back <;> cases back
        · cases back
      | ok | crashed => cases back
    · cases back
  | _ => cases back

theorem turn_of_step {a : Action} (h : d.Coherent) (parses : (ObjectKey.parse? k).isSome)
    (s : d.step a = some d') :
    Turn d.maxRequeues (d.queue.isDown = false) k (d.outlook k) (d'.outlook k) (d.happenings a) :=
  (change_of_step s).turn h parses fun _ back => fires_of_step s back

end Dispatcher
end RoleOperator
