import RoleOperator.Proofs.Dispatch.Stopping
import RoleOperator.Proofs.Queue.Waking

/-!
# Free workers

To the queue the workers of a dispatcher are those who want a key; one who holds a key, or is gone,
wants none. So no wake-up is lost between them, and at rest no worker is free while a key waits.
-/
namespace RoleOperator

namespace WaitingRoom.Sound

variable {r : WaitingRoom} {changed : Bool × WorkQueue} {i : Nat} {g g' : Get}

/-- A change of the queue with the wake-up that it asks for. -/
theorem accept_wake (h : r.Sound) (isDown : changed.2.isDown = r.queue.isDown)
    (waiting : changed.2.waiting.length = r.queue.waiting.length + if changed.1 then 1 else 0) :
    { r with
      queue := changed.2
      wakeups := if changed.1 then r.wakeups.wakeOne else r.wakeups }.Sound := by
  have accepted := h.accept isDown waiting
  obtain ⟨again, q⟩ := changed
  cases again with
  | false => exact accepted
  | true =>
    have woken : { r with
        queue := q, wakeups := WakingRule.longest.wake r.wakeups, owed := r.owed + 1 - 1 }.Sound :=
      accepted.notify (Nat.succ_pos r.owed)
    exact woken

/-- One who has ended comes anew. -/
theorem comeBack (h : r.Sound) (was : r.gets[i]? = some g) (away : g.listens = false) :
    (r.setGet i .ready).Sound := by
  refine h.turn was rfl rfl rfl rfl h.wakeups (fun j present => Or.inl ⟨present, ?_⟩)
    (fun j => Or.inl) (by simp) fun _ _ => Or.inr ?_
  · rintro rfl
    exact h.not_present was away present
  · cases g <;> simp_all [Get.listens, Get.looks, setGet]

end WaitingRoom.Sound

/-- What a worker wants of the queue. -/
def Worker.get : Worker → Get
  | .idle => .ready
  | .listening => .listening
  | .asleep => .asleep
  | .stopped | .reporting _ | .handling _ _ | .settled _ | .crashed _ => .ended none

namespace Dispatcher

variable {d d' : Dispatcher} {a : Action} {actions : List Action} {i : Nat} {w : Worker}

/-- The dispatcher as its queue sees it. -/
def room (d : Dispatcher) : WaitingRoom where
  queue := d.queue
  wakeups := d.wakeups
  gets := d.workers.map Worker.get

theorem room_get (was : d.workers[i]? = some w) : d.room.gets[i]? = some w.get := by
  rw [room, List.getElem?_map, was, Option.map_some]

theorem room_setWorker (d : Dispatcher) (i : Nat) (w : Worker) :
    (d.setWorker i w).room = d.room.setGet i w.get := by
  simp only [room, setWorker, WaitingRoom.setGet, List.map_set]

/-- A worker goes on and wants nothing else than before. -/
theorem room_goesOn {w' : Worker} (h : d.room.Sound) (was : d.workers[i]? = some w)
    (same : w'.get = w.get) : (d.setWorker i w').room.Sound := by
  obtain ⟨hi, rfl⟩ := List.getElem?_eq_some_iff.1 was
  have kept : (d.setWorker i w').room = d.room := by
    rw [room_setWorker, same, WaitingRoom.setGet, room, ← List.map_set, List.set_getElem_self]
  rwa [kept]

theorem room_enqueue (h : d.room.Sound) (key : String) : (d.enqueue key).room.Sound :=
  h.accept_wake (WorkQueue.add_isDown _ key) (WorkQueue.add_waiting_length _ key)

theorem room_giveBack (h : d.room.Sound) (key : String) : (d.giveBack key).room.Sound :=
  h.accept_wake (WorkQueue.done_isDown _ key) (WorkQueue.done_waiting_length _ key)

theorem room_settle (h : d.room.Sound) (raw : String) (outcome : HandlerOutcome) :
    (d.settle raw outcome).room.Sound := by
  have forgotten : { d.room with queue := d.queue.forget raw }.Sound := h.of_queue rfl rfl
  have failed : { d.room with queue := (d.queue.fail raw).2 }.Sound := h.of_queue rfl rfl
  cases outcome with
  | ok => exact forgotten
  | crashed => exact h
  | failed =>
    simp only [settle, retry]
    split
    · split
      · exact room_enqueue (d := { d with queue := _, requeued := _ }) failed raw
      · exact failed
    · exact forgotten

/-- One who does not fall asleep leaves the wake-ups at once. -/
theorem room_leaves {q : WorkQueue} {key : Option String} {w' : Worker}
    (was : d.workers[i]? = some w) (gone : w'.get = .ended none)
    (h : ({ d.room with queue := q }.setGet i (.leaving key)).Sound) :
    ({ d with queue := q, wakeups := d.wakeups.leave i }.setWorker i w').room.Sound := by
  have leaving : ({ d.room with queue := q }.setGet i (.leaving key)).gets[i]? =
      some (.leaving key) := by
    rw [WaitingRoom.setGet, getElem?_set_of (room_get was), if_pos rfl]
  have left : ({ { d.room with queue := q }.setGet i (.leaving key) with
      wakeups := WakingRule.longest.leave d.wakeups i }.setGet i (.ended none)).Sound :=
    h.leave leaving rfl (by simp)
  rw [room_setWorker, gone]
  simpa [WaitingRoom.setGet, room, WakingRule.longest_leave] using left

theorem room_look (h : d.room.Sound) (was : d.workers[i]? = some .listening) :
    (d.look i).room.Sound := by
  have looked := h.look (room_get was)
  unfold look
  unfold WaitingRoom.look at looked
  by_cases down : d.queue.isDown
  · rw [if_pos down]
    rw [if_pos (show d.room.queue.isDown from down)] at looked
    exact room_leaves was rfl looked
  · rw [if_neg down]
    rw [if_neg (show ¬ d.room.queue.isDown from down)] at looked
    cases taken : d.queue.take? with
    | none =>
      rw [show d.room.queue.take? = none from taken] at looked
      rw [room_setWorker]
      exact looked
    | some t =>
      rw [show d.room.queue.take? = some t from taken] at looked
      exact room_leaves was rfl looked

theorem room_sound_step (h : d.room.Sound) (s : d.step a = some d') : d'.room.Sound := by
  cases a with
  | event e =>
    simp only [step] at s
    split at s
    · cases put : (d.filter.observe e).1 with
      | none =>
        simp only [put, Option.some.injEq] at s
        subst s
        exact h
      | some k =>
        simp only [put, Option.some.injEq] at s
        subst s
        exact room_enqueue (d := { d with filter := _ }) h k
    · cases s
  | add key =>
    cases s
    exact room_enqueue h key
  | elapse nanos =>
    cases s
    exact h
  | reportIntake | streamEnd =>
    obtain ⟨-, he⟩ := Option.ite_none_right_eq_some.1 s
    cases he
    exact h
  | stop =>
    obtain ⟨-, he⟩ := Option.ite_none_right_eq_some.1 s
    cases he
    have down : { d.room with queue := d.queue.shutDown, closing := 1 }.Sound :=
      h.step (show d.room.step .longest .shutDown = some _ from rfl)
    exact down.announce
  | fire r =>
    obtain ⟨-, he⟩ := Option.ite_none_right_eq_some.1 s
    cases he
    exact room_enqueue (d := { d with retries := _ }) h r.key
  | listen i =>
    obtain ⟨was, he⟩ := Option.ite_none_right_eq_some.1 s
    cases he
    rw [room_setWorker]
    exact h.listen (room_get was)
  | look i =>
    obtain ⟨was, he⟩ := Option.ite_none_right_eq_some.1 s
    cases he
    exact room_look h was
  | wake i =>
    obtain ⟨may, he⟩ := Option.ite_none_right_eq_some.1 s
    cases he
    obtain ⟨was, called⟩ : d.workers[i]? = some .asleep ∧ i ∉ d.wakeups.waiting := by
      simpa using may
    rw [room_setWorker]
    exact h.wake (room_get was) called
  | report i =>
    simp only [step] at s
    split at s
    · next raw was =>
      have forgotten : { d.room with queue := d.queue.forget raw }.Sound := h.of_queue rfl rfl
      split at s <;> cases s
      · exact room_goesOn (d := d.reportDepth) h was rfl
      · exact room_goesOn (d := { d.reportDepth with queue := _ }) forgotten was rfl
    · cases s
  | finish i outcome =>
    simp only [step] at s
    split at s
    · next raw key was =>
      cases s
      have was' : (d.settle raw outcome).workers[i]? = some (.handling raw key) := by
        rwa [(d.settle_frame raw outcome).1]
      exact room_goesOn (room_settle h raw outcome) was' (by cases outcome <;> rfl)
    · cases s
  | release i =>
    simp only [step] at s
    split at s
    · next raw was =>
      cases s
      rw [room_setWorker]
      have was' : (d.giveBack raw).workers[i]? = some (.settled raw) := was
      exact (room_giveBack h raw).comeBack (room_get was') rfl
    · cases s

theorem room_sound_run {s : DispatchSettings} (ran : (ofSettings s).run actions = some d) :
    d.room.Sound := by
  have start : (ofSettings s).room.Sound := by
    refine ⟨⟨List.nodup_nil, fun h => by cases h⟩, ?_, ?_, ?_⟩ <;>
      simp [room, ofSettings, Wakeups.present]
  exact stepwise.keeps room_sound_step start ran

/-! ## At rest -/

theorem Quiescent.room (quiet : d.Quiescent) : d.room.Quiescent .longest := by
  refine WaitingRoom.quiescent_iff.2 ⟨rfl, rfl, fun i g hg pending => ?_⟩
  obtain ⟨w, hw, rfl⟩ : ∃ w, d.workers[i]? = some w ∧ w.get = g := by
    simpa [Dispatcher.room] using hg
  have waits := (quiescent_iff.1 quiet).2 i w hw
  cases w with
  | asleep => exact ⟨rfl, waits⟩
  | idle | listening => exact waits.elim
  | _ => cases pending

/-- At rest no worker is free while a key waits. -/
theorem Quiescent.waiting_eq_nil (quiet : d.Quiescent) (h : d.room.Sound)
    (free : .asleep ∈ d.workers) : d.queue.waiting = [] := by
  by_contra waits
  have idle := h.not_pending quiet.room (Or.inl waits) (List.mem_map_of_mem free)
  cases idle

end Dispatcher
end RoleOperator
