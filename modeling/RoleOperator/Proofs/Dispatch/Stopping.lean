import RoleOperator.Proofs.Dispatch.Intake
import RoleOperator.Proofs.Dispatch.Outlook
import RoleOperator.Proofs.Queue.Wakeups
import RoleOperator.Proofs.Stepwise

/-!
# Stopping

From the shutdown on no key is taken up any more. The calls in flight go on to their end, and once
the last one has ended, all that keeps the dispatcher from returning are a few more steps of the
workers, none of which waits for anything.
-/
namespace RoleOperator

theorem Worker.reports_of_free {w : Worker} {k : String} (free : w.held = none) :
    w.reports k = false := by
  cases w <;> simp_all [Worker.held, Worker.reports]

namespace Dispatcher

variable {d d' e f : Dispatcher} {log news : List Happening} {actions : List Action} {a : Action}
  {k raw : String} {i : Nat} {key : ObjectKey}

/-! ## Nothing is taken up -/

/-- A change of a queue that is down leaves it down, with the same keys waiting. -/
theorem Change.down (c : Change d d' news) (down : d.queue.isDown) :
    d'.queue.isDown ∧ d'.queue.waiting = d.queue.waiting ∧ ∀ k, .taken k ∉ news := by
  cases c with
  | take _ queue =>
    rw [(WorkQueue.take?_eq_some queue).1] at down
    cases down
  | add queue | fire _ queue =>
    rw [queue, WorkQueue.add_isDown, WorkQueue.add_waiting]
    simp [down]
  | again _ _ queue =>
    rw [queue, WorkQueue.add_isDown, WorkQueue.add_waiting]
    simp [down, WorkQueue.fail]
  | release _ queue =>
    rw [queue, WorkQueue.done_isDown, WorkQueue.done_waiting]
    simp [down]
  | stay queue | shift _ _ _ queue | start _ _ queue | discard _ _ queue | succeed _ queue
  | postpone _ _ queue | drop _ _ queue | crash _ queue | close queue =>
    rw [queue]
    simp [down, WorkQueue.forget, WorkQueue.fail, WorkQueue.shutDown]

/-- A call starts in the hands of a worker that has taken the key before. -/
theorem Change.starts (c : Change d d' news) (k : String) :
    news.count (.started k) + d'.workers.countP (Worker.reports k) ≤
      d.workers.countP (Worker.reports k) + news.count (.taken k) := by
  cases c with
  | stay _ workers | add _ workers | fire _ _ workers | close _ workers => simp [workers]
  | @shift i w w' was free free' _ workers =>
    have hr := countP_set (p := Worker.reports k) was workers
    rw [Worker.reports_of_free free, Worker.reports_of_free free'] at hr
    simpa using Nat.le_of_eq hr
  | @take i raw was _ workers =>
    have hr := countP_set (p := Worker.reports k) was workers
    by_cases he : raw = k <;> simp [Worker.reports, he] at hr ⊢ <;> omega
  | @start i raw key was _ _ workers =>
    have hr := countP_set (p := Worker.reports k) was workers
    by_cases he : raw = k <;> simp [Worker.reports, he] at hr ⊢ <;> omega
  | discard was _ _ workers | succeed was _ workers | postpone was _ _ workers
  | again was _ _ workers | drop was _ _ workers | crash was _ workers | release was _ workers =>
    have hr := countP_set (p := Worker.reports k) was workers
    simp [Worker.reports] at hr ⊢
    omega

/-- Once the queue is down, only those who had taken a key before start calls. -/
theorem run_down (down : d.queue.isDown) (r : d.run actions = some d') :
    d'.queue.isDown ∧ d'.queue.waiting = d.queue.waiting ∧ ∀ k,
      (d.history actions).count (.started k) + d'.workers.countP (Worker.reports k) ≤
        d.workers.countP (Worker.reports k) := by
  refine run_induction (P := fun log f => f.queue.isDown ∧ f.queue.waiting = d.queue.waiting ∧
    ∀ k, log.count (.started k) + f.workers.countP (Worker.reports k) ≤
      d.workers.countP (Worker.reports k)) ?_ [] ⟨down, rfl, by simp⟩ r
  rintro m m' log news ⟨hd, waiting, starts⟩ c
  obtain ⟨hd', waiting', untaken⟩ := c.down hd
  refine ⟨hd', waiting'.trans waiting, fun k => ?_⟩
  have before := starts k
  have now := c.starts k
  rw [List.count_eq_zero_of_not_mem (untaken k)] at now
  rw [List.count_append]
  omega

/-! ## What is in flight -/

/-- A call in flight goes on until it ends. -/
theorem Change.handling (c : Change d d' news) (was : d.workers[i]? = some (.handling raw key)) :
    d'.workers[i]? = some (.handling raw key) ∨ ∃ outcome, .ended raw outcome ∈ news := by
  have kept : ∀ {j : Nat} {w w' : Worker}, d.workers[j]? = some w →
      d'.workers = d.workers.set j w' → w ≠ .handling raw key →
      d'.workers[i]? = some (.handling raw key) := by
    intro j w w' hj workers other
    rw [worker_set hj workers, if_neg, was]
    rintro rfl
    exact other (Option.some.inj (hj.symm.trans was))
  have ends : ∀ {j : Nat} {raw' : String} {key' : ObjectKey} {w' : Worker}
      {outcome : HandlerOutcome}, d.workers[j]? = some (.handling raw' key') →
      d'.workers = d.workers.set j w' → .ended raw' outcome ∈ news →
      d'.workers[i]? = some (.handling raw key) ∨ ∃ outcome, .ended raw outcome ∈ news := by
    intro j raw' key' w' outcome hj workers ended
    by_cases he : raw' = raw ∧ key' = key
    · exact Or.inr ⟨outcome, he.1 ▸ ended⟩
    · exact Or.inl (kept hj workers (by simpa using he))
  cases c with
  | stay _ workers | add _ workers | fire _ _ workers | close _ workers =>
    exact Or.inl (workers ▸ was)
  | shift hj free _ _ workers => exact Or.inl (kept hj workers (by rintro rfl; cases free))
  | take hj _ workers | start hj _ _ workers | discard hj _ _ workers | release hj _ workers =>
    exact Or.inl (kept hj workers (by simp))
  | succeed hj _ workers | crash hj _ workers => exact ends hj workers List.mem_cons_self
  | postpone hj _ _ workers | again hj _ _ workers | drop hj _ _ workers =>
    exact ends hj workers List.mem_cons_self

theorem run_handling (was : d.workers[i]? = some (.handling raw key))
    (r : d.run actions = some d') :
    d'.workers[i]? = some (.handling raw key) ∨
      ∃ outcome, .ended raw outcome ∈ d.history actions := by
  refine run_induction (P := fun log f => f.workers[i]? = some (.handling raw key) ∨
    ∃ outcome, .ended raw outcome ∈ log) ?_ [] (Or.inl was) r
  rintro m m' log news (going | ⟨outcome, ended⟩) c
  · refine (c.handling going).imp_right ?_
    rintro ⟨outcome, ended⟩
    exact ⟨outcome, List.mem_append_right _ ended⟩
  · exact Or.inr ⟨outcome, List.mem_append_left _ ended⟩

/-- A worker whose call has crashed keeps its key for good. -/
theorem Change.crashes (c : Change d d' news) (k : String) : d'.workers.count (.crashed k) =
    d.workers.count (.crashed k) + news.count (.ended k .crashed) := by
  cases c with
  | stay _ workers | add _ workers | fire _ _ workers | close _ workers => simp [workers]
  | @shift i w w' was free free' _ workers =>
    have kept : ∀ v : Worker, v.held = none → (v == .crashed k) = false := by
      intro v hv
      cases v <;> simp_all [Worker.held]
    have hc := countP_set (p := (· == .crashed k)) was workers
    rw [kept w free, kept w' free'] at hc
    simpa [List.count] using hc
  | @crash i raw key was _ workers =>
    have hc := countP_set (p := (· == .crashed k)) was workers
    by_cases he : raw = k <;> simpa [List.count, he] using hc
  | take was _ workers | start was _ _ workers | discard was _ _ workers | succeed was _ workers
  | postpone was _ _ workers | again was _ _ workers | drop was _ _ workers
  | release was _ workers =>
    have hc := countP_set (p := (· == .crashed k)) was workers
    simpa [List.count] using hc

/-! ## Coming to rest -/

/-- A step of the dispatcher's own tasks that waits for nothing: neither for an event nor for a
handler, nor for time to pass. -/
def Action.isOwn : Action → Bool
  | .reportIntake | .listen _ | .look _ | .wake _ | .report _ | .release _ => true
  | _ => false

/-- All tasks have run as far as they can. -/
def Quiescent (d : Dispatcher) : Prop := ∀ a : Action, a.isOwn → d.step a = none

/-- Whoever has gone as far as possible, before a key or a handler's end comes. -/
def Waits (d : Dispatcher) (i : Nat) : Worker → Prop
  | .asleep => i ∈ d.wakeups.waiting
  | .handling _ _ | .stopped | .crashed _ => True
  | .idle | .listening | .reporting _ | .settled _ => False

theorem quiescent_iff : d.Quiescent ↔
    d.intake ≠ .reporting ∧ ∀ (i : Nat) w, d.workers[i]? = some w → d.Waits i w := by
  constructor
  · intro quiet
    refine ⟨fun reporting => ?_, fun i w hw => ?_⟩
    · simpa [step, reporting] using quiet .reportIntake rfl
    · cases w with
      | idle => simpa [step, hw] using quiet (.listen i) rfl
      | listening => simpa [step, hw] using quiet (.look i) rfl
      | asleep => simpa [step, hw, Waits] using quiet (.wake i) rfl
      | reporting raw =>
        have stuck := quiet (.report i) rfl
        simp only [step, hw] at stuck
        split at stuck <;> cases stuck
      | settled raw => simpa [step, hw] using quiet (.release i) rfl
      | handling | stopped | crashed => trivial
  · rintro ⟨intake, waits⟩ a own
    cases a with
    | reportIntake => exact if_neg intake
    | listen i => exact if_neg fun was => (waits i .idle was).elim
    | look i => exact if_neg fun was => (waits i .listening was).elim
    | wake i =>
      refine if_neg fun may => ?_
      obtain ⟨was, called⟩ : d.workers[i]? = some .asleep ∧ i ∉ d.wakeups.waiting := by
        simpa using may
      exact called (waits i _ was)
    | report i =>
      simp only [step]
      split
      · next raw was => exact (waits i _ was).elim
      · rfl
    | release i =>
      simp only [step]
      split
      · next raw was => exact (waits i _ was).elim
      · rfl
    | _ => cases own

/-- How many steps of its own a worker has left at most, once the queue is down. -/
def effort : Worker → Nat
  | .handling _ _ | .stopped | .crashed _ => 0
  | .listening => 1
  | .idle => 2
  | .asleep | .settled _ => 3
  | .reporting _ => 4

def totalEffort (d : Dispatcher) : Nat := (d.workers.map effort).sum

/-- The event loop is over. Whoever sleeps has been woken. -/
structure Closed (d : Dispatcher) : Prop where
  down : d.queue.isDown
  stopped : d.intake = .stopped
  roused : ∀ i, d.workers[i]? = some .asleep → i ∉ d.wakeups.waiting

theorem closed_of_stop (h : d.step .stop = some e) : e.Closed := by
  obtain ⟨-, he⟩ := Option.ite_none_right_eq_some.1 h
  cases he
  exact ⟨rfl, rfl, fun i _ => List.not_mem_nil⟩

theorem enqueue_wakeups (down : d.queue.isDown) (key : String) :
    (d.enqueue key).wakeups = d.wakeups := by
  simp [enqueue, WorkQueue.add, down]

theorem giveBack_wakeups (down : d.queue.isDown) (key : String) :
    (d.giveBack key).wakeups = d.wakeups := by
  simp [giveBack, WorkQueue.done, down]

theorem settle_frame (d : Dispatcher) (raw : String) (outcome : HandlerOutcome) :
    (d.settle raw outcome).workers = d.workers ∧ (d.settle raw outcome).intake = d.intake ∧
      (d.settle raw outcome).depth = d.depth := by
  cases outcome with
  | ok | crashed => exact ⟨rfl, rfl, rfl⟩
  | failed =>
    simp only [settle, retry]
    split
    · split <;> exact ⟨rfl, rfl, rfl⟩
    · exact ⟨rfl, rfl, rfl⟩

theorem settle_wakeups (down : d.queue.isDown) (raw : String) (outcome : HandlerOutcome) :
    (d.settle raw outcome).wakeups = d.wakeups := by
  cases outcome with
  | ok | crashed => rfl
  | failed =>
    simp only [settle, retry]
    split
    · split
      · refine enqueue_wakeups ?_ raw
        exact down
      · rfl
    · rfl

/-- One worker goes on, and does not fall asleep. -/
theorem Closed.turn {w w' : Worker} (h : d.Closed) (s : d.step a = some d')
    (was : d.workers[i]? = some w) (workers : d'.workers = d.workers.set i w')
    (awake : w' ≠ .asleep) (waiting : ∀ j ∈ d'.wakeups.waiting, j ∈ d.wakeups.waiting ∨ j = i) :
    d'.Closed := by
  refine ⟨((change_of_step s).down h.down).1, ?_, ?_⟩
  · rcases (follows_of_step s).intake with stopped | ⟨-, kept⟩
    · exact stopped
    · exact kept h.stopped
  · intro j asleep inLine
    rw [worker_set was workers] at asleep
    split at asleep
    · exact awake (Option.some.inj asleep)
    · next other => exact (waiting j inLine).elim (h.roused j asleep) fun he => other he.symm

/-- No worker goes on, and nobody comes into line. -/
theorem Closed.keep (h : d.Closed) (s : d.step a = some d') (workers : d'.workers = d.workers)
    (wakeups : d'.wakeups = d.wakeups) : d'.Closed := by
  refine ⟨((change_of_step s).down h.down).1, ?_, ?_⟩
  · exact (follows_of_step s).intake.elim id fun kept => kept.2 h.stopped
  · rw [workers, wakeups]
    exact h.roused

theorem Closed.step (h : d.Closed) (s : d.step a = some d') : d'.Closed := by
  have run := s
  cases a with
  | event e => simp [Dispatcher.step, h.stopped] at run
  | reportIntake | streamEnd | stop => simp [Dispatcher.step, h.stopped] at run
  | elapse nanos =>
    cases run
    exact h.keep s rfl rfl
  | add key =>
    cases run
    exact h.keep s rfl (enqueue_wakeups h.down key)
  | fire r =>
    obtain ⟨-, he⟩ := Option.ite_none_right_eq_some.1 run
    cases he
    refine h.keep s rfl (enqueue_wakeups ?_ r.key)
    exact h.down
  | listen i =>
    obtain ⟨was, he⟩ := Option.ite_none_right_eq_some.1 run
    cases he
    exact h.turn s was rfl (by simp) fun j => Wakeups.mem_waiting_listen
  | look i =>
    obtain ⟨was, he⟩ := Option.ite_none_right_eq_some.1 run
    rw [look, if_pos h.down] at he
    cases he
    refine h.turn s was rfl (by simp) fun j hj => Or.inl ?_
    change j ∈ (d.wakeups.leave i).waiting at hj
    rw [← WakingRule.longest_leave] at hj
    exact WakingRule.mem_waiting_leave hj
  | wake i =>
    obtain ⟨was, he⟩ := Option.ite_none_right_eq_some.1 run
    cases he
    exact h.turn s (by simpa using (Bool.and_eq_true_iff.1 was).1) rfl (by simp) fun j => Or.inl
  | report i =>
    simp only [Dispatcher.step] at run
    split at run
    · next raw was =>
      split at run <;> cases run <;> exact h.turn s was rfl (by simp) fun j => Or.inl
    · cases run
  | finish i outcome =>
    simp only [Dispatcher.step] at run
    split at run
    · next raw key was =>
      have wakeups := settle_wakeups h.down raw outcome
      have next : d'.workers = d.workers.set i
          (if outcome = .crashed then .crashed raw else .settled raw) := by
        cases run
        rw [setWorker, (d.settle_frame raw outcome).1]
      refine h.turn s was next (by cases outcome <;> simp) fun j hj => Or.inl ?_
      cases run
      rwa [← wakeups]
    · cases run
  | release i =>
    simp only [Dispatcher.step] at run
    split at run
    · next raw was =>
      cases run
      refine h.turn s was rfl (by simp) fun j hj => Or.inl ?_
      rwa [← giveBack_wakeups h.down raw]
    · cases run

theorem stepwise : Stepwise Dispatcher.step Dispatcher.run := ⟨fun _ => rfl, fun _ _ _ => rfl⟩

theorem Closed.run (h : d.Closed) (r : d.run actions = some d') : d'.Closed :=
  stepwise.keeps Closed.step h r

/-- Every step that waits for nothing brings a worker closer to its end, and takes no time. -/
theorem Closed.own_step (h : d.Closed) (own : a.isOwn) (s : d.step a = some d') :
    d'.totalEffort < d.totalEffort ∧ d'.now = d.now := by
  have lower : ∀ {i : Nat} {w w' : Worker}, d.workers[i]? = some w →
      d'.workers = d.workers.set i w' → effort w' < effort w → d'.totalEffort < d.totalEffort := by
    intro i w w' was workers less
    have total := sum_map_set effort was w'
    rw [← workers] at total
    unfold totalEffort
    omega
  cases a with
  | reportIntake => simp [Dispatcher.step, h.stopped] at s
  | listen i =>
    obtain ⟨was, he⟩ := Option.ite_none_right_eq_some.1 s
    cases he
    exact ⟨lower was rfl (by decide), rfl⟩
  | look i =>
    obtain ⟨was, he⟩ := Option.ite_none_right_eq_some.1 s
    rw [look, if_pos h.down] at he
    cases he
    exact ⟨lower was rfl (by decide), rfl⟩
  | wake i =>
    obtain ⟨was, he⟩ := Option.ite_none_right_eq_some.1 s
    cases he
    have asleep : d.workers[i]? = some .asleep := by simpa using (Bool.and_eq_true_iff.1 was).1
    exact ⟨lower asleep rfl (by decide), rfl⟩
  | report i =>
    simp only [Dispatcher.step] at s
    split at s
    · next raw was =>
      split at s <;> cases s <;> exact ⟨lower was rfl (by simp [effort]), rfl⟩
    · cases s
  | release i =>
    simp only [Dispatcher.step] at s
    split at s
    · next raw was =>
      cases s
      exact ⟨lower was rfl (by simp [effort]), rfl⟩
    · cases s
  | _ => cases own

theorem Closed.own_run (h : d.Closed) (own : ∀ a ∈ actions, a.isOwn) (r : d.run actions = some d') :
    actions.length + d'.totalEffort ≤ d.totalEffort ∧ d'.now = d.now := by
  have keeps : ∀ {m m' : Dispatcher} {a : Action}, a.isOwn → (m.Closed ∧ m.now = d.now) →
      m.step a = some m' → m'.Closed ∧ m'.now = d.now := fun own ⟨closed, now⟩ s =>
    ⟨closed.step s, (closed.own_step own s).2.trans now⟩
  exact ⟨stepwise.length_le (fun own h s => ⟨h.step s, (h.own_step own s).1⟩) own h r,
    (stepwise.keeps_of keeps own ⟨h, rfl⟩ r).2⟩

/-- The tasks come to rest. -/
theorem Closed.exists_quiescent (h : d.Closed) :
    ∃ own g, (∀ a ∈ own, a.isOwn) ∧ d.run own = some g ∧ g.Quiescent :=
  stepwise.comes_to_rest (fun own h s => ⟨h.step s, (h.own_step own s).1⟩) h

theorem totalEffort_le (d : Dispatcher) : d.totalEffort ≤ 4 * d.workers.length := by
  unfold totalEffort
  induction d.workers with
  | nil => exact Nat.le_refl _
  | cons w rest ih =>
    have few : effort w ≤ 4 := by cases w <;> simp [effort]
    rw [List.map_cons, List.sum_cons, List.length_cons]
    omega

/-- Whoever has nothing to do but to wait handles a key, or is gone. -/
theorem Closed.worker_quiescent {w : Worker} (h : d.Closed) (quiet : d.Quiescent)
    (hw : d.workers[i]? = some w) :
    (∃ raw key, w = .handling raw key) ∨ w = .stopped ∨ ∃ raw, w = .crashed raw := by
  have waits := (quiescent_iff.1 quiet).2 i w hw
  cases w with
  | handling raw key => exact Or.inl ⟨raw, key, rfl⟩
  | stopped => exact Or.inr (Or.inl rfl)
  | crashed raw => exact Or.inr (Or.inr ⟨raw, rfl⟩)
  | asleep => exact absurd waits (h.roused i hw)
  | idle | listening | reporting | settled => exact waits.elim

/-! ## The end -/

theorem isFinished_iff : d.isFinished ↔
    d.intake = .stopped ∧ ∀ w ∈ d.workers, w = .stopped ∨ ∃ raw, w = .crashed raw := by
  simp only [isFinished, Bool.and_eq_true, decide_eq_true_eq, List.all_eq_true]
  refine and_congr_right fun _ => forall₂_congr fun w _ => ?_
  cases w <;> simp

theorem inFlight_eq_nil : d.inFlight = [] ↔ ∀ w ∈ d.workers, ∀ raw key, w ≠ .handling raw key := by
  rw [inFlight, List.filterMap_eq_nil_iff]
  refine forall₂_congr fun w _ => ?_
  cases w <;> simp

theorem inFlight_of_finished (h : d.isFinished) : d.inFlight = [] := by
  refine inFlight_eq_nil.2 fun w hw raw key => ?_
  rcases (isFinished_iff.1 h).2 w hw with rfl | ⟨_, rfl⟩ <;> simp

theorem Closed.finished_iff (h : d.Closed) (quiet : d.Quiescent) :
    d.isFinished ↔ d.inFlight = [] := by
  refine ⟨inFlight_of_finished, fun none => isFinished_iff.2 ⟨h.stopped, fun w hw => ?_⟩⟩
  obtain ⟨i, hi⟩ := List.mem_iff_getElem?.1 hw
  refine (h.worker_quiescent quiet hi).resolve_left ?_
  rintro ⟨raw, key, rfl⟩
  exact inFlight_eq_nil.1 none _ hw raw key rfl

/-- Whoever is gone and still holds a key has crashed over it. -/
theorem processing_of_finished (h : d.Coherent) (finished : d.isFinished) :
    k ∈ d.queue.processing ↔ .crashed k ∈ d.workers := by
  rw [h.processing_iff]
  constructor
  · rintro ⟨i, hi⟩
    obtain ⟨w, hw, held⟩ := Option.bind_eq_some_iff.1 hi
    have member := List.mem_of_getElem? hw
    rcases (isFinished_iff.1 finished).2 w member with rfl | ⟨raw, rfl⟩
    · cases held
    · cases held
      exact member
  · intro crashed
    obtain ⟨i, hi⟩ := List.mem_iff_getElem?.1 crashed
    exact ⟨i, holding_of_worker hi⟩

theorem run_crashed {s : DispatchSettings} (r : (ofSettings s).run actions = some d) :
    .crashed k ∈ d.workers ↔ .ended k .crashed ∈ (ofSettings s).history actions := by
  have counted := run_induction
    (P := fun log d => d.workers.count (.crashed k) = log.count (.ended k .crashed))
    (by
      intro m m' log news h c
      rw [c.crashes k, h, List.count_append])
    [] (by simp [ofSettings, List.count_replicate]) r
  rw [List.nil_append] at counted
  rw [← List.count_pos_iff, counted, List.count_pos_iff]

/-! ## Before the stop -/

theorem running_of_kept (kept : d'.intakeState = d.intakeState) (h : d.intake ≠ .stopped) :
    d'.intake ≠ .stopped := by
  have same : d'.intake = d.intake := congrArg (·.2.1) kept
  rwa [same]

theorem running_of_step (h : d.intake ≠ .stopped) (s : d.step a = some d') (going : a ≠ .stop) :
    d'.intake ≠ .stopped := by
  cases a with
  | stop => exact absurd rfl going
  | event e => exact running_of_event s
  | reportIntake | streamEnd =>
    obtain ⟨-, he⟩ := Option.ite_none_right_eq_some.1 s
    cases he
    simp
  | add key =>
    cases s
    exact running_of_kept (enqueue_intakeState key) h
  | elapse nanos =>
    cases s
    exact h
  | listen i | wake i =>
    obtain ⟨-, he⟩ := Option.ite_none_right_eq_some.1 s
    cases he
    exact h
  | look i =>
    obtain ⟨-, he⟩ := Option.ite_none_right_eq_some.1 s
    cases he
    exact running_of_kept (look_intakeState i) h
  | fire r =>
    obtain ⟨-, he⟩ := Option.ite_none_right_eq_some.1 s
    cases he
    exact running_of_kept (enqueue_intakeState r.key) h
  | report i =>
    simp only [step] at s
    split at s
    · split at s <;> cases s <;> exact h
    · cases s
  | finish i outcome =>
    simp only [step] at s
    split at s
    · next raw key was =>
      cases s
      exact running_of_kept (settle_intakeState (d := d) raw outcome) h
    · cases s
  | release i =>
    simp only [step] at s
    split at s
    · next raw was =>
      cases s
      exact running_of_kept (giveBack_intakeState (d := d) raw) h
    · cases s

theorem run_running (h : d.intake ≠ .stopped) (going : .stop ∉ actions)
    (r : d.run actions = some d') : d'.intake ≠ .stopped :=
  stepwise.keeps_of (fun other h s => running_of_step h s other)
    (fun _ member he => going (he ▸ member)) h r

/-! ## The whole course -/

/-- The dispatcher never returns before it is stopped. From the shutdown on the same keys wait for
good. If the workers' turns were not divided no call starts any more; if they were, no call starts but
for a key that a worker had taken already. Calls in flight go on to their end. The tasks come to rest in
a few steps that take no time, and then the dispatcher has returned exactly if no call is in flight. The
keys that it leaves in processing are those whose handlers have crashed. -/
theorem stop_drains {s : DispatchSettings} {before after : List Action}
    (r : (ofSettings s).run before = some d) (stop : d.step .stop = some e)
    (r' : e.run after = some f) :
    (∀ actions m, .stop ∉ actions → (ofSettings s).run actions = some m → m.isFinished = false) ∧
    f.queue.waiting = d.queue.waiting ∧
    ((ofSettings s).undivided before → ∀ k, .started k ∉ e.history after) ∧
    (∀ k, (e.history after).count (.started k) ≤ d.workers.countP (Worker.reports k)) ∧
    ((∀ k, ¬ d.Picked k) → ∀ k, .started k ∉ e.history after) ∧
    (∀ (i : Nat) raw key, d.workers[i]? = some (.handling raw key) →
      f.workers[i]? = some (.handling raw key) ∨ ∃ outcome, .ended raw outcome ∈ e.history after) ∧
    (∃ own g, (∀ a ∈ own, a.isOwn) ∧ f.run own = some g ∧ g.Quiescent) ∧
    (∀ own g, (∀ a ∈ own, a.isOwn) → f.run own = some g → own.length ≤ 4 * s.workers ∧
      g.now = f.now ∧ (g.Quiescent → (g.isFinished ↔ g.inFlight = []))) ∧
    (f.isFinished → f.inFlight = [] ∧ ∀ k, k ∈ f.queue.processing ↔
      .ended k .crashed ∈ (ofSettings s).history (before ++ .stop :: after)) := by
  have closed := closed_of_stop stop
  have same : e.workers = d.workers ∧ e.queue.waiting = d.queue.waiting := by
    obtain ⟨-, he⟩ := Option.ite_none_right_eq_some.1 stop
    cases he
    exact ⟨rfl, rfl⟩
  obtain ⟨-, waiting, starts⟩ := run_down closed.down r'
  rw [same.1] at starts
  have whole : (ofSettings s).run (before ++ .stop :: after) = some f := by
    refine stepwise.append r ?_
    rw [run, stop]
    exact r'
  have few : f.workers.length = s.workers := by
    rw [run_workers_length whole]
    exact List.length_replicate
  have untouched : (∀ k, ¬ d.Picked k) → ∀ k, .started k ∉ e.history after := by
    intro free k started
    have bound := starts k
    have none : d.workers.countP (Worker.reports k) = 0 := by
      refine List.countP_eq_zero.2 fun w hw reports => ?_
      obtain ⟨i, hi⟩ := List.mem_iff_getElem?.1 hw
      cases w with
      | reporting raw => exact free k ⟨i, by rw [hi, of_decide_eq_true reports]⟩
      | _ => cases reports
    have positive := List.count_pos_iff.2 started
    omega
  refine ⟨?_, waiting.trans same.2, fun whole => untouched (not_picked_of_undivided whole r),
    fun k => ?_, untouched, fun i raw key was => ?_,
    (closed.run r').exists_quiescent, fun own g mine ran => ?_, fun finished => ⟨?_, fun k => ?_⟩⟩
  · intro actions m going ran
    refine Bool.eq_false_iff.2 fun finished => ?_
    exact run_running (by simp [ofSettings]) going ran (isFinished_iff.1 finished).1
  · have bound := starts k
    omega
  · exact run_handling (same.1 ▸ was) r'
  · obtain ⟨length, now⟩ := (closed.run r').own_run mine ran
    have bound := totalEffort_le f
    rw [few] at bound
    exact ⟨by omega, now, ((closed.run r').run ran).finished_iff⟩
  · exact inFlight_of_finished finished
  · rw [processing_of_finished ((coherent_ofSettings s).run whole) finished, run_crashed whole]

/-- Two calls are in flight, the key of one of them is dirty, and a third key waits. -/
def untilStop : List Action :=
  [.add "demo/a", .add "demo/b", .listen 0, .look 0, .report 0, .listen 1, .look 1, .report 1,
    .listen 2, .look 2, .add "demo/b", .add "demo/c"]

/-- One call crashes. The other one fails, and its timer comes too late. -/
def afterStop : List Action :=
  [.wake 2, .add "demo/d", .finish 0 .crashed, .listen 2, .look 2, .finish 1 .failed, .release 1,
    .listen 1, .look 1, .elapse 5000000, .fire ⟨5000000, "demo/b"⟩]

theorem untilStop_drains : ∃ d e f, (ofSettings { workers := 3 }).run untilStop = some d ∧
    (ofSettings { workers := 3 }).undivided untilStop ∧ d.step .stop = some e ∧ e.run afterStop = some f ∧ f.isFinished ∧
    f.queue.waiting = ["demo/c"] ∧ (∀ k, .started k ∉ e.history afterStop) ∧
    ∀ k, k ∈ f.queue.processing ↔ k = "demo/a" := by
  obtain ⟨d, r⟩ : ∃ d, (ofSettings { workers := 3 }).run untilStop = some d := ⟨_, rfl⟩
  have before : ((ofSettings { workers := 3 }).run untilStop).map (·.queue.waiting) =
      some ["demo/c"] := rfl
  have course : (((ofSettings { workers := 3 }).run untilStop).bind (·.step .stop)).bind
      (fun e => (e.run afterStop).map isFinished) = some true := rfl
  have log : (ofSettings { workers := 3 }).history (untilStop ++ .stop :: afterStop) =
      [.added .direct "demo/a", .added .direct "demo/b", .taken "demo/a", .started "demo/a",
        .taken "demo/b", .started "demo/b", .added .direct "demo/b", .added .direct "demo/c",
        .added .direct "demo/d", .ended "demo/a" .crashed, .ended "demo/b" .failed,
        .added .retry "demo/b"] := rfl
  rw [r] at before course
  obtain ⟨e, stop, later⟩ := Option.bind_eq_some_iff.1 course
  obtain ⟨f, r', finished⟩ := Option.map_eq_some_iff.1 later
  have whole : (ofSettings { workers := 3 }).undivided untilStop := rfl
  obtain ⟨-, kept, quiet, -, -, -, -, -, left⟩ := stop_drains r stop r'
  refine ⟨d, e, f, r, whole, stop, r', finished, kept.trans (Option.some.inj before), quiet whole,
    fun k => ?_⟩
  rw [(left finished).2 k, log]
  simp

end Dispatcher
end RoleOperator
