import RoleOperator.Proofs.Dispatch.FreeWorkers

/-!
# The reported depth

The depth of the queue is reported by the event loop after each key that it adds, and by a worker after
each key that it takes. A retry's timer adds its key and reports nothing. So at rest the depth last
reported counts all keys that wait but those that timers have brought since then.
-/
namespace RoleOperator.Dispatcher

variable {d d' : Dispatcher} {a : Action} {actions : List Action} {keys : List String} {k : String}

/-! ## Keys that nobody has reported -/

/-- The key, if adding it puts it in line. -/
def entering (d : Dispatcher) (key : String) : List String :=
  if (d.queue.add key).1 then [key] else []

/-- The keys that have been put in line by a timer or directly since the depth was last reported. -/
def unreportedAfter (d : Dispatcher) (keys : List String) : Action → List String
  | .report _ | .reportIntake => []
  | .fire r => keys ++ d.entering r.key
  | .add key => keys ++ d.entering key
  | _ => keys

/-- These keys after a run, from those before it. -/
def unreported (d : Dispatcher) (keys : List String) : List Action → List String
  | [] => keys
  | a :: rest =>
    match d.step a with
    | some d' => d'.unreported (d.unreportedAfter keys a) rest
    | none => keys

theorem unreported_cons {rest : List Action} (s : d.step a = some d') :
    d.unreported keys (a :: rest) = d'.unreported (d.unreportedAfter keys a) rest := by
  simp only [unreported, s]

theorem waiting_enqueue (d : Dispatcher) (key : String) :
    (d.enqueue key).queue.waiting = d.queue.waiting ++ d.entering key := by
  change (d.queue.add key).2.waiting = _
  unfold entering WorkQueue.add
  split
  · simp
  · dsimp only
    split <;> simp

/-! ## Reports that are due -/

/-- A worker with such a task reports the depth before it comes to rest. -/
def WillReport (d : Dispatcher) : Worker → Prop
  | .reporting _ => True
  | .idle | .listening => d.queue.waiting ≠ []
  | .asleep | .handling _ _ | .settled _ | .stopped | .crashed _ => False

def ReportDue (d : Dispatcher) : Prop := d.intake = .reporting ∨ ∃ w ∈ d.workers, d.WillReport w

theorem WillReport.mono {w : Worker} (h : d.WillReport w)
    (line : d.queue.waiting ≠ [] → d'.queue.waiting ≠ []) : d'.WillReport w := by
  cases w with
  | reporting => trivial
  | idle | listening => exact line h
  | _ => exact h.elim

theorem ReportDue.keep (h : d.ReportDue) (intake : d'.intake = d.intake)
    (workers : d'.workers = d.workers) (line : d.queue.waiting ≠ [] → d'.queue.waiting ≠ []) :
    d'.ReportDue := by
  rcases h with reporting | ⟨w, member, will⟩
  · exact Or.inl (intake.trans reporting)
  · exact Or.inr ⟨w, workers ▸ member, will.mono line⟩

theorem reportDue_of_worker {i : Nat} {w : Worker} (hw : d.workers[i]? = some w)
    (will : d.WillReport w) : d.ReportDue :=
  Or.inr ⟨w, List.mem_of_getElem? hw, will⟩

/-- One worker goes on; if it was to report, it still is. -/
theorem ReportDue.turn {i : Nat} {w w' : Worker} (h : d.ReportDue) (was : d.workers[i]? = some w)
    (workers : d'.workers = d.workers.set i w') (intake : d'.intake = d.intake)
    (line : d.queue.waiting ≠ [] → d'.queue.waiting ≠ [])
    (own : d.WillReport w → d'.WillReport w') : d'.ReportDue := by
  rcases h with reporting | ⟨v, member, will⟩
  · exact Or.inl (intake.trans reporting)
  · obtain ⟨j, hj⟩ := List.mem_iff_getElem?.1 member
    have now := worker_set was workers j
    split at now
    · next same =>
      subst same
      obtain rfl : w = v := Option.some.inj (was.symm.trans hj)
      exact reportDue_of_worker now (own will)
    · exact reportDue_of_worker (now.trans hj) (will.mono line)

theorem Quiescent.not_reportDue (quiet : d.Quiescent) : ¬ d.ReportDue := by
  obtain ⟨intake, waits⟩ := quiescent_iff.1 quiet
  rintro (reporting | ⟨w, member, will⟩)
  · exact intake reporting
  · obtain ⟨i, hi⟩ := List.mem_iff_getElem?.1 member
    have stuck := waits i w hi
    cases w with
    | reporting | idle | listening => exact stuck
    | _ => exact will

/-! ## What the reported depth counts -/

/-- The depth last reported counts all keys in line but the last ones, which nobody has reported. -/
def CountsAllBut (d : Dispatcher) (keys : List String) : Prop :=
  ∃ seen, d.depth.getD 0 = seen.length ∧ d.queue.waiting = seen ++ keys

def Gauged (d : Dispatcher) (keys : List String) : Prop := d.ReportDue ∨ d.CountsAllBut keys

theorem gauged_of_report (depth : d.depth = some d.queue.depth) : d.Gauged [] :=
  Or.inr ⟨d.queue.waiting, by rw [depth]; rfl, (List.append_nil _).symm⟩

theorem CountsAllBut.keep (h : d.CountsAllBut keys) (depth : d'.depth = d.depth)
    (waiting : d'.queue.waiting = d.queue.waiting) : d'.CountsAllBut keys := by
  rwa [CountsAllBut, depth, waiting]

/-- Nothing has come into line and nothing has gone. -/
theorem Gauged.keep (h : d.Gauged keys) (intake : d'.intake = d.intake) (depth : d'.depth = d.depth)
    (workers : d'.workers = d.workers) (waiting : d'.queue.waiting = d.queue.waiting) :
    d'.Gauged keys :=
  h.imp (fun due => due.keep intake workers (waiting ▸ id)) fun told => told.keep depth waiting

/-- One worker goes on, and the line stays as it was. -/
theorem Gauged.turn {i : Nat} {w w' : Worker} (h : d.Gauged keys) (was : d.workers[i]? = some w)
    (workers : d'.workers = d.workers.set i w') (intake : d'.intake = d.intake)
    (depth : d'.depth = d.depth) (waiting : d'.queue.waiting = d.queue.waiting)
    (own : d.WillReport w → d'.WillReport w') : d'.Gauged keys :=
  h.imp (fun due => due.turn was workers intake (waiting ▸ id) own) fun told => told.keep depth waiting

theorem Gauged.enqueue (h : d.Gauged keys) (key : String) :
    (d.enqueue key).Gauged (keys ++ d.entering key) := by
  have line := d.waiting_enqueue key
  refine h.imp (fun due => due.keep rfl rfl fun waits => by simp [line, waits]) ?_
  rintro ⟨seen, depth, waiting⟩
  exact ⟨seen, depth, by rw [line, waiting, List.append_assoc]⟩

/-- A key that is given back and comes into line again is followed by its worker's look at the line. -/
theorem Gauged.release {i : Nat} {raw : String} (h : d.Gauged keys)
    (was : d.workers[i]? = some (.settled raw)) :
    ((d.giveBack raw).setWorker i .idle).Gauged keys := by
  have line : ((d.giveBack raw).setWorker i .idle).queue.waiting = _ := d.queue.done_waiting raw
  by_cases again : raw ∈ d.queue.dirty ∧ d.queue.isDown = false
  · rw [if_pos again] at line
    refine Or.inl (reportDue_of_worker (i := i) (w := .idle) ?_ ?_)
    · rw [worker_set (d := d) was rfl, if_pos rfl]
    · simp [WillReport, line]
  · rw [if_neg again] at line
    exact h.turn was rfl rfl rfl line False.elim

/-- The end of a call puts no key in line: one that is retried at once is still being processed. -/
theorem settle_waiting {raw : String} (held : raw ∈ d.queue.processing) (outcome : HandlerOutcome) :
    (d.settle raw outcome).queue.waiting = d.queue.waiting := by
  cases outcome with
  | ok | crashed => rfl
  | failed =>
    have kept : ((d.queue.fail raw).2.add raw).2.waiting = d.queue.waiting := by
      rw [WorkQueue.add_waiting, if_neg fun free => free.2.2 held]
      rfl
    simp only [settle, retry]
    split
    · split
      · exact kept
      · rfl
    · rfl

theorem Gauged.finish {i : Nat} {raw : String} {key : ObjectKey} (h : d.Gauged keys)
    (coherent : d.Coherent) (was : d.workers[i]? = some (.handling raw key))
    (outcome : HandlerOutcome) (next : Worker) :
    ((d.settle raw outcome).setWorker i next).Gauged keys := by
  have held : raw ∈ d.queue.processing := (coherent.processing_iff raw).2 ⟨i, holding_of_worker was⟩
  obtain ⟨workers, intake, depth⟩ := d.settle_frame raw outcome
  have turned : ((d.settle raw outcome).setWorker i next).workers = d.workers.set i next := by
    rw [setWorker, workers]
  exact h.turn was turned intake depth (settle_waiting held outcome) False.elim

theorem Gauged.look {i : Nat} (h : d.Gauged keys) (was : d.workers[i]? = some .listening)
    (up : d.queue.isDown = false) : (d.look i).Gauged keys := by
  have open' : ¬ d.queue.isDown := by simp [up]
  unfold Dispatcher.look
  rw [if_neg open']
  cases taken : d.queue.take? with
  | none =>
    have empty := WorkQueue.waiting_of_take? up taken
    exact h.turn was rfl rfl rfl rfl fun waits => absurd empty waits
  | some t =>
    refine Or.inl (reportDue_of_worker (i := i) (w := .reporting t.1) ?_ trivial)
    exact (worker_set was rfl i).trans (if_pos rfl)

theorem Gauged.step (h : d.Gauged keys) (coherent : d.Coherent) (s : d.step a = some d')
    (up : d'.queue.isDown = false) : d'.Gauged (d.unreportedAfter keys a) := by
  have run := s
  cases a with
  | stop =>
    obtain ⟨-, he⟩ := Option.ite_none_right_eq_some.1 run
    cases he
    cases up
  | event e =>
    simp only [Dispatcher.step] at run
    split at run
    · cases put : (d.filter.observe e).1 with
      | none =>
        simp only [put, Option.some.injEq] at run
        subst run
        exact h.keep rfl rfl rfl rfl
      | some k =>
        simp only [put, Option.some.injEq] at run
        subst run
        exact Or.inl (Or.inl rfl)
    · cases run
  | reportIntake =>
    obtain ⟨-, he⟩ := Option.ite_none_right_eq_some.1 run
    cases he
    exact gauged_of_report rfl
  | streamEnd =>
    obtain ⟨watching, he⟩ := Option.ite_none_right_eq_some.1 run
    cases he
    refine h.imp ?_ id
    rintro (reporting | will)
    · rw [watching] at reporting
      cases reporting
    · exact Or.inr will
  | add key =>
    cases run
    exact h.enqueue key
  | fire r =>
    obtain ⟨-, he⟩ := Option.ite_none_right_eq_some.1 run
    cases he
    have before : ({ d with retries := d.retries.erase r } : Dispatcher).Gauged keys :=
      h.keep rfl rfl rfl rfl
    exact before.enqueue r.key
  | elapse nanos =>
    cases run
    exact h.keep rfl rfl rfl rfl
  | listen i =>
    obtain ⟨was, he⟩ := Option.ite_none_right_eq_some.1 run
    cases he
    exact h.turn was rfl rfl rfl rfl id
  | look i =>
    obtain ⟨was, he⟩ := Option.ite_none_right_eq_some.1 run
    cases he
    exact h.look was ((change_of_step s).isDown up)
  | wake i =>
    obtain ⟨may, he⟩ := Option.ite_none_right_eq_some.1 run
    cases he
    have was : d.workers[i]? = some .asleep := by simpa using (Bool.and_eq_true_iff.1 may).1
    exact h.turn was rfl rfl rfl rfl False.elim
  | report i =>
    simp only [Dispatcher.step] at run
    split at run
    · split at run <;> cases run <;> exact gauged_of_report rfl
    · cases run
  | finish i outcome =>
    simp only [Dispatcher.step] at run
    split at run
    · next raw key was =>
      cases run
      exact h.finish coherent was outcome _
    · cases run
  | release i =>
    simp only [Dispatcher.step] at run
    split at run
    · next raw was =>
      cases run
      exact h.release was
    · cases run

theorem Gauged.run (h : d.Gauged keys) (coherent : d.Coherent) (ran : d.run actions = some d')
    (up : d'.queue.isDown = false) : d'.Gauged (d.unreported keys actions) := by
  induction actions generalizing d keys with
  | nil =>
    cases ran
    exact h
  | cons a rest ih =>
    obtain ⟨m, first, others⟩ := run_cons ran
    rw [unreported_cons first]
    exact ih (h.step coherent first (run_isDown others up))
      (coherent.change (change_of_step first)) others

/-! ## Whether anything has been reported -/

/-- The depth has been reported, or will be at once. -/
def Heard (d : Dispatcher) : Prop := d.intake = .reporting ∨ d.depth.isSome

theorem Heard.step (h : d.Heard) (s : d.step a = some d') : d'.Heard := by
  cases a with
  | event e =>
    simp only [Dispatcher.step] at s
    split at s
    · cases put : (d.filter.observe e).1 with
      | none =>
        simp only [put, Option.some.injEq] at s
        subst s
        exact h
      | some k =>
        simp only [put, Option.some.injEq] at s
        subst s
        exact Or.inl rfl
    · cases s
  | reportIntake =>
    obtain ⟨-, he⟩ := Option.ite_none_right_eq_some.1 s
    cases he
    exact Or.inr rfl
  | report i =>
    simp only [Dispatcher.step] at s
    split at s
    · split at s <;> cases s <;> exact Or.inr rfl
    · cases s
  | streamEnd | stop =>
    obtain ⟨idle, he⟩ := Option.ite_none_right_eq_some.1 s
    cases he
    refine Or.inr (h.resolve_left fun reporting => ?_)
    simp [reporting] at idle
  | add | elapse =>
    cases s
    exact h
  | fire | listen | wake =>
    obtain ⟨-, he⟩ := Option.ite_none_right_eq_some.1 s
    cases he
    exact h
  | look i =>
    obtain ⟨-, he⟩ := Option.ite_none_right_eq_some.1 s
    cases he
    unfold look
    split
    · exact h
    · split <;> exact h
  | finish i outcome =>
    simp only [Dispatcher.step] at s
    split at s
    · next raw key was =>
      cases s
      obtain ⟨-, intake, depth⟩ := d.settle_frame raw outcome
      exact h.imp intake.trans fun some => by rwa [setWorker, depth]
    · cases s
  | release i =>
    simp only [Dispatcher.step] at s
    split at s
    · cases s
      exact h
    · cases s

theorem heard_of_added (s : d.step a = some d') (added : .added .event k ∈ d.happenings a) :
    d'.Heard := by
  cases a with
  | event e =>
    have put : (d.filter.observe e).1 = some k := by simpa [happenings] using added
    simp only [Dispatcher.step, put] at s
    split at s
    · cases s
      exact Or.inl rfl
    · cases s
  | finish i outcome =>
    simp only [happenings] at added
    split at added
    · cases outcome <;> simp only [settlement] at added
      · simp at added
      · split at added
        · split at added <;> simp at added
        · simp at added
      · simp at added
    · cases added
  | report i =>
    simp only [happenings] at added
    split at added
    · split at added <;> simp at added
    · cases added
  | _ => simp [happenings] at added

theorem Heard.run (ran : d.run actions = some d')
    (h : d.Heard ∨ ∃ k, .added .event k ∈ d.history actions) : d'.Heard := by
  induction actions generalizing d with
  | nil =>
    cases ran
    refine h.resolve_right ?_
    rintro ⟨k, added⟩
    cases added
  | cons a rest ih =>
    obtain ⟨m, first, others⟩ := run_cons ran
    rw [history_cons first] at h
    rcases h with heard | ⟨k, added⟩
    · exact ih others (Or.inl (heard.step first))
    rcases List.mem_append.1 added with now | later
    · exact ih others (Or.inl (heard_of_added first now))
    · exact ih others (Or.inr ⟨k, later⟩)

/-! ## At rest -/

/-- That at rest, once an event has been accepted and until the stop, the depth last reported is the
number of keys that wait. -/
def DepthTruthful : Prop :=
  ∀ (s : DispatchSettings) (actions : List Action) (d : Dispatcher),
    (ofSettings s).run actions = some d → (∀ key, .add key ∉ actions) → d.queue.isDown = false →
    d.Quiescent → (∀ r ∈ d.retries, d.now < r.due) →
    (∃ key, .added .event key ∈ (ofSettings s).history actions) → d.depth = some d.queue.depth

def writer : Role := { reader with metadata := { reader.metadata with name := some "writer" } }

/-- The call for one object fails; its timer fires while the only worker is busy with another one. -/
def busyReturn : List Action :=
  [.event (.apply reader), .reportIntake, .event (.apply writer), .reportIntake, .listen 0, .look 0,
    .report 0, .finish 0 .failed, .release 0, .listen 0, .look 0, .report 0, .elapse 5000000,
    .fire ⟨5000000, "demo/reader"⟩]

/-- A key that comes back by its timer while all workers are busy is not counted. -/
theorem return_uncounted : ¬ DepthTruthful := by
  intro truthful
  obtain ⟨d, ran⟩ : ∃ d, (ofSettings { workers := 1 }).run busyReturn = some d := ⟨_, rfl⟩
  have state : ((ofSettings { workers := 1 }).run busyReturn).map (fun d =>
      (d.workers, d.intake, d.queue.isDown, d.retries, d.depth, d.queue.depth)) =
      some ([.handling "demo/writer" ⟨some "demo", "writer"⟩], .watching, false, [], some 0, 1) := rfl
  rw [ran] at state
  simp only [Option.map_some, Option.some.injEq, Prod.mk.injEq] at state
  obtain ⟨workers, intake, up, retries, depth, waiting⟩ := state
  have quiet : d.Quiescent := by
    refine quiescent_iff.2 ⟨by simp [intake], fun i w hw => ?_⟩
    obtain rfl : w = .handling "demo/writer" ⟨some "demo", "writer"⟩ := by
      simpa [workers] using List.mem_of_getElem? hw
    trivial
  have told := truthful _ _ d ran (by simp [busyReturn]) up quiet (by simp [retries])
    ⟨"demo/reader", by decide⟩
  rw [depth, waiting] at told
  cases told

/-- Once an event has been accepted, and until the stop, the depth last reported counts at rest all keys
that wait but those that a timer, or somebody from outside, has put in line since then. So it is right
exactly if there are none. In particular it is right, and zero, while a worker is free. Reading the
queue's length and reporting it is one step here: nobody else reports or changes the queue in between. -/
theorem depth_reported {s : DispatchSettings} (ran : (ofSettings s).run actions = some d)
    (up : d.queue.isDown = false) (quiet : d.Quiescent)
    (accepted : ∃ key, .added .event key ∈ (ofSettings s).history actions) :
    (∃ counted, d.depth = some counted.length ∧
      d.queue.waiting = counted ++ (ofSettings s).unreported [] actions) ∧
    (d.depth = some d.queue.depth ↔ (ofSettings s).unreported [] actions = []) ∧
    (.asleep ∈ d.workers → d.depth = some 0 ∧ d.queue.depth = 0) := by
  have start : (ofSettings s).Gauged [] := Or.inr ⟨[], rfl, rfl⟩
  have gauged := start.run (coherent_ofSettings s) ran up
  obtain ⟨counted, depth, waiting⟩ := gauged.resolve_left quiet.not_reportDue
  have heard := (Heard.run ran (Or.inr accepted)).resolve_left (quiescent_iff.1 quiet).1
  obtain ⟨n, told⟩ := Option.isSome_iff_exists.1 heard
  obtain rfl : n = counted.length := by rwa [told] at depth
  have length : d.queue.depth = counted.length + ((ofSettings s).unreported [] actions).length := by
    rw [WorkQueue.depth, waiting, List.length_append]
  refine ⟨⟨counted, told, waiting⟩, ?_, fun free => ?_⟩
  · rw [told, length, Option.some.injEq, Nat.left_eq_add, List.length_eq_zero_iff]
  · have empty := quiet.waiting_eq_nil (room_sound_run ran) free
    obtain ⟨rfl, -⟩ := List.append_eq_nil_iff.1 (waiting ▸ empty)
    exact ⟨told, by rw [WorkQueue.depth, empty]; rfl⟩

/-- The call for an object fails, and its timer wakes a free worker. -/
def freeReturn : List Action :=
  [.event (.apply reader), .reportIntake, .listen 0, .look 0, .report 0, .listen 1, .look 1,
    .finish 0 .failed, .release 0, .listen 0, .look 0, .elapse 5000000,
    .fire ⟨5000000, "demo/reader"⟩, .wake 1, .listen 1, .look 1, .report 1]

theorem freeReturn_reported : ∃ d, (ofSettings {}).run freeReturn = some d ∧
    d.queue.isDown = false ∧ d.Quiescent ∧
    (∃ key, .added .event key ∈ (ofSettings {}).history freeReturn) ∧
    .asleep ∈ d.workers ∧ (ofSettings {}).unreported [] freeReturn = [] ∧
    d.depth = some d.queue.depth ∧ d.depth = some 0 := by
  obtain ⟨d, ran⟩ : ∃ d, (ofSettings {}).run freeReturn = some d := ⟨_, rfl⟩
  have state : ((ofSettings {}).run freeReturn).map (fun d =>
      (d.workers, d.intake, d.queue.isDown, d.wakeups.waiting)) =
      some ([.asleep, .handling "demo/reader" ⟨some "demo", "reader"⟩], .watching, false, [0]) := rfl
  rw [ran] at state
  simp only [Option.map_some, Option.some.injEq, Prod.mk.injEq] at state
  obtain ⟨workers, intake, up, line⟩ := state
  have quiet : d.Quiescent := by
    refine quiescent_iff.2 ⟨by simp [intake], fun i w hw => ?_⟩
    rw [workers] at hw
    rcases i with _ | _ | i
    · cases hw
      simp [Waits, line]
    · cases hw
      trivial
    · cases hw
  have accepted : ∃ key, .added .event key ∈ (ofSettings {}).history freeReturn :=
    ⟨"demo/reader", by decide⟩
  have free : .asleep ∈ d.workers := by simp [workers]
  obtain ⟨-, right, zero⟩ := depth_reported ran up quiet accepted
  exact ⟨d, ran, up, quiet, accepted, free, rfl, right.2 rfl, (zero free).1⟩

end RoleOperator.Dispatcher
