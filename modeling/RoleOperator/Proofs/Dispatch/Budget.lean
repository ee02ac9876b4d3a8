import RoleOperator.Proofs.Dispatch.Intake
import RoleOperator.Proofs.Dispatch.Outlook

/-!
# Budget of retries

Each time a key is added from outside, it is good for one handler call and as many retries as the
settings allow. What is left of that can be read off the outlook of the key, and no step adds to it.
-/
namespace RoleOperator.Dispatcher

variable {d d' : Dispatcher} {log news : List Happening} {k : String} {M : Nat} {up : Prop}
  {o o' : Outlook} {a : Action} {actions : List Action}

/-- The key is added, and not by a timer. -/
def Happening.outside (k : String) : Happening → Bool
  | .added .event key | .added .direct key => key = k
  | _ => false

structure Tally where
  added : Nat
  started : Nat
  failed : Nat
  dropped : Nat

def tally (k : String) (log : List Happening) : Tally where
  added := log.countP (Happening.outside k)
  started := log.count (.started k)
  failed := log.count (.ended k .failed)
  dropped := log.count (.dropped k)

/-- The handler calls that may still come if nobody adds the key. -/
def Outlook.worth (o : Outlook) (M : Nat) : Nat := (M + 1) * o.chances + M * o.calls - o.failures

structure WithinBudget (M : Nat) (t : Tally) (o : Outlook) : Prop where
  failures : o.failures ≤ M
  started : t.started + o.worth M ≤ (M + 1) * t.added

/-- A key that was added at most once and whose calls have all failed. -/
structure OnCourse (M : Nat) (t : Tally) (o : Outlook) : Prop where
  place : o.chances + o.calls + t.dropped = t.added
  started : t.started = o.failures + o.calls + (M + 1) * t.dropped
  failed : t.failed + o.calls = t.started
  fresh : o.chances + o.calls = 0 → o.failures = 0

theorem onCourse_iff {added started failed dropped : Nat} :
    OnCourse M ⟨added, started, failed, dropped⟩ o ↔
      o.chances + o.calls + dropped = added ∧
        started = o.failures + o.calls + (M + 1) * dropped ∧ failed + o.calls = started ∧
        (o.chances + o.calls = 0 → o.failures = 0) :=
  ⟨fun h => ⟨h.place, h.started, h.failed, h.fresh⟩, fun ⟨hp, hs, hf, hr⟩ => ⟨hp, hs, hf, hr⟩⟩

theorem tally_append (k : String) (log news : List Happening) : tally k (log ++ news) =
    { added := (tally k log).added + (tally k news).added
      started := (tally k log).started + (tally k news).started
      failed := (tally k log).failed + (tally k news).failed
      dropped := (tally k log).dropped + (tally k news).dropped } := by
  simp only [tally, List.countP_append, List.count_append]

theorem tally_unrelated (h : ∀ x ∈ news, x.key ≠ k) : tally k news = ⟨0, 0, 0, 0⟩ := by
  have other : ∀ y : Happening, y.key = k → news.count y = 0 := by
    intro y hy
    exact List.count_eq_zero.2 fun hmem => h y hmem hy
  have outside : news.countP (Happening.outside k) = 0 := by
    refine List.countP_eq_zero.2 fun x hx hk => h x hx ?_
    unfold Happening.outside at hk
    split at hk <;> simp_all [Happening.key]
  rw [tally, outside, other (.started k) rfl, other (.ended k .failed) rfl, other (.dropped k) rfl]

theorem tally_returned {back : List Happening} (h : ∀ x ∈ back, x = .added .retry k) :
    tally k back = ⟨0, 0, 0, 0⟩ := by
  have other : ∀ y : Happening, y ≠ .added .retry k → back.count y = 0 := by
    intro y hy
    exact List.count_eq_zero.2 fun hmem => hy (h y hmem)
  have outside : back.countP (Happening.outside k) = 0 := by
    refine List.countP_eq_zero.2 fun x hx => ?_
    rw [h x hx]
    simp [Happening.outside]
  simp only [tally, outside, other, ne_eq, reduceCtorEq, not_false_eq_true]

theorem tally_added {origin : Origin} (h : origin ≠ .retry) :
    tally k [.added origin k] = ⟨1, 0, 0, 0⟩ := by
  cases origin with
  | retry => exact absurd rfl h
  | event | direct => simp [tally, Happening.outside]

theorem tally_failed {back : List Happening} (h : ∀ x ∈ back, x = .added .retry k) :
    tally k (.ended k .failed :: back) = ⟨0, 0, 1, 0⟩ := by
  rw [← List.singleton_append, tally_append, tally_returned h]
  simp [tally, Happening.outside]

/-- No turn makes the calls that were started and those that may still come more than what the key
was added for. -/
theorem Turn.withinBudget (turn : Turn M up k o o' news) (h : WithinBudget M (tally k log) o) :
    WithinBudget M (tally k (log ++ news)) o' := by
  obtain ⟨failures, started⟩ := h
  rw [tally_append]
  simp only [Outlook.worth] at started
  cases turn with
  | rest unrelated same =>
    subst same
    rw [tally_unrelated unrelated]
    exact ⟨failures, started⟩
  | take same =>
    subst same
    exact ⟨failures, started⟩
  | add outside chances calls same =>
    rw [tally_added outside]
    refine ⟨by omega, ?_⟩
    simp only [Outlook.worth, calls, same, Nat.mul_add_one]
    rcases chances with hc | ⟨hc, _⟩
    · rw [hc, Nat.mul_add_one]
      omega
    · rw [hc]
      omega
  | fire chances calls same =>
    refine ⟨by omega, ?_⟩
    have ht : tally k [.added .retry k] = ⟨0, 0, 0, 0⟩ := tally_returned (by simp)
    simp only [ht, Outlook.worth, Nat.add_zero, calls, same]
    rcases chances with hc | ⟨hc, _⟩
    · rw [hc]
      omega
    · rw [← hc, Nat.mul_add_one] at started
      omega
  | start chances calls same =>
    refine ⟨by omega, ?_⟩
    have ht : tally k [.started k] = ⟨0, 1, 0, 0⟩ := by simp [tally, Happening.outside]
    simp only [ht, Outlook.worth, Nat.add_zero, calls, same, Nat.mul_add_one]
    rw [← chances, Nat.mul_add_one] at started
    omega
  | succeed chances calls cleared =>
    have ht : tally k [.ended k .ok] = ⟨0, 0, 0, 0⟩ := by simp [tally, Happening.outside]
    refine ⟨by omega, ?_⟩
    simp only [ht, Outlook.worth, Nat.add_zero, chances, cleared]
    rw [← calls, Nat.mul_add_one] at started
    omega
  | retry back budget chances calls grown =>
    rw [tally_failed back]
    refine ⟨by omega, ?_⟩
    simp only [Outlook.worth, Nat.add_zero, grown]
    rw [← calls, Nat.mul_add_one] at started
    rcases chances with hc | ⟨hc, _⟩
    · rw [hc, Nat.mul_add_one]
      omega
    · rw [hc]
      omega
  | drop spent chances calls cleared =>
    have ht : tally k [.ended k .failed, .dropped k] = ⟨0, 0, 1, 1⟩ := by
      simp [tally, Happening.outside]
    refine ⟨by omega, ?_⟩
    simp only [ht, Outlook.worth, Nat.add_zero, chances, cleared]
    rw [← calls, Nat.mul_add_one] at started
    omega
  | crash chances calls same =>
    have ht : tally k [.ended k .crashed] = ⟨0, 0, 0, 0⟩ := by simp [tally, Happening.outside]
    refine ⟨by omega, ?_⟩
    simp only [ht, Outlook.worth, Nat.add_zero, chances, same]
    rw [← calls, Nat.mul_add_one] at started
    omega

theorem Turn.onCourse (turn : Turn M up k o o' news) (running : up)
    (failing : ∀ outcome, .ended k outcome ∈ news → outcome = .failed) (failures : o.failures ≤ M)
    (h : OnCourse M (tally k log) o) (once : (tally k (log ++ news)).added ≤ 1) :
    OnCourse M (tally k (log ++ news)) o' := by
  obtain ⟨place, started, failed, fresh⟩ := h
  rw [tally_append] at once ⊢
  cases turn with
  | rest unrelated same =>
    subst same
    rw [tally_unrelated unrelated]
    exact ⟨place, started, failed, fresh⟩
  | take same =>
    subst same
    exact ⟨place, started, failed, fresh⟩
  | add outside chances calls same =>
    simp only [tally_added outside, Nat.add_zero] at once ⊢
    have := chances.imp_right fun hc => hc.2 running
    rw [onCourse_iff]
    omega
  | fire chances calls same =>
    have ht : tally k [.added .retry k] = ⟨0, 0, 0, 0⟩ := tally_returned (by simp)
    simp only [ht, Nat.add_zero] at once ⊢
    have := chances.imp_right fun hc => hc.2 running
    rw [onCourse_iff]
    omega
  | start chances calls same =>
    have ht : tally k [.started k] = ⟨0, 1, 0, 0⟩ := by simp [tally, Happening.outside]
    simp only [ht, Nat.add_zero] at once ⊢
    rw [onCourse_iff]
    omega
  | succeed =>
    cases failing .ok (by simp)
  | retry back budget chances calls grown =>
    simp only [tally_failed back, Nat.add_zero] at once ⊢
    have := chances.imp_right fun hc => hc.2 running
    rw [onCourse_iff]
    omega
  | drop spent chances calls cleared =>
    have ht : tally k [.ended k .failed, .dropped k] = ⟨0, 0, 1, 1⟩ := by
      simp [tally, Happening.outside]
    simp only [ht, Nat.add_zero] at once ⊢
    rw [onCourse_iff, Nat.mul_add_one]
    omega
  | crash =>
    cases failing .crashed (by simp)

/-! ## What the metrics count -/

def Happening.ends (k : String) : Happening → Bool
  | .ended key _ => key = k
  | _ => false

/-- How far a counter rose in the steps in which a handler call for the key ended. -/
def rises (counter : Dispatcher → Nat) (k : String) (d : Dispatcher) : List Action → Nat
  | [] => 0
  | a :: rest =>
    match d.step a with
    | some m =>
      (if (d.happenings a).any (Happening.ends k) then counter m - counter d else 0) +
        rises counter k m rest
    | none => 0

theorem finish_of_ends {x : Happening} (h : x ∈ d.happenings a) (ends : x.ends k) :
    ∃ i outcome, a = .finish i outcome := by
  cases a with
  | finish i outcome => exact ⟨i, outcome, rfl⟩
  | event e =>
    simp only [happenings, List.mem_map] at h
    obtain ⟨_, _, rfl⟩ := h
    cases ends
  | look i =>
    simp only [happenings, Option.mem_toList, Option.map_eq_some_iff] at h
    obtain ⟨_, _, rfl⟩ := h
    cases ends
  | report i =>
    simp only [happenings] at h
    split at h
    · split at h
      · cases List.mem_singleton.1 h
        cases ends
      · cases h
    · cases h
  | add key | fire r =>
    cases List.mem_singleton.1 h
    cases ends
  | _ => cases h

/-- A failed call counts as a requeue, or as a drop of the key. -/
theorem settle_counters (d : Dispatcher) (k : String) (outcome : HandlerOutcome) :
    ∃ requeues, (d.settle k outcome).requeued = d.requeued + requeues ∧
      requeues + (tally k (d.settlement k outcome)).dropped =
        (tally k (d.settlement k outcome)).failed ∧
      (d.settle k outcome).dropped = d.dropped + (tally k (d.settlement k outcome)).dropped := by
  cases outcome with
  | ok | crashed => exact ⟨0, by simp [settle, settlement, tally]⟩
  | failed =>
    simp only [settle, settlement]
    split
    · simp only [retry]
      split
      · rw [tally_failed (by simp)]
        exact ⟨1, rfl, rfl, rfl⟩
      · rw [tally_failed (by simp)]
        exact ⟨1, rfl, rfl, rfl⟩
    · exact ⟨0, by simp [tally]⟩

theorem settlement_key {x : Happening} {raw : String} {outcome : HandlerOutcome}
    (h : x ∈ d.settlement raw outcome) : x.key = raw := by
  cases outcome with
  | ok | crashed => rw [List.mem_singleton.1 h, Happening.key]
  | failed =>
    simp only [settlement] at h
    split at h
    · split at h <;> simp at h
      · rcases h with rfl | rfl <;> rfl
      · rw [h, Happening.key]
    · simp at h
      rcases h with rfl | rfl <;> rfl

theorem key_of_ends {x : Happening} (ends : x.ends k) : x.key = k := by
  cases x with
  | ended key outcome => exact of_decide_eq_true ends
  | _ => cases ends

theorem counters_of_ends {x : Happening} (s : d.step a = some d') (h : x ∈ d.happenings a)
    (ends : x.ends k) :
    ∃ requeues, d'.requeued = d.requeued + requeues ∧
      requeues + (tally k (d.happenings a)).dropped = (tally k (d.happenings a)).failed ∧
      d'.dropped = d.dropped + (tally k (d.happenings a)).dropped := by
  obtain ⟨i, outcome, rfl⟩ := finish_of_ends h ends
  simp only [step] at s
  split at s
  · next raw key was =>
    simp only [happenings, was] at h ⊢
    cases s
    have he : raw = k := (settlement_key h).symm.trans (key_of_ends ends)
    subst he
    exact settle_counters d raw outcome
  · cases s

theorem Change.ended_of_dropped (c : Change d d' news) (h : .dropped k ∈ news) :
    .ended k .failed ∈ news := by
  cases c with
  | drop => simpa using h
  | _ => simp at h

theorem Change.tally_idle (c : Change d d' news) (idle : news.any (Happening.ends k) = false) :
    (tally k news).failed = 0 ∧ (tally k news).dropped = 0 := by
  have hn : .ended k .failed ∉ news := by
    intro hmem
    have : news.any (Happening.ends k) = true :=
      List.any_eq_true.2 ⟨_, hmem, by simp [Happening.ends]⟩
    rw [idle] at this
    cases this
  exact ⟨List.count_eq_zero.2 hn, List.count_eq_zero.2 fun hd => hn (c.ended_of_dropped hd)⟩

/-- What the counters rise by is what happened to the key. -/
theorem rises_eq (r : d.run actions = some d') :
    rises requeued k d actions + (tally k (d.history actions)).dropped =
        (tally k (d.history actions)).failed ∧
      rises dropped k d actions = (tally k (d.history actions)).dropped := by
  induction actions generalizing d with
  | nil => exact ⟨rfl, rfl⟩
  | cons a rest ih =>
    obtain ⟨m, hs, hr⟩ := run_cons r
    obtain ⟨requeues, drops⟩ := ih hr
    rw [history_cons hs, tally_append]
    simp only [rises, hs]
    split
    · next ends =>
      obtain ⟨x, hx, he⟩ := List.any_eq_true.1 ends
      obtain ⟨_, requeued, failed, dropped⟩ := counters_of_ends hs hx he
      omega
    · next idle =>
      obtain ⟨failed, dropped⟩ := (change_of_step hs).tally_idle (by simpa using idle)
      omega

/-! ## Runs -/

theorem Change.counted (c : Change d d' news) (h : d.queue.Counted) : d'.queue.Counted := by
  cases c with
  | add queue | fire _ queue =>
    rw [queue, WorkQueue.add_frame]
    exact h
  | take _ queue =>
    obtain ⟨_, _, _, he⟩ := WorkQueue.take?_eq_some queue
    rw [he]
    exact h
  | discard _ _ queue | succeed _ queue | drop _ _ queue =>
    rw [queue]
    exact h.forget _
  | postpone _ _ queue =>
    rw [queue]
    exact h.fail _
  | again _ _ queue =>
    rw [queue, WorkQueue.add_frame]
    exact h.fail _
  | release _ queue =>
    rw [queue, WorkQueue.done_frame]
    exact h
  | stay queue | shift _ _ _ queue | start _ _ queue | crash _ queue | close queue =>
    rw [queue]
    exact h

/-- What the history says of the key, and what is still to come. -/
structure Ledger (k : String) (log : List Happening) (d : Dispatcher) : Prop where
  coherent : d.Coherent
  counted : d.queue.Counted
  within : WithinBudget d.maxRequeues (tally k log) (d.outlook k)
  course : d.queue.isDown = false → (∀ outcome, .ended k outcome ∈ log → outcome = .failed) →
    (tally k log).added ≤ 1 → OnCourse d.maxRequeues (tally k log) (d.outlook k)

theorem ledger_ofSettings (s : DispatchSettings) (k : String) : Ledger k [] (ofSettings s) := by
  have ho : (ofSettings s).outlook k = ⟨0, 0, 0⟩ := by
    simp [outlook, ofSettings, marks, WorkQueue.requeues, Worker.reports, Worker.handles]
  have ht : tally k [] = ⟨0, 0, 0, 0⟩ := rfl
  refine ⟨coherent_ofSettings s, fun _ => by simp [ofSettings], ?_, ?_⟩
  · rw [ho, ht]
    exact ⟨by simp, by simp [Outlook.worth]⟩
  · intro _ _ _
    rw [ho, ht, onCourse_iff]
    simp

theorem Ledger.step (h : Ledger k log d) (parses : (ObjectKey.parse? k).isSome)
    (s : d.step a = some d') : Ledger k (log ++ d.happenings a) d' := by
  have c := change_of_step s
  have turn := turn_of_step h.coherent parses s
  have limit := (follows_of_step s).limit
  refine ⟨h.coherent.change c, c.counted h.counted, ?_, ?_⟩
  · rw [limit]
    exact turn.withinBudget h.within
  · intro up failing once
    rw [limit]
    have before : (tally k log).added ≤ (tally k (log ++ d.happenings a)).added := by
      rw [tally_append]
      exact Nat.le_add_right _ _
    have course := h.course (c.isDown up)
      (fun outcome hmem => failing outcome (List.mem_append_left _ hmem)) (Nat.le_trans before once)
    exact turn.onCourse (c.isDown up)
      (fun outcome hmem => failing outcome (List.mem_append_right _ hmem)) h.within.failures
      course once

theorem Ledger.run (h : Ledger k log d) (parses : (ObjectKey.parse? k).isSome)
    (r : d.run actions = some d') : Ledger k (log ++ d.history actions) d' := by
  induction actions generalizing d log with
  | nil =>
    cases r
    simpa [history] using h
  | cons a rest ih =>
    obtain ⟨m, hs, hr⟩ := run_cons r
    rw [history_cons hs, ← List.append_assoc]
    exact ih (h.step parses hs) hr

/-- No timer brings the key back, and it is neither in the line nor in the hands of a worker. -/
structure Resting (d : Dispatcher) (k : String) : Prop where
  timers : ∀ r ∈ d.retries, r.key ≠ k
  waiting : k ∉ d.queue.waiting
  processing : k ∉ d.queue.processing

theorem Resting.outlook (h : Resting d k) (coherent : d.Coherent) (up : d.queue.isDown = false) :
    (d.outlook k).chances = 0 ∧ (d.outlook k).calls = 0 := by
  have clean : k ∉ d.queue.dirty := by
    intro hd
    rcases coherent.sound.placed_of_dirty up k hd with hw | hp
    · exact h.waiting hw
    · exact h.processing hp
  have free : ∀ w ∈ d.workers, w.held ≠ some k := by
    intro w hw held
    obtain ⟨i, hi⟩ := List.mem_iff_getElem?.1 hw
    refine h.processing ((coherent.processing_iff k).2 ⟨i, ?_⟩)
    rw [holding, hi]
    exact held
  have timers : d.retries.countP (·.key = k) = 0 :=
    List.countP_eq_zero.2 fun r hr => by simpa using h.timers r hr
  have reports : d.workers.countP (Worker.reports k) = 0 := by
    refine List.countP_eq_zero.2 fun w hw hk => free w hw ?_
    cases w <;> simp_all [Worker.reports, Worker.held]
  have handles : d.workers.countP (Worker.handles k) = 0 := by
    refine List.countP_eq_zero.2 fun w hw hk => free w hw ?_
    cases w <;> simp_all [Worker.handles, Worker.held]
  simp [Dispatcher.outlook, marks, clean, timers, reports, handles]

/-- In every state of every run, the handler calls for a key are at most one and the allowed retries
for each time it was added from outside, and its failures are at most the allowed retries. Once a key
that was added a single time and whose calls have all failed is at rest, it got exactly that many
calls; all but the last one count as requeues, the last one as a drop, and no failure is on record. -/
theorem calls_within_budget {s : DispatchSettings} (r : (ofSettings s).run actions = some d)
    (parses : (ObjectKey.parse? k).isSome) :
    ((ofSettings s).history actions).count (.started k) ≤
        (s.maxRequeues + 1) * ((ofSettings s).history actions).countP (Happening.outside k) ∧
      d.queue.requeues k ≤ s.maxRequeues ∧
      (s.maxRequeues ≤ 4294967295 → d.queue.requeues k ≤ 4294967295) ∧
      (((ofSettings s).history actions).countP (Happening.outside k) = 1 →
        (∀ outcome, .ended k outcome ∈ (ofSettings s).history actions → outcome = .failed) →
        d.queue.isDown = false → d.Resting k →
        ((ofSettings s).history actions).count (.started k) = s.maxRequeues + 1 ∧
          rises requeued k (ofSettings s) actions = s.maxRequeues ∧
          rises dropped k (ofSettings s) actions = 1 ∧ d.queue.failures.lookup k = none) := by
  have ledger : Ledger k ((ofSettings s).history actions) d := by
    simpa using (ledger_ofSettings s k).run parses r
  obtain ⟨requeues, drops⟩ := rises_eq (k := k) r
  obtain ⟨coherent, counted, ⟨few, started⟩, course⟩ := ledger
  have limit : d.maxRequeues = s.maxRequeues := run_maxRequeues r
  rw [limit] at few started course
  refine ⟨Nat.le_trans (Nat.le_add_right _ _) started, few, fun small => ?_, ?_⟩
  · exact Nat.le_trans few small
  · intro once failing up rest
    obtain ⟨place, calls, failed, fresh⟩ := course up failing (Nat.le_of_eq once)
    obtain ⟨hc, hh⟩ := rest.outlook coherent up
    have clear : (d.outlook k).failures = 0 := fresh (by rw [hc, hh])
    -- Neither on its way nor in a call, the key has been dropped.
    have dropped : (tally k ((ofSettings s).history actions)).dropped = 1 := by
      have added : (tally k ((ofSettings s).history actions)).added = 1 := once
      omega
    rw [dropped, clear, hh] at calls
    have hs : (tally k ((ofSettings s).history actions)).started = s.maxRequeues + 1 := by omega
    exact ⟨hs, by omega, by omega, counted.lookup clear⟩

/-- The only retry allowed fails like the first call. -/
def failingRun : List Action :=
  [.add "demo/a", .listen 0, .look 0, .report 0, .finish 0 .failed, .release 0, .elapse 5000000,
    .fire ⟨5000000, "demo/a"⟩, .listen 0, .look 0, .report 0, .finish 0 .failed, .release 0]

theorem failingRun_spends_budget :
    ∃ d, (ofSettings { workers := 1, maxRequeues := 1 }).run failingRun = some d ∧
      d.queue.isDown = false ∧ d.Resting "demo/a" ∧
      ((ofSettings { workers := 1, maxRequeues := 1 }).history failingRun).count
        (.started "demo/a") = 2 ∧
      rises requeued "demo/a" (ofSettings { workers := 1, maxRequeues := 1 }) failingRun = 1 ∧
      rises dropped "demo/a" (ofSettings { workers := 1, maxRequeues := 1 }) failingRun = 1 ∧
      d.queue.failures.lookup "demo/a" = none := by
  obtain ⟨d, r⟩ :
      ∃ d, (ofSettings { workers := 1, maxRequeues := 1 }).run failingRun = some d := ⟨_, rfl⟩
  have he : ((ofSettings { workers := 1, maxRequeues := 1 }).run failingRun).map
      (fun d => (d.queue.isDown, d.retries, d.queue.waiting, d.queue.processing)) =
        some (false, [], [], []) := rfl
  rw [r, Option.map_some, Option.some.injEq, Prod.mk.injEq, Prod.mk.injEq, Prod.mk.injEq] at he
  obtain ⟨up, timers, waiting, processing⟩ := he
  have rest : d.Resting "demo/a" := by
    constructor
    · simp [timers]
    · simp [waiting]
    · simp [processing]
  have log : (ofSettings { workers := 1, maxRequeues := 1 }).history failingRun =
      [.added .direct "demo/a", .taken "demo/a", .started "demo/a", .ended "demo/a" .failed,
        .added .retry "demo/a", .taken "demo/a", .started "demo/a", .ended "demo/a" .failed,
        .dropped "demo/a"] := rfl
  obtain ⟨_, _, _, spent⟩ := calls_within_budget (k := "demo/a") r (by decide)
  obtain ⟨started, requeues, drops, forgotten⟩ := spent (by rw [log]; rfl)
    (by
      rw [log]
      intro outcome hmem
      simpa using hmem)
    up rest
  exact ⟨d, r, up, rest, started, requeues, drops, forgotten⟩

end RoleOperator.Dispatcher
