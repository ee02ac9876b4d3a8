import RoleOperator.Proofs.Dispatch.Coherence

/-!
# Delivery of keys

No key is lost on its way to a handler call, and no failed key on its way back. The dirty keys are
those that were added and not taken since; a key that was taken is in the hands of a worker that is
about to call the handler; a key whose call failed waits for a timer, is dirty or was taken again.

A worker calls the handler in the same turn in which it takes a key. Where turns are not divided, a key
that was added and whose call has not started since waits or is dirty.
-/
namespace RoleOperator.Dispatcher

variable {d d' : Dispatcher} {log news : List Happening} {key k : String}

/-! ## What happened last -/

/-- Something with `p` happened, and nothing with `q` after it. -/
def Since (log : List Happening) (p q : Happening → Prop) : Prop :=
  ∃ before h after, log = before ++ h :: after ∧ p h ∧ ∀ x ∈ after, ¬ q x

def Adds (key : String) : Happening → Prop
  | .added _ k => key = k
  | _ => False

/-- The key was added, and no worker has taken it since. -/
def Untaken (log : List Happening) (key : String) : Prop :=
  Since log (Adds key) (· = .taken key)

/-- The key was added, and no handler call for it has started since. -/
def Unanswered (log : List Happening) (key : String) : Prop :=
  Since log (Adds key) (· = .started key)

/-- The last handler call for the key failed, and the key was not dropped. -/
def Failed (log : List Happening) (key : String) : Prop :=
  Since log (· = .ended key .failed) fun h => h = .started key ∨ h = .dropped key

theorem not_since_nil (p q : Happening → Prop) : ¬ Since [] p q := by
  rintro ⟨before, h, after, he, _⟩
  cases before <;> cases he

/-- The last one is among the news, or it was there before and the news do not undo it. -/
theorem since_append {p q : Happening → Prop} (h : Since (log ++ news) p q) :
    Since news p q ∨ Since log p q ∧ ∀ x ∈ news, ¬ q x := by
  obtain ⟨before, e, after, he, hp, hq⟩ := h
  rcases List.append_eq_append_iff.1 he with ⟨mid, rfl, hn⟩ | ⟨mid, hl, hn⟩
  · exact Or.inl ⟨mid, e, after, hn, hp, hq⟩
  · cases mid with
    | nil =>
      rw [List.nil_append] at hn
      exact Or.inl ⟨[], e, after, by rw [← hn, List.nil_append], hp, hq⟩
    | cons m mid =>
      rw [List.cons_append, List.cons.injEq] at hn
      obtain ⟨rfl, rfl⟩ := hn
      refine Or.inr ⟨⟨before, e, mid, hl, hp, fun x hx => hq x (by simp [hx])⟩, ?_⟩
      exact fun x hx => hq x (by simp [hx])

theorem Since.exists_mem {p q : Happening → Prop} (h : Since log p q) : ∃ x ∈ log, p x := by
  obtain ⟨before, e, after, rfl, hp, _⟩ := h
  exact ⟨e, by simp, hp⟩

/-! ## Dirty keys and picked keys -/

/-- A worker has taken the key and is about to call the handler. -/
def Picked (d : Dispatcher) (key : String) : Prop := ∃ i : Nat, d.workers[i]? = some (.reporting key)

/-- The key is dirty or picked, so that a handler call is bound to follow. -/
def Due (d : Dispatcher) (key : String) : Prop := key ∈ d.queue.dirty ∨ d.Picked key

theorem Change.isDown (c : Change d d' news) (h : d'.queue.isDown = false) :
    d.queue.isDown = false := by
  cases c with
  | take _ queue => exact (WorkQueue.take?_eq_some queue).1
  | close queue =>
    rw [queue] at h
    cases h
  | add queue | fire _ queue =>
    rw [queue, WorkQueue.add_isDown] at h
    exact h
  | again _ _ queue =>
    rw [queue, WorkQueue.add_isDown] at h
    exact h
  | release _ queue =>
    rw [queue, WorkQueue.done_isDown] at h
    exact h
  | stay queue | shift _ _ _ queue | start _ _ queue | discard _ _ queue | succeed _ queue
  | postpone _ _ queue | drop _ _ queue | crash _ queue =>
    rw [queue] at h
    exact h

/-- Keys become dirty by being added and clean by being taken, and in no other way. -/
theorem Change.mem_dirty (c : Change d d' news) :
    k ∈ d'.queue.dirty ↔
      k ∈ d.queue.dirty ∧ .taken k ∉ news ∨ (∃ h ∈ news, Adds k h) ∧ d.queue.isDown = false := by
  cases c with
  | take _ queue => simp [WorkQueue.mem_dirty_take queue, Adds]
  | add queue | fire _ queue =>
    rw [queue, WorkQueue.mem_dirty_add]
    simp [Adds]
  | again _ _ queue =>
    rw [queue, WorkQueue.mem_dirty_add]
    simp [Adds, WorkQueue.fail]
  | release _ queue =>
    rw [queue, WorkQueue.done_dirty]
    simp
  | stay queue | shift _ _ _ queue | start _ _ queue | discard _ _ queue | succeed _ queue
  | postpone _ _ queue | drop _ _ queue | crash _ queue | close queue =>
    rw [queue]
    simp [Adds, WorkQueue.forget, WorkQueue.fail, WorkQueue.shutDown]

theorem picked_set {i : Nat} {w w' : Worker} (was : d.workers[i]? = some w)
    (workers : d'.workers = d.workers.set i w') (h : d'.Picked k) :
    d.Picked k ∨ w' = .reporting k := by
  obtain ⟨j, hj⟩ := h
  rw [worker_set was workers] at hj
  split at hj
  · exact Or.inr (Option.some.inj hj)
  · exact Or.inl ⟨j, hj⟩

theorem Picked.set {i : Nat} {w w' : Worker} (h : d.Picked k) (was : d.workers[i]? = some w)
    (workers : d'.workers = d.workers.set i w') (other : w ≠ .reporting k) : d'.Picked k := by
  obtain ⟨j, hj⟩ := h
  refine ⟨j, ?_⟩
  rw [worker_set was workers, if_neg, hj]
  rintro rfl
  exact other (Option.some.inj (was.symm.trans hj))

/-- Only taking a key puts it into the hands of a worker. -/
theorem Change.picked_of_picked (c : Change d d' news) (h : d'.Picked k) :
    d.Picked k ∨ .taken k ∈ news := by
  cases c with
  | stay _ workers | add _ workers | fire _ _ workers | close _ workers =>
    exact Or.inl (by simpa only [Picked, workers] using h)
  | take was _ workers =>
    refine (picked_set was workers h).imp_right ?_
    rintro he
    cases he
    simp
  | shift was _ free' _ workers =>
    refine Or.inl ((picked_set was workers h).resolve_right ?_)
    rintro rfl
    cases free'
  | start was _ _ workers | discard was _ _ workers | succeed was _ workers
  | postpone was _ _ workers | again was _ _ workers | drop was _ _ workers
  | crash was _ workers | release was _ workers =>
    refine Or.inl ((picked_set was workers h).resolve_right ?_)
    intro he
    cases he

/-- A picked key stays picked until its handler call starts. -/
theorem Change.picked (c : Change d d' news) (parses : (ObjectKey.parse? k).isSome)
    (h : d.Picked k) : d'.Picked k ∨ .started k ∈ news := by
  cases c with
  | stay _ workers | add _ workers | fire _ _ workers | close _ workers =>
    exact Or.inl (by simpa only [Picked, workers] using h)
  | shift was free _ _ workers =>
    refine Or.inl (h.set was workers ?_)
    rintro rfl
    cases free
  | take was _ workers | succeed was _ workers | postpone was _ _ workers
  | again was _ _ workers | drop was _ _ workers | crash was _ workers | release was _ workers =>
    refine Or.inl (h.set was workers ?_)
    intro he
    cases he
  | @start i raw key was _ _ workers =>
    by_cases hk : raw = k
    · exact Or.inr (by simp [hk])
    · refine Or.inl (h.set was workers ?_)
      intro he
      cases he
      exact hk rfl
  | @discard i raw was malformed _ workers =>
    refine Or.inl (h.set was workers ?_)
    intro he
    cases he
    rw [malformed] at parses
    cases parses

/-- A due key stays due until its handler call starts. -/
theorem Change.due (c : Change d d' news) (parses : (ObjectKey.parse? k).isSome) (h : d.Due k) :
    d'.Due k ∨ .started k ∈ news := by
  rcases h with hd | hp
  · by_cases ht : .taken k ∈ news
    · cases c with
      | @take i raw was queue workers retries =>
        have he : k = raw := by simpa using ht
        exact Or.inl (Or.inr ⟨i, by rw [worker_set was workers, if_pos rfl, he]⟩)
      | _ => simp at ht
    · exact Or.inl (Or.inl (c.mem_dirty.2 (Or.inl ⟨hd, ht⟩)))
  · exact (c.picked parses hp).imp_left Or.inr

theorem Change.due_of_added (c : Change d d' news) (up : d'.queue.isDown = false)
    (h : ∃ x ∈ news, Adds k x) : d'.Due k :=
  Or.inl (c.mem_dirty.2 (Or.inr ⟨h, c.isDown up⟩))

/-! ## Keys on their way back -/

/-- The key will be added again by a timer, or is due already. -/
def Returning (d : Dispatcher) (key : String) : Prop := (∃ r ∈ d.retries, r.key = key) ∨ d.Due key

theorem Change.returning (c : Change d d' news) (up : d'.queue.isDown = false)
    (parses : (ObjectKey.parse? k).isSome) (h : d.Returning k) :
    d'.Returning k ∨ .started k ∈ news := by
  rcases h with ⟨r, hr, hk⟩ | hd
  · refine Or.inl ?_
    cases c with
    | @fire f pending queue workers retries =>
      by_cases he : r = f
      · -- This very timer fires: the key is dirty from now on.
        subst he
        exact Or.inr ((Change.fire pending queue workers retries).due_of_added up
          ⟨.added .retry r.key, by simp, hk.symm⟩)
      · exact Or.inl ⟨r, retries ▸ (List.mem_erase_of_ne he).2 hr, hk⟩
    | postpone _ _ _ _ retries => exact Or.inl ⟨r, by simp [retries, hr], hk⟩
    | stay _ _ retries | shift _ _ _ _ _ retries | add _ _ retries | take _ _ _ retries
    | start _ _ _ _ retries | discard _ _ _ _ retries | succeed _ _ _ retries
    | again _ _ _ _ retries | drop _ _ _ _ retries | crash _ _ _ retries
    | release _ _ _ retries | close _ _ retries =>
      exact Or.inl ⟨r, retries ▸ hr, hk⟩
  · exact (c.due parses hd).imp_left Or.inr

/-- A failed key that is not dropped is on its way back at once. -/
theorem Change.returning_of_failed (c : Change d d' news) (up : d'.queue.isDown = false)
    (failed : Failed news k) : d'.Returning k := by
  have soon := c.due_of_added up (k := k)
  obtain ⟨_, hmem, rfl⟩ := failed.exists_mem
  cases c with
  | @postpone i raw key due was budget queue workers retries =>
    have he : k = raw := by simpa using hmem
    exact Or.inl ⟨⟨due, raw⟩, by rw [retries]; simp, he.symm⟩
  | @again i raw key was budget queue workers retries =>
    have he : k = raw := by simpa using hmem
    exact Or.inr (soon ⟨.added .retry raw, by simp, he⟩)
  | @drop i raw key was spent queue workers retries =>
    -- The drop comes after the failure, so the key did not fail for good.
    have he : k = raw := by simpa using hmem
    have hs : Failed ([.ended raw .failed] ++ [.dropped raw]) k := failed
    rcases since_append hs with hd | ⟨_, hn⟩
    · obtain ⟨_, hmem, rfl⟩ := hd.exists_mem
      simp at hmem
    · exact absurd (Or.inr (by rw [he])) (hn (.dropped raw) (by simp))
  | _ => simp at hmem

/-- A handler call that ends was in flight. -/
theorem Change.handling_of_ended {outcome : HandlerOutcome} (c : Change d d' news)
    (ended : .ended k outcome ∈ news) :
    ∃ (i : Nat) (key : ObjectKey), d.workers[i]? = some (.handling k key) := by
  cases c with
  | succeed was | postpone was | again was | drop was | crash was =>
    simp only [List.mem_cons, Happening.ended.injEq, reduceCtorEq, List.not_mem_nil,
      or_false] at ended
    exact ⟨_, _, ended.1 ▸ was⟩
  | _ => simp at ended

/-! ## Turns of a worker -/

/-- The first worker that has taken a key and not reported it yet. -/
def taker? (d : Dispatcher) : Option Nat :=
  d.workers.findIdx? fun
    | .reporting _ => true
    | _ => false

def Action.isReportOf (i : Nat) : Action → Bool
  | .report j => j = i
  | _ => false

/-- The actions are possible, and whoever takes a key reports it before anything else happens: its task
is not suspended in between. Only a task on another processor could come in there. -/
def undivided (d : Dispatcher) : List Action → Bool
  | [] => d.taker?.isNone
  | a :: rest => d.taker?.all (a.isReportOf ·) && (d.step a).any fun d => d.undivided rest

theorem not_picked_of_taker (none : d.taker? = none) (k : String) : ¬ d.Picked k := by
  rintro ⟨i, hi⟩
  have reports := List.findIdx?_eq_none_iff.1 none _ (List.mem_of_getElem? hi)
  cases reports

/-- After whole turns nobody has a key in hands whose call has not started. -/
theorem not_picked_of_undivided {actions : List Action} (whole : d.undivided actions)
    (r : d.run actions = some d') (k : String) : ¬ d'.Picked k := by
  induction actions generalizing d with
  | nil =>
    cases r
    exact not_picked_of_taker (Option.isNone_iff_eq_none.1 whole) k
  | cons a rest ih =>
    obtain ⟨m, hs, hr⟩ := Option.bind_eq_some_iff.1 r
    have later := (Bool.and_eq_true_iff.1 whole).2
    rw [hs] at later
    exact ih later hr

-- A turn that is broken off after the key has been taken.
example : (ofSettings {}).undivided [.add "demo/a", .listen 0, .look 0] = false := rfl

/-! ## The run so far and the state -/

/-- What the history says of keys can be seen in the state, until the queue is shut down. -/
structure Tracked (log : List Happening) (d : Dispatcher) : Prop where
  coherent : d.Coherent
  dirty_of_untaken : d.queue.isDown = false → ∀ k, Untaken log k → k ∈ d.queue.dirty
  due_of_unanswered : d.queue.isDown = false → ∀ k, (ObjectKey.parse? k).isSome →
    Unanswered log k → d.Due k
  returning_of_failed : d.queue.isDown = false → ∀ k, Failed log k →
    (ObjectKey.parse? k).isSome ∧ d.Returning k

theorem tracked_ofSettings (s : DispatchSettings) : Tracked [] (ofSettings s) :=
  ⟨coherent_ofSettings s, fun _ _ h => absurd h (not_since_nil _ _),
    fun _ _ _ h => absurd h (not_since_nil _ _), fun _ _ h => absurd h (not_since_nil _ _)⟩

theorem Tracked.change (h : Tracked log d) (c : Change d d' news) : Tracked (log ++ news) d' := by
  refine ⟨h.coherent.change c, ?_, ?_, ?_⟩
  · intro up k hk
    rcases since_append hk with hn | ⟨hl, hn⟩
    · exact c.mem_dirty.2 (Or.inr ⟨hn.exists_mem, c.isDown up⟩)
    · have hd := h.dirty_of_untaken (c.isDown up) k hl
      exact c.mem_dirty.2 (Or.inl ⟨hd, fun ht => hn _ ht rfl⟩)
  · intro up k parses hk
    rcases since_append hk with hn | ⟨hl, hn⟩
    · exact c.due_of_added up hn.exists_mem
    · have hd := h.due_of_unanswered (c.isDown up) k parses hl
      exact (c.due parses hd).resolve_right fun hs => hn _ hs rfl
  · intro up k hk
    rcases since_append hk with hn | ⟨hl, hn⟩
    · obtain ⟨_, hmem, rfl⟩ := hn.exists_mem
      obtain ⟨i, key, was⟩ := c.handling_of_ended hmem
      exact ⟨by rw [h.coherent.parsed i k key was]; rfl, c.returning_of_failed up hn⟩
    · obtain ⟨parses, hr⟩ := h.returning_of_failed (c.isDown up) k hl
      exact ⟨parses, (c.returning up parses hr).resolve_right fun hs => hn _ hs (Or.inl rfl)⟩

theorem Tracked.run {actions : List Action} (h : Tracked log d) (r : d.run actions = some d') :
    Tracked (log ++ d.history actions) d' :=
  run_induction Tracked.change log h r

theorem Coherent.placed (h : Coherent d) (up : d.queue.isDown = false)
    (dirty : k ∈ d.queue.dirty) :
    k ∈ d.queue.waiting ∨ k ∈ d.queue.processing ∧ k ∈ d.queue.dirty :=
  (h.sound.placed_of_dirty up k dirty).imp_right fun hp => ⟨hp, dirty⟩

theorem Coherent.processing_of_picked (h : Coherent d) (picked : d.Picked k) :
    k ∈ d.queue.processing := by
  obtain ⟨i, hi⟩ := picked
  exact (h.processing_iff k).2 ⟨i, holding_of_worker hi⟩

/-- In every state of every run, no object has two handler calls in flight and there are no more
calls than workers. Until the shutdown, a key that was added and not taken since waits, or it is
being processed and dirty. So does a key that was added with no handler call started since, if the
workers' turns are not divided; if they are, a worker may just have taken it and be about to call. A key
whose last call failed and that was not dropped waits for a timer, is dirty, or was taken again. -/
theorem keys_delivered {s : DispatchSettings} {actions : List Action}
    (r : (ofSettings s).run actions = some d) :
    (d.calls.Nodup ∧ d.calls.length ≤ s.workers) ∧
    (d.queue.isDown = false → ∀ key,
      (Untaken ((ofSettings s).history actions) key →
        key ∈ d.queue.waiting ∨ key ∈ d.queue.processing ∧ key ∈ d.queue.dirty) ∧
      ((ofSettings s).undivided actions → (ObjectKey.parse? key).isSome →
        Unanswered ((ofSettings s).history actions) key →
          key ∈ d.queue.waiting ∨ key ∈ d.queue.processing ∧ key ∈ d.queue.dirty) ∧
      ((ObjectKey.parse? key).isSome → Unanswered ((ofSettings s).history actions) key →
        key ∈ d.queue.waiting ∨
          key ∈ d.queue.processing ∧ (key ∈ d.queue.dirty ∨ d.Picked key)) ∧
      (Failed ((ofSettings s).history actions) key →
        (∃ retry ∈ d.retries, retry.key = key) ∨ key ∈ d.queue.dirty ∨
          key ∈ d.queue.processing ∧ d.Picked key)) := by
  have t : Tracked ((ofSettings s).history actions) d := by
    simpa using (tracked_ofSettings s).run r
  refine ⟨⟨t.coherent.calls_nodup, ?_⟩, fun up key => ⟨?_, ?_, ?_, ?_⟩⟩
  · have hlen : d.workers.length = s.workers := by
      rw [run_workers_length r]
      exact List.length_replicate
    exact hlen ▸ calls_length_le d
  · exact fun h => t.coherent.placed up (t.dirty_of_untaken up key h)
  · intro whole parses h
    have due := t.due_of_unanswered up key parses h
    exact t.coherent.placed up (due.resolve_right (not_picked_of_undivided whole r key))
  · intro parses h
    rcases t.due_of_unanswered up key parses h with hd | hp
    · exact (t.coherent.placed up hd).imp_right fun hp => ⟨hp.1, Or.inl hd⟩
    · exact Or.inr ⟨t.coherent.processing_of_picked hp, Or.inr hp⟩
  · intro h
    rcases (t.returning_of_failed up key h).2 with hr | hd | hp
    · exact Or.inl hr
    · exact Or.inr (Or.inl hd)
    · exact Or.inr (Or.inr ⟨t.coherent.processing_of_picked hp, hp⟩)

/-- A key is added again while its call is in flight; then the call fails, with another in flight. -/
def busyRun : List Action :=
  [.add "demo/a", .add "demo/b", .listen 0, .look 0, .report 0, .add "demo/a", .listen 1, .look 1,
    .report 1, .finish 0 .failed]

theorem busyRun_delivers :
    ∃ d, (ofSettings {}).run busyRun = some d ∧ d.queue.isDown = false ∧
      (ofSettings {}).undivided busyRun ∧
      Untaken ((ofSettings {}).history busyRun) "demo/a" ∧
      Unanswered ((ofSettings {}).history busyRun) "demo/a" ∧
      Failed ((ofSettings {}).history busyRun) "demo/a" ∧
      d.calls.Nodup ∧ d.calls.length ≤ 2 ∧
      ("demo/a" ∈ d.queue.waiting ∨
        "demo/a" ∈ d.queue.processing ∧ "demo/a" ∈ d.queue.dirty) ∧
      ((∃ retry ∈ d.retries, retry.key = "demo/a") ∨ "demo/a" ∈ d.queue.dirty ∨
        "demo/a" ∈ d.queue.processing ∧ d.Picked "demo/a") := by
  obtain ⟨d, r⟩ : ∃ d, (ofSettings {}).run busyRun = some d := ⟨_, rfl⟩
  have up : d.queue.isDown = false := by
    have hd : ((ofSettings {}).run busyRun).map (·.queue.isDown) = some false := rfl
    simpa [r] using hd
  have whole : (ofSettings {}).undivided busyRun := rfl
  have untaken : Untaken ((ofSettings {}).history busyRun) "demo/a" :=
    ⟨_, .added .direct "demo/a", [.taken "demo/b", .started "demo/b", .ended "demo/a" .failed],
      show _ = [_, _, _, _] ++ _ from rfl, rfl, by simp⟩
  have unanswered : Unanswered ((ofSettings {}).history busyRun) "demo/a" :=
    ⟨_, .added .direct "demo/a", [.taken "demo/b", .started "demo/b", .ended "demo/a" .failed],
      show _ = [_, _, _, _] ++ _ from rfl, rfl, by simp⟩
  have failed : Failed ((ofSettings {}).history busyRun) "demo/a" :=
    ⟨_, .ended "demo/a" .failed, [], show _ = [_, _, _, _, _, _, _] ++ _ from rfl, rfl, by simp⟩
  obtain ⟨⟨once, few⟩, keys⟩ := keys_delivered r
  obtain ⟨-, added, -, back⟩ := keys up "demo/a"
  exact ⟨d, r, up, whole, untaken, unanswered, failed, once, few, added whole rfl unanswered,
    back failed⟩

end RoleOperator.Dispatcher
