import RoleOperator.Proofs.Queue.Bookkeeping

/-!
# Order of service

A work queue with everyone who uses it: operations come in any order, and timers bring failed keys
back at any time. Keys leave the line in the order in which they entered it, one with each get, and
each add leads to the key being handed out once more.
-/
namespace RoleOperator

/-- `returning` has a key for each timer that has been set and has not fired. -/
structure Service where
  queue : WorkQueue
  returning : List String := []

namespace Service

inductive Action where
  | add (key : String)
  | get
  | done (key : String)
  | fail (key : String)
  | forget (key : String)
  | shutDown
  | fire (key : String)
  deriving DecidableEq

inductive Happening where
  | added (key : String)
  | queued (key : String)
  | taken (key : String)
  | released (key : String)
  deriving DecidableEq

def enter (s : Service) (key : String) : Service := { s with queue := (s.queue.add key).2 }

/-- Count a failure. Without a delay the key is added at once, else a timer will do that. -/
def postpone (s : Service) (key : String) : Service :=
  let failed := { s with queue := (s.queue.fail key).2 }
  if (s.queue.fail key).1.isZero then failed.enter key
  else { failed with returning := s.returning ++ [key] }

/-- A key is given back only by someone who holds it, and fires only from a timer. -/
def step (s : Service) : Action → Option Service
  | .add key => some (s.enter key)
  | .get => some { s with queue := (s.queue.take?.map (·.2)).getD s.queue }
  | .done key =>
    if key ∈ s.queue.processing then some { s with queue := (s.queue.done key).2 } else none
  | .fail key => some (s.postpone key)
  | .forget key => some { s with queue := s.queue.forget key }
  | .shutDown => some { s with queue := s.queue.shutDown }
  | .fire key =>
    if key ∈ s.returning then some ({ s with returning := s.returning.erase key }.enter key)
    else none

def run (s : Service) : List Action → Option Service
  | [] => some s
  | a :: rest => (s.step a).bind fun s => s.run rest

def entry (q : WorkQueue) (key : String) : List Happening :=
  .added key :: if (q.add key).1 then [.queued key] else []

def handback (q : WorkQueue) (key : String) : List Happening :=
  .released key :: if (q.done key).1 then [.queued key] else []

def happenings (s : Service) : Action → List Happening
  | .add key | .fire key => entry s.queue key
  | .get => (s.queue.take?.map fun t => Happening.taken t.1).toList
  | .done key => handback s.queue key
  | .fail key => if (s.queue.fail key).1.isZero then entry (s.queue.fail key).2 key else []
  | .forget _ | .shutDown => []

/-- What happens to keys in a run, as far as the actions are possible. -/
def history (s : Service) : List Action → List Happening
  | [] => []
  | a :: rest =>
    s.happenings a ++ match s.step a with
      | some s => s.history rest
      | none => []

def queuedKeys (log : List Happening) : List String :=
  log.filterMap fun
    | .queued key => some key
    | _ => none

def takenKeys (log : List Happening) : List String :=
  log.filterMap fun
    | .taken key => some key
    | _ => none

def opened (base max : Duration) : Service := { queue := { baseDelay := base, maxDelay := max } }

/-- The next gets hand out `ahead` and then `key`, one by one, whatever else is done to the queue
before it is shut down. -/
def Follows (s : Service) (ahead : List String) (key : String) : Prop :=
  ∀ actions s', s.run actions = some s' → s'.queue.isDown = false →
    (ahead ++ [key]).take (actions.count .get) <+: takenKeys (s.history actions)

variable {s s' : Service} {a : Action} {actions : List Action} {log news : List Happening}
  {key k : String} {line : List String}

/-! ## One step -/

/-- The changes that a step can make to the queue, each with what happens to keys. -/
inductive Change (q q' : WorkQueue) : List Happening → Prop where
  | keep (waiting : q'.waiting = q.waiting) (dirty : q'.dirty = q.dirty)
      (processing : q'.processing = q.processing) (isDown : q'.isDown = q.isDown) : Change q q' []
  | enter {key : String} {p : WorkQueue} (waiting : p.waiting = q.waiting)
      (dirty : p.dirty = q.dirty) (processing : p.processing = q.processing)
      (isDown : p.isDown = q.isDown) (entered : q' = (p.add key).2) : Change q q' (entry p key)
  | take {key : String} (taken : q.take? = some (key, q')) : Change q q' [.taken key]
  | release {key : String} (held : key ∈ q.processing) (released : q' = (q.done key).2) :
      Change q q' (handback q key)
  | close (closed : q' = q.shutDown) : Change q q' []

theorem change_of_step (h : s.step a = some s') : Change s.queue s'.queue (s.happenings a) := by
  cases a with
  | add key =>
    cases h
    exact .enter rfl rfl rfl rfl rfl
  | get =>
    cases h
    cases ht : s.queue.take? with
    | none =>
      simp only [happenings, ht]
      exact .keep rfl rfl rfl rfl
    | some t =>
      simp only [happenings, ht]
      exact .take ht
  | done key =>
    obtain ⟨held, hs⟩ := Option.ite_none_right_eq_some.1 h
    cases hs
    exact .release held rfl
  | fail key =>
    cases h
    simp only [happenings, postpone]
    split
    · exact .enter rfl rfl rfl rfl rfl
    · exact .keep rfl rfl rfl rfl
  | forget key =>
    cases h
    exact .keep rfl rfl rfl rfl
  | shutDown =>
    cases h
    exact .close rfl
  | fire key =>
    obtain ⟨_, hs⟩ := Option.ite_none_right_eq_some.1 h
    cases hs
    exact .enter rfl rfl rfl rfl rfl

theorem waiting_add (q : WorkQueue) (key : String) :
    (q.add key).2.waiting = q.waiting ++ queuedKeys (entry q key) := by
  unfold entry WorkQueue.add
  split
  · simp [queuedKeys]
  · dsimp only
    split <;> simp [queuedKeys]

theorem waiting_done (q : WorkQueue) (key : String) :
    (q.done key).2.waiting = q.waiting ++ queuedKeys (handback q key) := by
  unfold handback WorkQueue.done
  dsimp only
  split <;> simp [queuedKeys]

theorem takenKeys_entry (q : WorkQueue) (key : String) : takenKeys (entry q key) = [] := by
  unfold entry
  split <;> rfl

theorem takenKeys_handback (q : WorkQueue) (key : String) : takenKeys (handback q key) = [] := by
  unfold handback
  split <;> rfl

theorem count_added_entry (q : WorkQueue) (key k : String) :
    (entry q key).count (.added k) = if key = k then 1 else 0 := by
  unfold entry
  split <;> simp [List.count_cons]

theorem count_entry (q : WorkQueue) (key : String) {h : Happening} (added : h ≠ .added key)
    (queued : h ≠ .queued key) : (entry q key).count h = 0 := by
  unfold entry
  split <;> simp [Ne.symm added, Ne.symm queued]

theorem count_released_handback (q : WorkQueue) (key k : String) :
    (handback q key).count (.released k) = if key = k then 1 else 0 := by
  unfold handback
  split <;> simp [List.count_cons]

theorem count_handback (q : WorkQueue) (key : String) {h : Happening} (released : h ≠ .released key)
    (queued : h ≠ .queued key) : (handback q key).count h = 0 := by
  unfold handback
  split <;> simp [Ne.symm released, Ne.symm queued]

namespace Change

variable {q q' : WorkQueue}

theorem sound (c : Change q q' news) (h : q.Sound) : q'.Sound := by
  cases c with
  | keep hw hd hp hdown => exact h.of_eq hw hd hp hdown
  | @enter key p hw hd hp hdown he =>
    rw [he]
    exact (h.of_eq hw hd hp hdown).add key
  | take ht => exact h.take ht
  | @release key held he =>
    rw [he]
    exact h.done held
  | close he =>
    rw [he]
    exact h.shutDown

theorem up (c : Change q q' news) (h : q'.isDown = false) : q.isDown = false := by
  cases c with
  | keep _ _ _ hdown => rw [← hdown, h]
  | enter _ _ _ hdown he =>
    rw [he, WorkQueue.add_isDown] at h
    rw [← hdown, h]
  | take ht => exact (WorkQueue.take?_eq_some ht).1
  | release _ he =>
    rw [he, WorkQueue.done_isDown] at h
    exact h
  | close he =>
    rw [he] at h
    cases h

/-- Keys enter the line at its end and leave it at its head. -/
theorem in_order (c : Change q q' news) :
    q.waiting ++ queuedKeys news = takenKeys news ++ q'.waiting := by
  cases c with
  | keep hw => simp [queuedKeys, takenKeys, hw]
  | enter hw _ _ _ he => rw [he, waiting_add, takenKeys_entry, hw, List.nil_append]
  | take ht =>
    obtain ⟨_, rest, hw, rfl⟩ := WorkQueue.take?_eq_some ht
    simp [queuedKeys, takenKeys, hw]
  | release _ he => rw [he, waiting_done, takenKeys_handback, List.nil_append]
  | close he => simp [queuedKeys, takenKeys, he, WorkQueue.shutDown]

/-- Each add is good for one hand-out, which a dirty key still has before it. -/
theorem owed (c : Change q q' news) (h : q.Sound) (k : String) :
    news.count (.taken k) + (if k ∈ q'.dirty then 1 else 0) ≤
      news.count (.added k) + if k ∈ q.dirty then 1 else 0 := by
  cases c with
  | keep _ hd => simp [hd]
  | @enter key p _ hd _ _ he =>
    have hdirty := WorkQueue.mem_dirty_add p key k
    rw [← he, hd] at hdirty
    rw [count_added_entry, count_entry p key (by simp) (by simp)]
    by_cases hk : key = k
    · rw [if_pos hk]
      split <;> omega
    · simp [hdirty, hk, Ne.symm hk]
  | @take key ht =>
    have hdirty := WorkQueue.mem_dirty_take ht k
    by_cases hk : k = key
    · subst hk
      have hd := h.dirty_of_take ht
      simp [hdirty, hd]
    · simp [hdirty, hk, Ne.symm hk]
  | @release key _ he =>
    rw [he, WorkQueue.done_dirty, count_handback q key (by simp) (by simp)]
    omega
  | close he => simp [he, WorkQueue.shutDown]

/-- A key is held from each hand-out until it is given back. -/
theorem holds (c : Change q q' news) (h : q.Sound) (k : String) :
    news.count (.taken k) + (if k ∈ q.processing then 1 else 0) =
      news.count (.released k) + if k ∈ q'.processing then 1 else 0 := by
  cases c with
  | keep _ _ hp => simp [hp]
  | @enter key p _ _ hp _ he =>
    rw [count_entry p key (by simp) (by simp), count_entry p key (by simp) (by simp), he,
      WorkQueue.add_processing, hp]
  | @take key ht =>
    have hproc := WorkQueue.mem_processing_take ht k
    by_cases hk : k = key
    · subst hk
      have hidle := h.idle_of_take ht
      simp [hproc, hidle]
    · simp [hproc, hk, Ne.symm hk]
  | @release key held he =>
    have hproc := WorkQueue.mem_processing_done q key k
    rw [← he] at hproc
    rw [count_released_handback, count_handback q key (by simp) (by simp)]
    by_cases hk : key = k
    · subst hk
      simp [held, hproc]
    · simp [hproc, hk, Ne.symm hk]
  | close he => simp [he, WorkQueue.shutDown]

theorem dirty_of_added (c : Change q q' news) (up : q'.isDown = false) (h : .added k ∈ news) :
    k ∈ q'.dirty := by
  have hup := c.up up
  cases c with
  | @enter key p _ _ _ hdown he =>
    have hk : (entry p key).count (.added k) ≠ 0 := fun h0 => List.count_eq_zero.1 h0 h
    rw [count_added_entry] at hk
    have hk : key = k := by simpa using hk
    rw [he, WorkQueue.mem_dirty_add, hdown]
    exact Or.inr ⟨hk.symm, hup⟩
  | @release key =>
    have h0 := count_handback q key (h := .added k) (by simp) (by simp)
    exact absurd h (List.count_eq_zero.1 h0)
  | _ => simp at h

theorem dirty_of_untaken (c : Change q q' news) (hk : k ∈ q.dirty) (h : .taken k ∉ news) :
    k ∈ q'.dirty := by
  cases c with
  | keep _ hd => rwa [hd]
  | enter _ hd _ _ he =>
    rw [he, WorkQueue.mem_dirty_add, hd]
    exact Or.inl hk
  | take ht =>
    rw [WorkQueue.mem_dirty_take ht]
    exact ⟨hk, fun he => h (by simp [he])⟩
  | release _ he => rwa [he, WorkQueue.done_dirty]
  | close he => rwa [he]

/-- A key is not handed out while it is held. -/
theorem held (c : Change q q' news) (h : q.Sound) (hk : k ∈ q.processing)
    (kept : .released k ∉ news) : k ∈ q'.processing ∧ .taken k ∉ news := by
  have hold := c.holds h k
  have hr : news.count (.released k) = 0 := List.count_eq_zero.2 kept
  rw [if_pos hk, hr] at hold
  by_cases hk' : k ∈ q'.processing
  · rw [if_pos hk'] at hold
    exact ⟨hk', List.count_eq_zero.1 (by omega)⟩
  · rw [if_neg hk'] at hold
    omega

end Change

/-- Only a get hands out a key. -/
theorem takenKeys_of_ne (h : a ≠ .get) : takenKeys (s.happenings a) = [] := by
  cases a with
  | get => exact absurd rfl h
  | add key | fire key => exact takenKeys_entry s.queue key
  | done key => exact takenKeys_handback s.queue key
  | fail key =>
    simp only [happenings]
    split
    · exact takenKeys_entry _ key
    · rfl
  | forget key | shutDown => rfl

theorem not_released_entry (q : WorkQueue) (key k : String) : .released k ∉ entry q key :=
  List.count_eq_zero.1 (count_entry q key (by simp) (by simp))

theorem released_handback {q : WorkQueue} (h : .released k ∈ handback q key) : key = k := by
  have hk : (handback q key).count (.released k) ≠ 0 := fun h0 => List.count_eq_zero.1 h0 h
  rw [count_released_handback] at hk
  simpa using hk

theorem eq_done_of_released (h : .released k ∈ s.happenings a) : a = .done k := by
  cases a with
  | done key => rw [released_handback h]
  | add key | fire key => exact absurd h (not_released_entry _ key k)
  | fail key =>
    simp only [happenings] at h
    split at h
    · exact absurd h (not_released_entry _ key k)
    · cases h
  | get => simp [happenings] at h
  | forget key | shutDown => cases h

theorem get_of_waiting {rest : List String} (hw : s.queue.waiting = key :: rest)
    (up : s.queue.isDown = false) :
    ∃ m, s.step .get = some m ∧ m.queue.waiting = rest ∧ s.happenings .get = [.taken key] := by
  have ht : ∃ q, s.queue.take? = some (key, q) ∧ q.waiting = rest := by
    simp [WorkQueue.take?, up, hw]
  obtain ⟨q, ht, hq⟩ := ht
  refine ⟨{ s with queue := q }, ?_, hq, ?_⟩
  · simp [step, ht]
  · simp [happenings, ht]

/-! ## Runs -/

theorem history_cons {m : Service} (h : s.step a = some m) (rest : List Action) :
    s.history (a :: rest) = s.happenings a ++ m.history rest := by simp only [history, h]

theorem run_induction {P : List Happening → Service → Prop}
    (change : ∀ {s s' : Service} {log news : List Happening},
      P log s → Change s.queue s'.queue news → P (log ++ news) s')
    (log : List Happening) (start : P log s) (r : s.run actions = some s') :
    P (log ++ s.history actions) s' := by
  induction actions generalizing s log with
  | nil =>
    cases r
    simpa [history] using start
  | cons a rest ih =>
    obtain ⟨m, hs, hr⟩ := Option.bind_eq_some_iff.1 r
    rw [history_cons hs, ← List.append_assoc]
    exact ih _ (change start (change_of_step hs)) hr

theorem run_up (r : s.run actions = some s') (up : s'.queue.isDown = false) :
    s.queue.isDown = false := by
  have h : s'.queue.isDown = false → s.queue.isDown = false :=
    run_induction (P := fun _ t => t.queue.isDown = false → s.queue.isDown = false)
      (fun h c up => h (c.up up)) [] id r
  exact h up

/-- What the history says of the line and of the hands. -/
structure Accounted (log : List Happening) (s : Service) : Prop where
  sound : s.queue.Sound
  in_order : queuedKeys log = takenKeys log ++ s.queue.waiting
  owed : ∀ k, log.count (.taken k) + (if k ∈ s.queue.dirty then 1 else 0) ≤ log.count (.added k)
  holds : ∀ k, log.count (.taken k) =
    log.count (.released k) + if k ∈ s.queue.processing then 1 else 0

theorem accounted_opened (base max : Duration) : Accounted [] (opened base max) :=
  ⟨WorkQueue.sound_empty base max, rfl, by simp [opened], by simp [opened]⟩

theorem Accounted.change (h : Accounted log s) (c : Change s.queue s'.queue news) :
    Accounted (log ++ news) s' := by
  refine ⟨c.sound h.sound, ?_, fun k => ?_, fun k => ?_⟩
  · have hq : queuedKeys (log ++ news) = queuedKeys log ++ queuedKeys news := List.filterMap_append
    have ht : takenKeys (log ++ news) = takenKeys log ++ takenKeys news := List.filterMap_append
    rw [hq, ht, h.in_order, List.append_assoc, List.append_assoc, c.in_order]
  · have ho := h.owed k
    have hc := c.owed h.sound k
    rw [List.count_append, List.count_append]
    omega
  · have hh := h.holds k
    have hc := c.holds h.sound k
    rw [List.count_append, List.count_append]
    omega

theorem follows_of_line (h : line <+: s.queue.waiting) (r : s.run actions = some s')
    (up : s'.queue.isDown = false) :
    line.take (actions.count .get) <+: takenKeys (s.history actions) := by
  induction actions generalizing s line with
  | nil => simp
  | cons a rest ih =>
    obtain ⟨m, hs, hr⟩ := Option.bind_eq_some_iff.1 r
    have ht : takenKeys (s.history (a :: rest)) =
        takenKeys (s.happenings a) ++ takenKeys (m.history rest) := by
      rw [history_cons hs]
      exact List.filterMap_append
    rw [ht]
    by_cases ha : a = .get
    · subst ha
      rw [List.count_cons_self]
      cases line with
      | nil => simp
      | cons key line =>
        -- The get hands out the head of the line, and the others move up.
        obtain ⟨behind, hw⟩ := h
        have head : s.queue.waiting = key :: (line ++ behind) := hw.symm
        obtain ⟨m', hs', hw', hn⟩ := get_of_waiting head (run_up r up)
        cases hs.symm.trans hs'
        have hl := ih ⟨behind, hw'.symm⟩ hr
        rw [hn, List.take_succ_cons]
        exact (List.prefix_cons_inj key).2 hl
    · have hn : takenKeys (s.happenings a) = [] := takenKeys_of_ne ha
      have hw := (change_of_step hs).in_order
      rw [hn, List.nil_append] at hw
      rw [hn, List.nil_append, List.count_cons_of_ne ha]
      exact ih (h.trans ⟨_, hw⟩) hr

theorem follows_of_waiting {ahead behind : List String}
    (h : s.queue.waiting = ahead ++ key :: behind) : s.Follows ahead key := by
  intro actions s' r up
  exact follows_of_line ⟨behind, by simp [h]⟩ r up

/-- A dirty key that is held stays so until it is given back. -/
theorem held_of_run (h : s.queue.Sound) (hp : k ∈ s.queue.processing) (hd : k ∈ s.queue.dirty)
    (r : s.run actions = some s') (kept : .done k ∉ actions) :
    s'.queue.Sound ∧ k ∈ s'.queue.processing ∧ k ∈ s'.queue.dirty ∧
      .taken k ∉ s.history actions := by
  induction actions generalizing s with
  | nil =>
    cases r
    exact ⟨h, hp, hd, by simp [history]⟩
  | cons a rest ih =>
    obtain ⟨m, hs, hr⟩ := Option.bind_eq_some_iff.1 r
    have c := change_of_step hs
    have ha : a ≠ .done k := fun he => kept (by simp [he])
    have hrest : .done k ∉ rest := fun hm => kept (List.mem_cons_of_mem a hm)
    obtain ⟨hp', ht⟩ := c.held h hp fun hn => ha (eq_done_of_released hn)
    obtain ⟨sound, hp', hd', ht'⟩ := ih (c.sound h) hp' (c.dirty_of_untaken hd ht) hr hrest
    refine ⟨sound, hp', hd', ?_⟩
    rw [history_cons hs, List.mem_append]
    exact fun hn => hn.elim ht ht'

theorem follows_of_done (hp : k ∈ s.queue.processing)
    (hd : k ∈ s.queue.dirty) (up : s.queue.isDown = false) :
    ∃ t, s.step (.done k) = some t ∧ t.Follows s.queue.waiting k := by
  have waiting : (s.queue.done k).2.waiting = s.queue.waiting ++ k :: [] := by
    rw [WorkQueue.done_waiting, if_pos ⟨hd, up⟩]
  exact ⟨{ s with queue := (s.queue.done k).2 }, if_pos hp, follows_of_waiting waiting⟩

/-- Whatever is done to a queue, no key stands in line twice, the keys in line are dirty and nobody
holds them, and until the shutdown each dirty key stands in line or is held. Keys are handed out in
the order in which they entered the line, and each get takes the next one, so a key in line follows
those ahead of it. A key is handed out at most as often as it is added, and never while it is held.
An add before the shutdown leads to a hand-out: the key stands in line from then on, or it is held and
will do so at once when it is given back. -/
theorem served_in_order {base max : Duration} (r : (opened base max).run actions = some s) :
    s.queue.waiting.Nodup ∧
    (∀ key ∈ s.queue.waiting, key ∈ s.queue.dirty ∧ key ∉ s.queue.processing) ∧
    (s.queue.isDown = false → ∀ key ∈ s.queue.dirty,
      key ∈ s.queue.waiting ∨ key ∈ s.queue.processing) ∧
    queuedKeys ((opened base max).history actions) =
      takenKeys ((opened base max).history actions) ++ s.queue.waiting ∧
    (∀ ahead key behind, s.queue.waiting = ahead ++ key :: behind → s.Follows ahead key) ∧
    (∀ key,
      ((opened base max).history actions).count (.taken key) ≤
          ((opened base max).history actions).count (.added key) ∧
        ((opened base max).history actions).count (.taken key) =
          ((opened base max).history actions).count (.released key) +
            if key ∈ s.queue.processing then 1 else 0) ∧
    ∀ a s' key, s.step a = some s' → s'.queue.isDown = false → .added key ∈ s.happenings a →
      (∃ ahead behind, s'.queue.waiting = ahead ++ key :: behind ∧ s'.Follows ahead key) ∨
      key ∈ s'.queue.processing ∧ ∀ later t, s'.run later = some t → t.queue.isDown = false →
        .done key ∉ later → .taken key ∉ s'.history later ∧
          ∃ t', t.step (.done key) = some t' ∧ t'.Follows t.queue.waiting key := by
  have acc : Accounted ((opened base max).history actions) s :=
    run_induction Accounted.change [] (accounted_opened base max) r
  have sound := acc.sound
  refine ⟨sound.waiting_nodup,
    fun key hk => ⟨sound.dirty_of_waiting key hk, sound.idle_of_waiting key hk⟩,
    sound.placed_of_dirty, acc.in_order, fun _ _ _ => follows_of_waiting, fun key => ⟨?_, acc.holds key⟩,
    ?_⟩
  · have ho := acc.owed key
    omega
  · intro a s' key hs up added
    have c := change_of_step hs
    have sound' := c.sound sound
    have hd := c.dirty_of_added up added
    rcases sound'.placed_of_dirty up key hd with hw | hp
    · obtain ⟨ahead, behind, hw⟩ := List.append_of_mem hw
      exact Or.inl ⟨ahead, behind, hw, follows_of_waiting hw⟩
    · refine Or.inr ⟨hp, fun later t hr hup kept => ?_⟩
      obtain ⟨sound, hp', hd', ht⟩ := held_of_run sound' hp hd hr kept
      exact ⟨ht, follows_of_done hp' hd' hup⟩

/-- One key fails while it is held, and another waits. -/
def failing : List Action := [.add "demo/a", .add "demo/b", .get, .fail "demo/a"]

/-- The timer fires before the key has been given back. -/
theorem failing_served :
    ∃ s s', (opened (.ofMillis 5) (.ofSeconds 1)).run failing = some s ∧
      s.step (.fire "demo/a") = some s' ∧ s'.queue.isDown = false ∧
      s.queue.waiting = ["demo/b"] ∧ s.Follows [] "demo/b" ∧
      "demo/a" ∈ s'.queue.processing ∧ ∀ later t, s'.run later = some t →
        t.queue.isDown = false → .done "demo/a" ∉ later → .taken "demo/a" ∉ s'.history later ∧
          ∃ t', t.step (.done "demo/a") = some t' ∧ t'.Follows t.queue.waiting "demo/a" := by
  obtain ⟨s, s', r, fired, up, line, line', added⟩ :
      ∃ s s', (opened (.ofMillis 5) (.ofSeconds 1)).run failing = some s ∧
        s.step (.fire "demo/a") = some s' ∧ s'.queue.isDown = false ∧
        s.queue.waiting = ["demo/b"] ∧ s'.queue.waiting = ["demo/b"] ∧
        s.happenings (.fire "demo/a") = [.added "demo/a"] := ⟨_, _, rfl, rfl, rfl, rfl, rfl, rfl⟩
  obtain ⟨-, -, -, -, follows, -, answered⟩ := served_in_order r
  refine ⟨s, s', r, fired, up, line, follows [] "demo/b" [] line, ?_⟩
  rcases answered _ s' "demo/a" fired up (by simp [added]) with ⟨ahead, behind, hw, -⟩ | held
  · have hm : "demo/a" ∈ s'.queue.waiting := by simp [hw]
    rw [line'] at hm
    simp at hm
  · exact held

end Service
end RoleOperator
