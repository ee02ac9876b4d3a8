import RoleOperator.Proofs.Queue.Bookkeeping
import RoleOperator.Proofs.Queue.Wakeups
import RoleOperator.Proofs.Stepwise

/-!
# No wake-up is lost

A work queue with everyone who waits for a key of it, and everyone who adds keys. Each task may be
interrupted between any two of its steps: between a change of the queue and the wake-up for it,
between listening and looking, and between getting a key and stopping to listen.
-/
namespace RoleOperator

namespace WorkQueue

variable (q : WorkQueue) (key : String)

theorem add_waiting_length :
    (q.add key).2.waiting.length = q.waiting.length + if (q.add key).1 then 1 else 0 := by
  unfold add
  split
  · rfl
  · dsimp only
    split <;> simp

theorem done_waiting_length :
    (q.done key).2.waiting.length = q.waiting.length + if (q.done key).1 then 1 else 0 := by
  unfold done
  dsimp only
  split <;> simp

theorem waiting_of_take? {q : WorkQueue} (up : q.isDown = false) (none : q.take? = none) :
    q.waiting = [] := by
  cases hw : q.waiting with
  | nil => rfl
  | cons key rest => simp [take?, up, hw] at none

end WorkQueue

/-- Where somebody who wants a key stands. One who leaves knows the outcome, and still listens. -/
inductive Get where
  | ready
  | listening
  | asleep
  | leaving (key : Option String)
  | ended (key : Option String)
  | dropped
  deriving DecidableEq

namespace Get

def isPending : Get → Bool
  | .ended _ | .dropped => false
  | _ => true

/-- The key that has been got. -/
def key? : Get → Option String
  | .leaving key | .ended key => key
  | _ => none

def listens : Get → Bool
  | .listening | .asleep | .leaving _ => true
  | _ => false

/-- One who is awake will look at the queue once more. -/
def looks : Get → Nat
  | .ready | .listening => 1
  | _ => 0

/-- How far one is from having gone as far as possible. -/
def effort : Get → Nat
  | .ready => 3
  | .listening => 5
  | .asleep | .leaving _ => 4
  | .ended _ | .dropped => 0

end Get

/-- `owed` and `closing` count the wake-ups, for one and for all, that are still to be given for
what has been done to the queue; `returning` has a key for each timer that has not fired. -/
structure WaitingRoom where
  queue : WorkQueue
  wakeups : Wakeups := {}
  gets : List Get := []
  owed : Nat := 0
  closing : Nat := 0
  returning : List String := []

namespace WaitingRoom

inductive Action where
  | add (key : String)
  | done (key : String)
  | fail (key : String)
  | forget (key : String)
  | fire (key : String)
  | shutDown
  | come
  | drop (get : Nat)
  | notify
  | announce
  | listen (get : Nat)
  | look (get : Nat)
  | wake (get : Nat)
  | leave (get : Nat)

/-- A step that somebody takes who has begun something, and that waits for nothing. -/
def Action.isOwn : Action → Bool
  | .notify | .announce | .listen _ | .look _ | .wake _ | .leave _ => true
  | _ => false

def opened (base max : Duration) : WaitingRoom where
  queue := { baseDelay := base, maxDelay := max }

def setGet (r : WaitingRoom) (i : Nat) (g : Get) : WaitingRoom := { r with gets := r.gets.set i g }

/-- Change the queue; the flag says that a wake-up has to follow. -/
def accept (r : WaitingRoom) (changed : Bool × WorkQueue) : WaitingRoom :=
  { r with queue := changed.2, owed := r.owed + if changed.1 then 1 else 0 }

/-- Count a failure. Without a delay the key is added at once, else a timer will do that. -/
def postpone (r : WaitingRoom) (key : String) : WaitingRoom :=
  let failed := { r with queue := (r.queue.fail key).2 }
  if (r.queue.fail key).1.isZero then failed.accept (failed.queue.add key)
  else { failed with returning := r.returning ++ [key] }

def look (r : WaitingRoom) (i : Nat) : WaitingRoom :=
  if r.queue.isDown then r.setGet i (.leaving none)
  else
    match r.queue.take? with
    | some (key, q) => { r with queue := q }.setGet i (.leaving (some key))
    | none => r.setGet i .asleep

section Steps

variable (rule : WakingRule)

/-- Only one who sleeps can be dropped: a task is not interrupted for good anywhere else. -/
def step (r : WaitingRoom) : Action → Option WaitingRoom
  | .add key => some (r.accept (r.queue.add key))
  | .done key => some (r.accept (r.queue.done key))
  | .fail key => some (r.postpone key)
  | .forget key => some { r with queue := r.queue.forget key }
  | .fire key =>
    if key ∈ r.returning then
      some ({ r with returning := r.returning.erase key }.accept (r.queue.add key))
    else none
  | .shutDown => some { r with queue := r.queue.shutDown, closing := r.closing + 1 }
  | .come => some { r with gets := r.gets ++ [.ready] }
  | .drop i =>
    if r.gets[i]? = some .asleep then
      some ({ r with wakeups := rule.leave r.wakeups i }.setGet i .dropped)
    else none
  | .notify =>
    if 0 < r.owed then some { r with wakeups := rule.wake r.wakeups, owed := r.owed - 1 } else none
  | .announce =>
    if 0 < r.closing then some { r with wakeups := r.wakeups.wakeAll, closing := r.closing - 1 }
    else none
  | .listen i =>
    if r.gets[i]? = some .ready then
      some ({ r with wakeups := r.wakeups.listen i }.setGet i .listening)
    else none
  | .look i => if r.gets[i]? = some .listening then some (r.look i) else none
  | .wake i =>
    if r.gets[i]? = some .asleep ∧ i ∉ r.wakeups.waiting then
      some ({ r with wakeups := r.wakeups.consume i }.setGet i .ready)
    else none
  | .leave i =>
    match r.gets[i]? with
    | some (.leaving key) =>
      some ({ r with wakeups := rule.leave r.wakeups i }.setGet i (.ended key))
    | _ => none

def run (r : WaitingRoom) : List Action → Option WaitingRoom
  | [] => some r
  | a :: rest => (r.step rule a).bind fun r => r.run rest

/-- Everyone has gone as far as possible. -/
def Quiescent (r : WaitingRoom) : Prop := ∀ a : Action, a.isOwn → r.step rule a = none

end Steps

/-- How many will look at the queue once more. -/
def looks (r : WaitingRoom) : Nat := (r.gets.map Get.looks).sum

/-- Whoever sleeps in line has others to take all the keys: those who look at the queue once more,
those who were woken, and those who are still to be woken. -/
structure Sound (r : WaitingRoom) : Prop where
  wakeups : r.wakeups.Sound
  listens : ∀ i ∈ r.wakeups.present, ∃ g, r.gets[i]? = some g ∧ g.listens
  served : r.queue.isDown = false → ∀ i ∈ r.wakeups.waiting, r.gets[i]? = some .asleep →
    r.queue.waiting.length ≤ r.owed + r.looks + r.wakeups.woken.length
  closed : r.queue.isDown → r.closing = 0 → ∀ i ∈ r.wakeups.waiting, r.gets[i]? ≠ some .asleep

variable {rule : WakingRule} {r r' : WaitingRoom} {a : Action} {actions : List Action} {i j : Nat}
  {g g' : Get} {key : String}

theorem sound_opened (base max : Duration) : (opened base max).Sound := by
  refine ⟨⟨List.nodup_nil, fun h => by cases h⟩, ?_, ?_, ?_⟩ <;> simp [opened, Wakeups.present]

/-! ## What a step keeps sound -/

theorem Sound.accept {changed : Bool × WorkQueue} (h : r.Sound)
    (isDown : changed.2.isDown = r.queue.isDown)
    (waiting : changed.2.waiting.length = r.queue.waiting.length + if changed.1 then 1 else 0) :
    (r.accept changed).Sound := by
  refine ⟨h.wakeups, h.listens, fun up i waits asleep => ?_, fun down => h.closed (isDown ▸ down)⟩
  have before := h.served (isDown ▸ up) i waits asleep
  change changed.2.waiting.length ≤ r.owed + _ + r.looks + r.wakeups.woken.length
  omega

/-- Nothing but the failures and the timers has changed. -/
theorem Sound.of_queue (h : r.Sound) {q : WorkQueue} (isDown : q.isDown = r.queue.isDown)
    (waiting : q.waiting = r.queue.waiting) : { r with queue := q }.Sound :=
  ⟨h.wakeups, h.listens, fun up => waiting ▸ h.served (isDown ▸ up),
    fun down => h.closed (isDown ▸ down)⟩

/-- One of those who want a key goes on from `g` to `g'`. -/
theorem Sound.turn (h : r.Sound) (was : r.gets[i]? = some g) (gets : r'.gets = r.gets.set i g')
    (isDown : r'.queue.isDown = r.queue.isDown) (owed : r'.owed = r.owed)
    (closing : r'.closing = r.closing) (wakeups : r'.wakeups.Sound)
    (listens : ∀ j ∈ r'.wakeups.present, j ∈ r.wakeups.present ∧ j ≠ i ∨ j = i ∧ g'.listens)
    (waiting : ∀ j ∈ r'.wakeups.waiting, j ∈ r.wakeups.waiting ∨ j = i)
    (asleep : g' = .asleep → r'.queue.isDown = false ∧ r'.queue.waiting = [])
    (count : r.queue.isDown = false → r'.wakeups.waiting ≠ [] → r'.queue.waiting = [] ∨
      r'.queue.waiting.length + g.looks + r.wakeups.woken.length ≤
        r.queue.waiting.length + g'.looks + r'.wakeups.woken.length) : r'.Sound := by
  have get : ∀ j, r'.gets[j]? = if i = j then some g' else r.gets[j]? := by
    intro j
    rw [gets, getElem?_set_of was]
  have looks : r'.looks + g.looks = r.looks + g'.looks := by
    rw [WaitingRoom.looks, gets, sum_map_set Get.looks was, WaitingRoom.looks]
  refine ⟨wakeups, fun j present => ?_, fun up j waits sleeps => ?_,
    fun down shut j waits sleeps => ?_⟩
  · rw [get]
    rcases listens j present with ⟨known, other⟩ | ⟨rfl, still⟩
    · rw [if_neg other.symm]
      exact h.listens j known
    · exact ⟨g', if_pos rfl, still⟩
  · rw [get] at sleeps
    split at sleeps
    · rw [(asleep (Option.some.inj sleeps)).2]
      exact Nat.zero_le _
    · next other =>
      have known := (waiting j waits).resolve_right (Ne.symm other)
      have before := h.served (isDown ▸ up) j known sleeps
      rcases count (isDown ▸ up) (List.ne_nil_of_mem waits) with empty | change
      · simp [empty]
      · omega
  · rw [get] at sleeps
    split at sleeps
    · rw [(asleep (Option.some.inj sleeps)).1] at down
      cases down
    · next other =>
      have known := (waiting j waits).resolve_right (Ne.symm other)
      exact h.closed (isDown ▸ down) (closing ▸ shut) j known sleeps

theorem Sound.not_present (h : r.Sound) (was : r.gets[i]? = some g) (away : g.listens = false) :
    i ∉ r.wakeups.present := by
  intro present
  obtain ⟨g', hg, listens⟩ := h.listens i present
  obtain rfl : g = g' := Option.some.inj (was.symm.trans hg)
  simp [away] at listens

/-- Somebody stops to listen, having been dropped or having looked. -/
theorem Sound.leave (h : r.Sound) (was : r.gets[i]? = some g) (done : g.looks = 0)
    (awake : g' ≠ .asleep) :
    ({ r with wakeups := rule.leave r.wakeups i }.setGet i g').Sound := by
  refine h.turn was rfl rfl rfl rfl (rule.sound_leave h.wakeups i) ?_ ?_ (absurd · awake) ?_
  · exact fun j present => Or.inl ((WakingRule.mem_present_leave h.wakeups).1 present)
  · exact fun j waits => Or.inl (WakingRule.mem_waiting_leave waits)
  · intro up left
    have passed := WakingRule.woken_leave h.wakeups left
    change _ ∨ r.queue.waiting.length + g.looks + r.wakeups.woken.length ≤
      r.queue.waiting.length + g'.looks + (rule.leave r.wakeups i).woken.length
    omega

theorem Sound.listen (h : r.Sound) (was : r.gets[i]? = some .ready) :
    ({ r with wakeups := r.wakeups.listen i }.setGet i .listening).Sound := by
  have new := h.not_present was rfl
  refine h.turn was rfl rfl rfl rfl (h.wakeups.listen new) ?_ ?_ (by simp) ?_
  · intro j present
    rcases Wakeups.present_listen present with known | rfl
    · exact Or.inl ⟨known, fun he => new (he ▸ known)⟩
    · exact Or.inr ⟨rfl, rfl⟩
  · exact fun j => Wakeups.mem_waiting_listen
  · intro up left
    right
    change _ ≤ r.queue.waiting.length + 1 + (r.wakeups.listen i).woken.length
    rw [Wakeups.woken_listen]
    exact Nat.le_refl _

theorem Sound.look (h : r.Sound) (was : r.gets[i]? = some .listening) : (r.look i).Sound := by
  have known : ∀ g' : Get, g'.listens → ∀ j ∈ r.wakeups.present,
      j ∈ r.wakeups.present ∧ j ≠ i ∨ j = i ∧ g'.listens := by
    intro g' still j present
    by_cases he : j = i
    · exact Or.inr ⟨he, still⟩
    · exact Or.inl ⟨present, he⟩
  unfold WaitingRoom.look
  split
  · next down =>
    refine h.turn was rfl rfl rfl rfl h.wakeups (known _ rfl) (fun j => Or.inl) (by simp) ?_
    intro up
    simp [up] at down
  next up =>
  have up : r.queue.isDown = false := by simpa using up
  split
  · next key q ht =>
    obtain ⟨_, rest, waiting, rfl⟩ := WorkQueue.take?_eq_some ht
    refine h.turn was rfl rfl rfl rfl h.wakeups (known _ rfl) (fun j => Or.inl) (by simp) ?_
    intro _ _
    right
    simp [setGet, waiting, Get.looks]
  · next ht =>
    have empty : r.queue.waiting = [] := WorkQueue.waiting_of_take? up ht
    exact h.turn was rfl rfl rfl rfl h.wakeups (known _ rfl) (fun j => Or.inl)
      (fun _ => ⟨up, empty⟩) (fun _ _ => Or.inl empty)

theorem Sound.wake (h : r.Sound) (was : r.gets[i]? = some .asleep)
    (called : i ∉ r.wakeups.waiting) :
    ({ r with wakeups := r.wakeups.consume i }.setGet i .ready).Sound := by
  refine h.turn was rfl rfl rfl rfl (h.wakeups.consume i) ?_ (fun j => Or.inl) (by simp) ?_
  · exact fun j present => Or.inl ((Wakeups.mem_present_consume called).1 present)
  · intro up left
    have used := h.wakeups.woken_consume i
    right
    change r.queue.waiting.length + 0 + r.wakeups.woken.length ≤
      r.queue.waiting.length + 1 + (r.wakeups.consume i).woken.length
    omega

theorem Sound.notify (h : r.Sound) (owed : 0 < r.owed) :
    { r with wakeups := rule.wake r.wakeups, owed := r.owed - 1 }.Sound := by
  refine ⟨rule.sound_wake h.wakeups, fun i present => ?_, fun up i waits asleep => ?_,
    fun down shut i waits => h.closed down shut i (WakingRule.mem_waiting_wake waits)⟩
  · exact h.listens i ((rule.present_wake r.wakeups).mem_iff.1 present)
  · have before := h.served up i (WakingRule.mem_waiting_wake waits) asleep
    have more := WakingRule.woken_wake (List.ne_nil_of_mem waits)
    change r.queue.waiting.length ≤ r.owed - 1 + r.looks + (rule.wake r.wakeups).woken.length
    omega

theorem Sound.announce (h : r.Sound) :
    { r with wakeups := r.wakeups.wakeAll, closing := r.closing - 1 }.Sound := by
  refine ⟨h.wakeups.wakeAll, fun i present => ?_, fun _ i waits => ?_, fun _ _ i waits => ?_⟩
  · exact h.listens i (List.mem_append_right _ present)
  · cases waits
  · cases waits

theorem Sound.come (h : r.Sound) : { r with gets := r.gets ++ [Get.ready] }.Sound := by
  have kept : ∀ {i g}, r.gets[i]? = some g → (r.gets ++ [Get.ready])[i]? = some g := fun hg =>
    (List.getElem?_append_left (List.getElem?_eq_some_iff.1 hg).1).trans hg
  have here : ∀ i ∈ r.wakeups.waiting, (r.gets ++ [Get.ready])[i]? = some .asleep →
      r.gets[i]? = some .asleep := by
    intro i waits asleep
    obtain ⟨g, hg, -⟩ := h.listens i (List.mem_append_left _ waits)
    rw [hg, ← kept hg, asleep]
  have looks : ((r.gets ++ [Get.ready]).map Get.looks).sum = r.looks + 1 := by
    simp [WaitingRoom.looks, Get.looks]
  refine ⟨h.wakeups, fun i present => ?_, fun up i waits asleep => ?_,
    fun down shut i waits asleep => h.closed down shut i waits (here i waits asleep)⟩
  · obtain ⟨g, hg, listens⟩ := h.listens i present
    exact ⟨g, kept hg, listens⟩
  · have before := h.served up i waits (here i waits asleep)
    change r.queue.waiting.length ≤
      r.owed + ((r.gets ++ [Get.ready]).map Get.looks).sum + r.wakeups.woken.length
    omega

theorem Sound.step (h : r.Sound) (s : r.step rule a = some r') : r'.Sound := by
  cases a with
  | add key =>
    cases s
    exact h.accept (WorkQueue.add_isDown _ _) (WorkQueue.add_waiting_length _ _)
  | done key =>
    cases s
    exact h.accept (WorkQueue.done_isDown _ _) (WorkQueue.done_waiting_length _ _)
  | fail key =>
    cases s
    have failed : { r with queue := (r.queue.fail key).2 }.Sound := h.of_queue rfl rfl
    unfold postpone
    dsimp only
    split
    · exact failed.accept (WorkQueue.add_isDown _ _) (WorkQueue.add_waiting_length _ _)
    · exact ⟨failed.wakeups, failed.listens, failed.served, failed.closed⟩
  | forget key =>
    cases s
    exact h.of_queue rfl rfl
  | fire key =>
    obtain ⟨-, he⟩ := Option.ite_none_right_eq_some.1 s
    cases he
    have fired : { r with returning := r.returning.erase key }.Sound :=
      ⟨h.wakeups, h.listens, h.served, h.closed⟩
    exact fired.accept (WorkQueue.add_isDown _ _) (WorkQueue.add_waiting_length _ _)
  | shutDown =>
    cases s
    refine ⟨h.wakeups, h.listens, fun up => ?_, fun _ shut => ?_⟩
    · cases up
    · cases shut
  | come =>
    cases s
    exact h.come
  | drop i =>
    obtain ⟨was, he⟩ := Option.ite_none_right_eq_some.1 s
    cases he
    exact h.leave was rfl (by simp)
  | notify =>
    obtain ⟨owed, he⟩ := Option.ite_none_right_eq_some.1 s
    cases he
    exact h.notify owed
  | announce =>
    obtain ⟨-, he⟩ := Option.ite_none_right_eq_some.1 s
    cases he
    exact h.announce
  | listen i =>
    obtain ⟨was, he⟩ := Option.ite_none_right_eq_some.1 s
    cases he
    exact h.listen was
  | look i =>
    obtain ⟨was, he⟩ := Option.ite_none_right_eq_some.1 s
    cases he
    exact h.look was
  | wake i =>
    obtain ⟨⟨was, called⟩, he⟩ := Option.ite_none_right_eq_some.1 s
    cases he
    exact h.wake was called
  | leave i =>
    simp only [WaitingRoom.step] at s
    split at s
    · next key was =>
      cases s
      exact h.leave was rfl (by simp)
    · cases s

theorem stepwise (rule : WakingRule) : Stepwise (WaitingRoom.step rule) (WaitingRoom.run rule) :=
  ⟨fun _ => rfl, fun _ _ _ => rfl⟩

theorem Sound.run (h : r.Sound) (ran : r.run rule actions = some r') : r'.Sound :=
  (stepwise rule).keeps Sound.step h ran

/-! ## Coming to rest -/

/-- How much is left to do for everyone before all have gone as far as possible. One who waits in
line has less to do than one who has been woken. -/
def work (r : WaitingRoom) : Nat :=
  r.closing * (3 * r.gets.length + 1) + 4 * r.owed + 3 * r.wakeups.permits +
    (r.gets.map Get.effort).sum + 3 * (r.gets.length - r.wakeups.waiting.length)

theorem Sound.waiting_length_le (h : r.Sound) : r.wakeups.waiting.length ≤ r.gets.length := by
  have within : r.wakeups.waiting ⊆ List.range r.gets.length := by
    intro i waits
    obtain ⟨g, hg, -⟩ := h.listens i (List.mem_append_left _ waits)
    exact List.mem_range.2 (List.getElem?_eq_some_iff.1 hg).1
  have distinct := (List.nodup_append.1 h.wakeups.nodup).1
  simpa using List.Nodup.length_le_of_subset distinct within

/-- One of those who want a key has taken a step. -/
theorem work_turn (h : r.Sound) (h' : r'.Sound) (was : r.gets[i]? = some g)
    (gets : r'.gets = r.gets.set i g') (owed : r'.owed = r.owed) (closing : r'.closing = r.closing)
    (less : 3 * r'.wakeups.permits + g'.effort + 3 * r.wakeups.waiting.length <
      3 * r.wakeups.permits + g.effort + 3 * r'.wakeups.waiting.length) : r'.work < r.work := by
  have total := sum_map_set Get.effort was g'
  have most := h.waiting_length_le
  have most' := h'.waiting_length_le
  rw [gets, List.length_set] at most'
  simp only [work, gets, owed, closing, List.length_set]
  omega

theorem look_frame (r : WaitingRoom) (i : Nat) : ∃ g' : Get, g'.effort = 4 ∧
    (r.look i).gets = r.gets.set i g' ∧ (r.look i).wakeups = r.wakeups ∧
      (r.look i).owed = r.owed ∧ (r.look i).closing = r.closing := by
  unfold look
  split
  · exact ⟨_, rfl, rfl, rfl, rfl, rfl⟩
  · split <;> exact ⟨_, rfl, rfl, rfl, rfl, rfl⟩

/-- Every step that waits for nothing leaves less to do. -/
theorem Sound.own_step (h : r.Sound) (own : a.isOwn) (s : r.step rule a = some r') :
    r'.work < r.work := by
  have h' := h.step s
  cases a with
  | notify =>
    obtain ⟨owed, he⟩ := Option.ite_none_right_eq_some.1 s
    cases he
    have progress := rule.wake_progress r.wakeups
    have most := h.waiting_length_le
    have most' := h'.waiting_length_le
    simp only [work] at most' ⊢
    omega
  | announce =>
    obtain ⟨closing, he⟩ := Option.ite_none_right_eq_some.1 s
    cases he
    obtain ⟨c, hc⟩ := Nat.exists_eq_succ_of_ne_zero (Nat.ne_of_gt closing)
    have most := h.waiting_length_le
    have kept : r.wakeups.wakeAll.permits = r.wakeups.permits := rfl
    have none : r.wakeups.wakeAll.waiting.length = 0 := rfl
    simp only [work, hc, kept, none, Nat.succ_mul, Nat.succ_sub_one]
    omega
  | listen i =>
    obtain ⟨was, he⟩ := Option.ite_none_right_eq_some.1 s
    cases he
    have progress := r.wakeups.listen_progress i
    refine work_turn h h' was rfl rfl rfl ?_
    simp only [setGet, Get.effort]
    omega
  | look i =>
    obtain ⟨was, he⟩ := Option.ite_none_right_eq_some.1 s
    cases he
    obtain ⟨g', effort, gets, wakeups, owed, closing⟩ := r.look_frame i
    refine work_turn h h' was gets owed closing ?_
    rw [wakeups, effort]
    simp only [Get.effort]
    omega
  | wake i =>
    obtain ⟨⟨was, called⟩, he⟩ := Option.ite_none_right_eq_some.1 s
    cases he
    have kept : (r.wakeups.consume i).permits = r.wakeups.permits := rfl
    have line : (r.wakeups.consume i).waiting = r.wakeups.waiting := rfl
    refine work_turn h h' was rfl rfl rfl ?_
    simp only [setGet, Get.effort, kept, line]
    omega
  | leave i =>
    simp only [WaitingRoom.step] at s
    split at s
    · next key was =>
      cases s
      have progress := rule.leave_progress h.wakeups i
      refine work_turn h h' was rfl rfl rfl ?_
      simp only [setGet, Get.effort]
      omega
    · cases s
  | _ => cases own

theorem Sound.own_run (h : r.Sound) (own : ∀ a ∈ actions, a.isOwn)
    (ran : r.run rule actions = some r') : actions.length + r'.work ≤ r.work :=
  (stepwise rule).length_le (fun own h s => ⟨h.step s, h.own_step own s⟩) own h ran

theorem Sound.exists_quiescent (h : r.Sound) : ∃ own r', (∀ a ∈ own, a.isOwn) ∧
    r.run rule own = some r' ∧ r'.Quiescent rule :=
  (stepwise rule).comes_to_rest (fun own h s => ⟨h.step s, h.own_step own s⟩) h

/-! ## At rest -/

/-- Whoever has nothing to do but to wait sleeps in line. -/
theorem Quiescent.pending (quiet : r.Quiescent rule) (hg : r.gets[i]? = some g)
    (pending : g.isPending) : g = .asleep ∧ i ∈ r.wakeups.waiting := by
  cases g with
  | ready => simpa [step, hg] using quiet (.listen i) rfl
  | listening => simpa [step, hg] using quiet (.look i) rfl
  | leaving key => simpa [step, hg] using quiet (.leave i) rfl
  | asleep =>
    refine ⟨rfl, Decidable.of_not_not fun called => ?_⟩
    simpa [step, hg, called] using quiet (.wake i) rfl
  | ended key | dropped => cases pending

theorem Quiescent.owed (quiet : r.Quiescent rule) : r.owed = 0 := by
  refine Nat.eq_zero_of_not_pos fun owed => ?_
  simpa [step, owed] using quiet .notify rfl

theorem Quiescent.closing (quiet : r.Quiescent rule) : r.closing = 0 := by
  refine Nat.eq_zero_of_not_pos fun closing => ?_
  simpa [step, closing] using quiet .announce rfl

/-- Everyone has gone as far as possible exactly if no wake-up is still to be given and whoever is
pending sleeps in line. -/
theorem quiescent_iff : r.Quiescent rule ↔ r.owed = 0 ∧ r.closing = 0 ∧
    ∀ (i : Nat) g, r.gets[i]? = some g → g.isPending → g = .asleep ∧ i ∈ r.wakeups.waiting := by
  refine ⟨fun quiet => ⟨quiet.owed, quiet.closing, fun i g => quiet.pending⟩, ?_⟩
  rintro ⟨owed, closing, sleeps⟩ a own
  cases a with
  | notify => simp [step, owed]
  | announce => simp [step, closing]
  | listen i =>
    refine if_neg fun was => ?_
    cases (sleeps i _ was rfl).1
  | look i =>
    refine if_neg fun was => ?_
    cases (sleeps i _ was rfl).1
  | wake i => exact if_neg fun was => was.2 (sleeps i _ was.1 rfl).2
  | leave i =>
    simp only [step]
    split
    · next key was => cases (sleeps i _ was rfl).1
    · rfl
  | _ => cases own

theorem Quiescent.looks (quiet : r.Quiescent rule) : r.looks = 0 := by
  refine List.sum_eq_zero_iff_forall_eq_nat.2 fun n hn => ?_
  obtain ⟨g, hg, rfl⟩ := List.mem_map.1 hn
  obtain ⟨i, hi⟩ := List.mem_iff_getElem?.1 hg
  by_cases pending : g.isPending
  · rw [(quiet.pending hi pending).1]
    rfl
  · cases g <;> simp_all [Get.isPending, Get.looks]

theorem Sound.woken_of_quiescent (h : r.Sound) (quiet : r.Quiescent rule) :
    r.wakeups.woken = [] := by
  refine List.eq_nil_iff_forall_not_mem.2 fun i woken => ?_
  obtain ⟨g, hg, listens⟩ := h.listens i (List.mem_append_right _ woken)
  have pending : g.isPending := by cases g <;> simp_all [Get.isPending, Get.listens]
  have waits := (quiet.pending hg pending).2
  exact (List.nodup_append.1 h.wakeups.nodup).2.2 i waits i woken rfl

/-- Nobody waits while there is a key to take, and nobody waits for a queue that is down. -/
theorem Sound.not_pending (h : r.Sound) (quiet : r.Quiescent rule)
    (due : r.queue.waiting ≠ [] ∨ r.queue.isDown) (hg : g ∈ r.gets) : g.isPending = false := by
  refine Bool.eq_false_iff.2 fun pending => ?_
  obtain ⟨i, hi⟩ := List.mem_iff_getElem?.1 hg
  obtain ⟨rfl, waits⟩ := quiet.pending hi pending
  cases down : r.queue.isDown with
  | true => exact h.closed down quiet.closing i waits hi
  | false =>
    have served := h.served down i waits hi
    rw [quiet.owed, quiet.looks, h.woken_of_quiescent quiet] at served
    have empty : r.queue.waiting = [] := List.length_eq_zero_iff.1 (Nat.le_zero.1 served)
    simp [empty, down] at due

/-! ## After the shutdown -/

/-- The key that somebody has got. -/
def got (r : WaitingRoom) (i : Nat) : Option String := r.gets[i]?.bind Get.key?

theorem got_set (was : r.gets[i]? = some g) (gets : r'.gets = r.gets.set i g')
    (same : g'.key? = g.key?) (j : Nat) : r'.got j = r.got j := by
  rw [got, got, gets, getElem?_set_of was]
  split
  · next he =>
    subst he
    rw [was]
    exact same
  · rfl

theorem got_come (r : WaitingRoom) (j : Nat) :
    { r with gets := r.gets ++ [Get.ready] }.got j = r.got j := by
  rw [got, got, List.getElem?_append]
  split
  · rfl
  · next beyond =>
    rw [List.getElem?_eq_none (Nat.le_of_not_lt beyond)]
    cases hj : j - r.gets.length <;> simp [Get.key?]

/-- Once the queue is down nobody gets a key any more. -/
theorem step_down (down : r.queue.isDown) (s : r.step rule a = some r') :
    r'.queue.isDown ∧ ∀ j, r'.got j = r.got j := by
  cases a with
  | add key =>
    cases s
    exact ⟨(WorkQueue.add_isDown _ _).trans down, fun _ => rfl⟩
  | done key =>
    cases s
    exact ⟨(WorkQueue.done_isDown _ _).trans down, fun _ => rfl⟩
  | fail key =>
    cases s
    unfold postpone
    dsimp only
    split
    · exact ⟨(WorkQueue.add_isDown _ _).trans down, fun _ => rfl⟩
    · exact ⟨down, fun _ => rfl⟩
  | forget key =>
    cases s
    exact ⟨down, fun _ => rfl⟩
  | shutDown =>
    cases s
    exact ⟨rfl, fun _ => rfl⟩
  | fire key =>
    obtain ⟨-, he⟩ := Option.ite_none_right_eq_some.1 s
    cases he
    exact ⟨(WorkQueue.add_isDown _ _).trans down, fun _ => rfl⟩
  | come =>
    cases s
    exact ⟨down, got_come r⟩
  | notify | announce =>
    obtain ⟨-, he⟩ := Option.ite_none_right_eq_some.1 s
    cases he
    exact ⟨down, fun _ => rfl⟩
  | drop i | listen i =>
    obtain ⟨was, he⟩ := Option.ite_none_right_eq_some.1 s
    cases he
    exact ⟨down, got_set was rfl rfl⟩
  | wake i =>
    obtain ⟨⟨was, -⟩, he⟩ := Option.ite_none_right_eq_some.1 s
    cases he
    exact ⟨down, got_set was rfl rfl⟩
  | look i =>
    obtain ⟨was, he⟩ := Option.ite_none_right_eq_some.1 s
    rw [look, if_pos down] at he
    cases he
    exact ⟨down, got_set was rfl rfl⟩
  | leave i =>
    simp only [WaitingRoom.step] at s
    split at s
    · next key was =>
      cases s
      exact ⟨down, got_set was rfl rfl⟩
    · cases s

theorem run_down (down : r.queue.isDown) (ran : r.run rule actions = some r') :
    r'.queue.isDown ∧ ∀ j, r'.got j = r.got j := by
  have keeps : ∀ {m m' : WaitingRoom} {a : Action},
      (m.queue.isDown ∧ ∀ j, m.got j = r.got j) → m.step rule a = some m' →
      m'.queue.isDown ∧ ∀ j, m'.got j = r.got j := by
    rintro m m' a ⟨down, same⟩ s
    obtain ⟨later, kept⟩ := step_down down s
    exact ⟨later, fun j => (kept j).trans (same j)⟩
  exact (stepwise rule).keeps keeps ⟨down, fun _ => rfl⟩ ran

/-! ## The whole room -/

/-- Whatever is done to the queue, in whatever order and whoever is woken, all tasks come to rest,
and then nobody waits while there is a key to take. Once the queue is down all who want a key have
been sent away at rest, those who come later too, except for the ones who had got a key before. -/
theorem no_wakeup_lost {base max : Duration} (ran : (opened base max).run rule actions = some r) :
    (∃ own r', (∀ a ∈ own, a.isOwn) ∧ r.run rule own = some r' ∧ r'.Quiescent rule) ∧
    (∀ own r', (∀ a ∈ own, a.isOwn) → r.run rule own = some r' → own.length ≤ r.work) ∧
    (r.Quiescent rule → r.queue.waiting ≠ [] ∨ r.queue.isDown → ∀ g ∈ r.gets, g.isPending = false) ∧
    (r.queue.isDown → ∀ more r', r.run rule more = some r' → r'.Quiescent rule →
      ∀ (i : Nat) g, r'.gets[i]? = some g →
        g = .ended none ∨ g = .dropped ∨ ∃ key, g = .ended (some key) ∧ r.got i = some key) := by
  have sound := (sound_opened base max).run ran
  refine ⟨sound.exists_quiescent, fun own r' mine rest => ?_, fun quiet due g hg => ?_,
    fun down more r' later quiet i g hg => ?_⟩
  · have bound := sound.own_run mine rest
    omega
  · exact sound.not_pending quiet due hg
  · obtain ⟨down', same⟩ := run_down down later
    have stuck := (sound.run later).not_pending quiet (Or.inr down') (List.mem_of_getElem? hg)
    have got : r.got i = g.key? := by
      rw [← same i, WaitingRoom.got, hg]
      rfl
    cases g with
    | dropped => exact Or.inr (Or.inl rfl)
    | ended outcome =>
      cases outcome with
      | none => exact Or.inl rfl
      | some key => exact Or.inr (Or.inr ⟨key, rfl, got⟩)
    | _ => cases stuck

/-- One is woken and dropped, so that the next in line is woken. The second key comes when nobody is
in line; its wake-up is kept, and used up by one who finds the first key. -/
def passedOn : List Action :=
  [.come, .listen 0, .look 0, .come, .listen 1, .look 1, .add "demo/a", .notify, .drop 0,
    .add "demo/b", .notify, .wake 1, .listen 1, .look 1, .leave 1]

theorem passedOn_served : ∃ r,
    (opened (.ofMillis 5) (.ofSeconds 1000)).run .longest passedOn = some r ∧
    r.Quiescent .longest ∧ r.queue.waiting = ["demo/b"] ∧ ∀ g ∈ r.gets, g.isPending = false := by
  obtain ⟨r, ran⟩ : ∃ r, (opened (.ofMillis 5) (.ofSeconds 1000)).run .longest passedOn = some r :=
    ⟨_, rfl⟩
  have found : ((opened (.ofMillis 5) (.ofSeconds 1000)).run .longest passedOn).map
      (fun r => (r.gets, r.owed, r.closing, r.queue.waiting)) =
      some ([.dropped, .ended (some "demo/a")], 0, 0, ["demo/b"]) := rfl
  rw [ran] at found
  simp only [Option.map_some, Option.some.injEq, Prod.mk.injEq] at found
  obtain ⟨gets, owed, closing, waiting⟩ := found
  have left : ∀ (i : Nat) g, r.gets[i]? = some g → g = .dropped ∨ g = .ended (some "demo/a") := by
    intro i g hg
    simpa [gets] using List.mem_of_getElem? hg
  have quiet : r.Quiescent .longest := by
    refine quiescent_iff.2 ⟨owed, closing, fun i g hg pending => ?_⟩
    rcases left i g hg with rfl | rfl <;> cases pending
  exact ⟨r, ran, quiet, waiting, (no_wakeup_lost ran).2.2.1 quiet (Or.inl (by simp [waiting]))⟩

end WaitingRoom
end RoleOperator
