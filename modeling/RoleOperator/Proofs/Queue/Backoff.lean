import Mathlib.Data.List.Induction
import RoleOperator.Dispatch.Dispatcher
import RoleOperator.Proofs.Queue.Service
import RoleOperator.Proofs.Stepwise

/-!
# Backoff

A work queue with its users, its timers and a clock. The delay of a key that fails is told by how often
that key has failed since it was last forgotten, and by nothing else. Time passes only up to the next
timer, so a key is back on the queue exactly when its delay is over, or after thirty years if it is
longer.
-/
namespace RoleOperator

namespace WorkQueue

variable {base top : Duration} {m n : Nat} {q q' : WorkQueue} {key : String}

/-! ## Delays -/

theorem nanos_min (a b : Duration) : (a.min b).nanos = min a.nanos b.nanos := by
  unfold Duration.min
  split <;> omega

/-- The delay after `n` failures. Nothing is lost of the product but what the longest delay cuts off. -/
theorem backoff_nanos (base top : Duration) (n : Nat) : (backoff base top n).nanos =
    min top.nanos (base.nanos * min (2 ^ n) (2 ^ 32 - 1)) := by
  have product : (base.times (min (2 ^ n) (2 ^ 32 - 1))).nanos =
      min (base.nanos * min (2 ^ n) (2 ^ 32 - 1)) Duration.maxNanos := rfl
  have cut : (backoff base top n).nanos =
      min (base.times (min (2 ^ n) (2 ^ 32 - 1))).nanos top.nanos := nanos_min _ _
  have fits := top.nanos_le
  rw [cut, product]
  omega

/-- As long as the doubling has not stopped, or if it does not matter that it has. -/
theorem backoff_doubles (h : n < 32 ∨ top.nanos ≤ base.nanos * (2 ^ 32 - 1)) :
    (backoff base top n).nanos = min top.nanos (base.nanos * 2 ^ n) := by
  rw [backoff_nanos]
  rcases Nat.lt_or_ge (2 ^ 32 - 1) (2 ^ n) with stopped | doubling
  · have far : ¬ n < 32 := by
      intro few
      have below : 2 ^ n ≤ 2 ^ 31 := Nat.pow_le_pow_right Nat.two_pos (by omega)
      omega
    have capped := h.resolve_left far
    have more := Nat.mul_le_mul_left base.nanos (Nat.le_of_lt stopped)
    rw [Nat.min_eq_right (Nat.le_of_lt stopped)]
    omega
  · rw [Nat.min_eq_left doubling]

theorem backoff_le (base top : Duration) (n : Nat) : (backoff base top n).nanos ≤ top.nanos := by
  rw [backoff_nanos]
  exact Nat.min_le_left _ _

theorem le_backoff (base top : Duration) (n : Nat) :
    min base.nanos top.nanos ≤ (backoff base top n).nanos := by
  have factor : 1 ≤ min (2 ^ n) (2 ^ 32 - 1) := Nat.le_min.2 ⟨Nat.one_le_two_pow, by decide⟩
  have grown := Nat.le_mul_of_pos_right base.nanos factor
  rw [backoff_nanos]
  omega

theorem backoff_mono (h : m ≤ n) : (backoff base top m).nanos ≤ (backoff base top n).nanos := by
  have factor : min (2 ^ m) (2 ^ 32 - 1) ≤ min (2 ^ n) (2 ^ 32 - 1) := by
    have power : 2 ^ m ≤ 2 ^ n := Nat.pow_le_pow_right Nat.two_pos h
    omega
  have grown := Nat.mul_le_mul_left base.nanos factor
  rw [backoff_nanos, backoff_nanos]
  omega

/-- What the delays follow from. -/
def ledger (q : WorkQueue) : Duration × Duration × List (String × Nat) :=
  (q.baseDelay, q.maxDelay, q.failures)

theorem ledger_add (q : WorkQueue) (key : String) : (q.add key).2.ledger = q.ledger := by
  rw [add_frame]
  rfl

theorem ledger_done (q : WorkQueue) (key : String) : (q.done key).2.ledger = q.ledger := by
  rw [done_frame]
  rfl

theorem ledger_take (h : q.take? = some (key, q')) : q'.ledger = q.ledger := by
  obtain ⟨-, rest, -, rfl⟩ := take?_eq_some h
  rfl

theorem requeues_of_ledger (same : q'.ledger = q.ledger) : q'.requeues key = q.requeues key := by
  have failures : q'.failures = q.failures := congrArg (·.2.2) same
  rw [requeues, requeues, failures]

end WorkQueue

/-- A work queue, its timers and the time in nanoseconds. -/
structure Agenda where
  queue : WorkQueue
  now : Nat := 0
  retries : List Retry := []

namespace Agenda

inductive Action where
  | add (key : String)
  | get
  | done (key : String)
  | fail (key : String)
  | forget (key : String)
  | shutDown
  | ring (retry : Retry)
  | pass (nanos : Nat)
  deriving DecidableEq

def opened (base top : Duration) : Agenda := { queue := { baseDelay := base, maxDelay := top } }

def enter (s : Agenda) (key : String) : Agenda := { s with queue := (s.queue.add key).2 }

/-- How long the key stays away if it fails now. -/
def delay (s : Agenda) (key : String) : Duration := (s.queue.fail key).1

/-- The timer that brings the key back if it fails now. -/
def timer (s : Agenda) (key : String) : Retry :=
  ⟨Duration.endOfWait s.now (s.delay key).nanos, key⟩

/-- Count a failure. Without a delay the key is added at once, else a timer will do that. -/
def postpone (s : Agenda) (key : String) : Agenda :=
  let failed := { s with queue := (s.queue.fail key).2 }
  if (s.delay key).isZero then failed.enter key
  else { failed with retries := s.retries ++ [s.timer key] }

/-- A key is given back only by someone who holds it. A timer rings when it is due, and time does not
pass over one that is. -/
def step (s : Agenda) : Action → Option Agenda
  | .add key => some (s.enter key)
  | .get => some { s with queue := (s.queue.take?.map (·.2)).getD s.queue }
  | .done key =>
    if key ∈ s.queue.processing then some { s with queue := (s.queue.done key).2 } else none
  | .fail key => some (s.postpone key)
  | .forget key => some { s with queue := s.queue.forget key }
  | .shutDown => some { s with queue := s.queue.shutDown }
  | .ring r =>
    if r ∈ s.retries ∧ r.due ≤ s.now then
      some ({ s with retries := s.retries.erase r }.enter r.key)
    else none
  | .pass nanos =>
    if ∀ r ∈ s.retries, s.now + nanos ≤ r.due then some { s with now := s.now + nanos } else none

def run (s : Agenda) : List Action → Option Agenda
  | [] => some s
  | a :: rest => (s.step a).bind fun s => s.run rest

theorem stepwise : Stepwise Agenda.step Agenda.run := ⟨fun _ => rfl, fun _ _ _ => rfl⟩

variable {base top : Duration} {s s' u : Agenda} {a : Action} {actions more : List Action}
  {k : String} {r : Retry}

/-! ## Counting failures -/

/-- How often the key has failed since it was last forgotten. -/
def failures (k : String) (actions : List Action) : Nat :=
  (actions.reverse.takeWhile (· ≠ .forget k)).count (.fail k)

/-- What a key's failures are counted by. -/
def about (k : String) : Action → Bool
  | .fail key | .forget key => key = k
  | _ => false

theorem failures_snoc (k : String) (actions : List Action) (a : Action) :
    failures k (actions ++ [a]) =
      if a = .forget k then 0 else failures k actions + if a = .fail k then 1 else 0 := by
  simp only [failures, List.reverse_append, List.reverse_singleton, List.singleton_append,
    List.takeWhile_cons]
  by_cases forgotten : a = .forget k
  · simp [forgotten]
  · simp [forgotten, List.count_cons]

/-- The failures of other keys do not count. -/
theorem failures_filter (k : String) (actions : List Action) :
    failures k (actions.filter (about k)) = failures k actions := by
  induction actions using List.reverseRecOn with
  | nil => rfl
  | append_singleton actions a ih =>
    rw [List.filter_append, failures_snoc, ← ih]
    cases own : about k a with
    | true => rw [List.filter_cons_of_pos own, List.filter_nil, failures_snoc]
    | false =>
      have other : a ≠ .forget k ∧ a ≠ .fail k := by
        constructor <;> rintro rfl <;> simp [about] at own
      rw [List.filter_cons_of_neg (by simp [own]), List.filter_nil, List.append_nil,
        if_neg other.1, if_neg other.2, Nat.add_zero]

theorem failures_append (kept : .forget k ∉ more) :
    failures k (actions ++ more) = failures k actions + more.count (.fail k) := by
  induction more using List.reverseRecOn with
  | nil => simp
  | append_singleton more a ih =>
    simp only [List.mem_append, List.mem_singleton, not_or] at kept
    rw [← List.append_assoc, failures_snoc, if_neg (Ne.symm kept.2), ih kept.1, List.count_append,
      Nat.add_assoc]
    simp [List.count_singleton]

/-- What a step writes down about failures. -/
def booked (q : WorkQueue) : Action → WorkQueue
  | .fail key => (q.fail key).2
  | .forget key => q.forget key
  | _ => q

/-- Nothing else that a step does concerns the delays. -/
theorem ledger_of_step (hs : s.step a = some s') :
    s'.queue.ledger = (booked s.queue a).ledger := by
  cases a with
  | add key =>
    cases hs
    exact WorkQueue.ledger_add s.queue key
  | get =>
    cases hs
    cases taken : s.queue.take? with
    | none => rfl
    | some t => exact WorkQueue.ledger_take taken
  | done key =>
    obtain ⟨-, he⟩ := Option.ite_none_right_eq_some.1 hs
    cases he
    exact WorkQueue.ledger_done s.queue key
  | fail key =>
    cases hs
    unfold postpone
    dsimp only
    split
    · exact WorkQueue.ledger_add _ key
    · rfl
  | forget key | shutDown =>
    cases hs
    rfl
  | ring r =>
    obtain ⟨-, he⟩ := Option.ite_none_right_eq_some.1 hs
    cases he
    exact WorkQueue.ledger_add s.queue r.key
  | pass nanos =>
    obtain ⟨-, he⟩ := Option.ite_none_right_eq_some.1 hs
    cases he
    rfl

theorem requeues_step (hs : s.step a = some s') : s'.queue.requeues k =
    if a = .forget k then 0 else s.queue.requeues k + if a = .fail k then 1 else 0 := by
  have counted : s'.queue.requeues k = (booked s.queue a).requeues k :=
    WorkQueue.requeues_of_ledger (ledger_of_step hs)
  rw [counted]
  cases a with
  | fail key =>
    rw [booked, WorkQueue.requeues_fail]
    by_cases he : k = key
    · subst he
      simp
    · simp [he, Ne.symm he]
  | forget key =>
    rw [booked, WorkQueue.requeues_forget]
    by_cases he : k = key
    · rw [if_pos he, if_pos (by rw [he])]
    · rw [if_neg he, if_neg (by simpa using Ne.symm he), if_neg (by simp), Nat.add_zero]
  | add key | get | done key | shutDown | ring r | pass nanos => rfl

theorem requeues_run (told : (opened base top).run actions = some s) :
    s.queue.requeues k = failures k actions := by
  induction actions using List.reverseRecOn generalizing s with
  | nil =>
    cases told
    rfl
  | append_singleton actions a ih =>
    obtain ⟨m, before, last⟩ := stepwise.append_iff.1 told
    obtain ⟨s', hs, rfl⟩ : ∃ s', m.step a = some s' ∧ s' = s := by
      simpa [run, Option.bind_eq_some_iff] using last
    rw [requeues_step hs, ih before, failures_snoc]

/-- Base and longest delay are never changed. -/
theorem delays_step (hs : s.step a = some s') :
    s'.queue.baseDelay = s.queue.baseDelay ∧ s'.queue.maxDelay = s.queue.maxDelay := by
  have kept : (booked s.queue a).baseDelay = s.queue.baseDelay ∧
      (booked s.queue a).maxDelay = s.queue.maxDelay := by
    cases a <;> exact ⟨rfl, rfl⟩
  obtain ⟨base, rest⟩ := Prod.mk.inj (ledger_of_step hs)
  exact ⟨base.trans kept.1, (Prod.mk.inj rest).1.trans kept.2⟩

/-- The failures since the key was forgotten tell the delay. -/
theorem delay_eq (told : (opened base top).run actions = some s) (k : String) :
    s.delay k = WorkQueue.backoff base top (failures k actions) := by
  have fixed : s.queue.baseDelay = base ∧ s.queue.maxDelay = top :=
    stepwise.keeps (P := fun s => s.queue.baseDelay = base ∧ s.queue.maxDelay = top)
      (fun kept hs => ⟨(delays_step hs).1.trans kept.1, (delays_step hs).2.trans kept.2⟩)
      ⟨rfl, rfl⟩ told
  rw [delay, WorkQueue.fail, fixed.1, fixed.2, requeues_run told]

/-! ## Timers -/

/-- No timer is overdue. -/
def Timely (s : Agenda) : Prop := ∀ r ∈ s.retries, s.now ≤ r.due

/-- A step lets time pass, ends a timer that rings, or starts one for a key that fails. -/
theorem timers_of_step (hs : s.step a = some s') :
    (∃ nanos, a = .pass nanos ∧ s'.now = s.now + nanos ∧ s'.retries = s.retries ∧
      ∀ r ∈ s.retries, s.now + nanos ≤ r.due) ∨
    s'.now = s.now ∧ ((∃ r, a = .ring r ∧ s'.retries = s.retries.erase r) ∨
      (∃ key, a = .fail key ∧ s'.retries = s.retries ++ [s.timer key]) ∨
      s'.retries = s.retries) := by
  cases a with
  | add key | get | forget key | shutDown =>
    cases hs
    exact Or.inr ⟨rfl, Or.inr (Or.inr rfl)⟩
  | done key =>
    obtain ⟨-, he⟩ := Option.ite_none_right_eq_some.1 hs
    cases he
    exact Or.inr ⟨rfl, Or.inr (Or.inr rfl)⟩
  | fail key =>
    cases hs
    unfold postpone
    dsimp only
    split
    · exact Or.inr ⟨rfl, Or.inr (Or.inr rfl)⟩
    · exact Or.inr ⟨rfl, Or.inr (Or.inl ⟨key, rfl, rfl⟩)⟩
  | ring r =>
    obtain ⟨-, he⟩ := Option.ite_none_right_eq_some.1 hs
    cases he
    exact Or.inr ⟨rfl, Or.inl ⟨r, rfl, rfl⟩⟩
  | pass nanos =>
    obtain ⟨may, he⟩ := Option.ite_none_right_eq_some.1 hs
    cases he
    exact Or.inl ⟨nanos, rfl, rfl, rfl, may⟩

theorem Timely.step (h : s.Timely) (hs : s.step a = some s') : s'.Timely := by
  intro r hr
  rcases timers_of_step hs with ⟨nanos, -, now, same, may⟩ |
    ⟨now, ⟨rung, -, fewer⟩ | ⟨key, -, more⟩ | same⟩
  · rw [now]
    exact may r (same ▸ hr)
  · rw [now]
    rw [fewer] at hr
    exact h r (List.mem_of_mem_erase hr)
  · rw [now]
    rw [more] at hr
    rcases List.mem_append.1 hr with hr | hr
    · exact h r hr
    · rw [List.mem_singleton.1 hr]
      exact Duration.le_endOfWait _ _
  · rw [now]
    exact h r (same ▸ hr)

/-- A timer that has not rung is still there. -/
theorem mem_retries_step (pending : r ∈ s.retries) (hs : s.step a = some s') (quiet : a ≠ .ring r) :
    r ∈ s'.retries := by
  rcases timers_of_step hs with ⟨nanos, -, -, same, -⟩ |
    ⟨-, ⟨rung, rings, fewer⟩ | ⟨key, -, more⟩ | same⟩
  · exact same ▸ pending
  · rw [fewer]
    exact (List.mem_erase_of_ne fun he => quiet (by rw [rings, he])).2 pending
  · rw [more]
    exact List.mem_append_left _ pending
  · exact same ▸ pending

/-- A timer rings when it is due, neither earlier nor later. -/
theorem pending_or_rung (h : s.Timely) (pending : r ∈ s.retries) (told : s.run more = some u) :
    r ∈ u.retries ∧ u.Timely ∨
      ∃ first last m m', more = first ++ .ring r :: last ∧ s.run first = some m ∧ m.now = r.due ∧
        m.step (.ring r) = some m' := by
  have course := stepwise.keeps_until (P := fun s => r ∈ s.retries ∧ s.Timely)
    (fun quiet kept hs => ⟨mem_retries_step kept.1 hs quiet, kept.2.step hs⟩) ⟨pending, h⟩ told
  rcases course with kept | ⟨first, last, m, m', he, run, kept, rings⟩
  · exact Or.inl kept
  · obtain ⟨⟨-, due⟩, -⟩ := Option.ite_none_right_eq_some.1 rings
    exact Or.inr ⟨first, last, m, m', he, run, Nat.le_antisymm (kept.2 r kept.1) due, rings⟩

/-- What the timers and the clock do by themselves. -/
def own : Action → Bool
  | .ring _ | .pass _ => true
  | _ => false

/-- Time can go on until the timer rings, the others ringing before it. -/
theorem comes_to_ring (h : s.Timely) (pending : r ∈ s.retries) :
    ∃ waits m m', (∀ a ∈ waits, own a) ∧ s.run waits = some m ∧ m.now = r.due ∧
      m.step (.ring r) = some m' := by
  obtain ⟨waits, m, mine, told, now, still⟩ : ∃ waits m, (∀ a ∈ waits, own a) ∧
      s.run waits = some m ∧ m.now = r.due ∧ r ∈ m.retries := by
    refine stepwise.reaches (P := fun s => s.Timely ∧ r ∈ s.retries)
      (fun s => s.retries.countP (·.due < r.due) + (r.due - s.now)) (fun {s} kept => ?_)
      ⟨h, pending⟩
    obtain ⟨timely, pending⟩ := kept
    by_cases now : s.now = r.due
    · exact Or.inl ⟨now, pending⟩
    refine Or.inr ?_
    have early := timely r pending
    by_cases others : ∃ e ∈ s.retries, e.due = s.now
    · obtain ⟨e, he, due⟩ := others
      have rings : s.step (.ring e) = some _ := if_pos ⟨he, Nat.le_of_eq due⟩
      have other : Action.ring e ≠ .ring r := by
        rintro ⟨⟩
        exact now due.symm
      refine ⟨.ring e, _, rfl, rings, ⟨timely.step rings, mem_retries_step pending rings other⟩, ?_⟩
      have fewer : (s.retries.erase e).countP (·.due < r.due) < s.retries.countP (·.due < r.due) := by
        have parts := (List.perm_cons_erase he).countP_eq (·.due < r.due)
        rw [List.countP_cons_of_pos (by simp; omega)] at parts
        omega
      exact Nat.add_lt_add_right fewer _
    · have passes : s.step (.pass 1) = some _ := if_pos fun e he => by
        have due := timely e he
        have later : e.due ≠ s.now := fun same => others ⟨e, he, same⟩
        omega
      refine ⟨.pass 1, _, rfl, passes, ⟨timely.step passes, pending⟩, ?_⟩
      exact Nat.add_lt_add_left (by dsimp only; omega) _
  have rings : m.step (.ring r) = some _ := if_pos ⟨still, Nat.le_of_eq now.symm⟩
  exact ⟨waits, m, _, mine, told, now, rings⟩

/-! ## Back on the queue -/

theorem change_of_step (hs : s.step a = some s') : ∃ news, Service.Change s.queue s'.queue news ∧
    ∀ key, .released key ∈ news → a = .done key := by
  have none : ∀ key, .released key ∉ ([] : List Service.Happening) := fun _ => List.not_mem_nil
  cases a with
  | add key =>
    cases hs
    exact ⟨_, .enter rfl rfl rfl rfl rfl, fun k h => absurd h (Service.not_released_entry _ key k)⟩
  | get =>
    cases hs
    cases taken : s.queue.take? with
    | none => exact ⟨[], .keep rfl rfl rfl rfl, fun k h => absurd h (none k)⟩
    | some t => exact ⟨[.taken t.1], .take taken, fun k h => by simp at h⟩
  | done key =>
    obtain ⟨held, he⟩ := Option.ite_none_right_eq_some.1 hs
    cases he
    exact ⟨_, .release held rfl, fun k h => by rw [Service.released_handback h]⟩
  | fail key =>
    cases hs
    unfold postpone
    dsimp only
    split
    · exact ⟨_, .enter (p := (s.queue.fail key).2) rfl rfl rfl rfl rfl,
        fun k h => absurd h (Service.not_released_entry _ key k)⟩
    · exact ⟨[], .keep rfl rfl rfl rfl, fun k h => absurd h (none k)⟩
  | forget key =>
    cases hs
    exact ⟨[], .keep rfl rfl rfl rfl, fun k h => absurd h (none k)⟩
  | shutDown =>
    cases hs
    exact ⟨[], .close rfl, fun k h => absurd h (none k)⟩
  | ring r =>
    obtain ⟨-, he⟩ := Option.ite_none_right_eq_some.1 hs
    cases he
    exact ⟨_, .enter rfl rfl rfl rfl rfl, fun k h => absurd h (Service.not_released_entry _ r.key k)⟩
  | pass nanos =>
    obtain ⟨-, he⟩ := Option.ite_none_right_eq_some.1 hs
    cases he
    exact ⟨[], .keep rfl rfl rfl rfl, fun k h => absurd h (none k)⟩

theorem sound_step (h : s.queue.Sound) (hs : s.step a = some s') : s'.queue.Sound := by
  obtain ⟨news, change, -⟩ := change_of_step hs
  exact change.sound h

/-- The key is held, and is to wait again when it is given back. -/
structure Parked (k : String) (s : Agenda) : Prop where
  sound : s.queue.Sound
  held : k ∈ s.queue.processing
  dirty : k ∈ s.queue.dirty

theorem Parked.step (h : s.Parked k) (kept : a ≠ .done k) (hs : s.step a = some s') :
    s'.Parked k := by
  obtain ⟨news, change, released⟩ := change_of_step hs
  obtain ⟨held, untaken⟩ := change.held h.sound h.held fun gone => kept (released k gone)
  exact ⟨change.sound h.sound, held, change.dirty_of_untaken h.dirty untaken⟩

/-- What becomes of a key that is added, in the step from `m` to `m'`. -/
structure Enters (k : String) (m m' : Agenda) : Prop where
  moot : m.queue.isDown ∨ k ∈ m.queue.waiting → m'.queue.waiting = m.queue.waiting
  queued : m.queue.isDown = false → k ∉ m.queue.waiting → k ∉ m.queue.processing →
    m'.queue.waiting = m.queue.waiting ++ [k]
  /-- A held key waits from the time on at which it is given back. -/
  parked : m.queue.isDown = false → k ∈ m.queue.processing →
    m'.queue.waiting = m.queue.waiting ∧
    ∀ rest u, m'.run rest = some u →
      (k ∈ u.queue.processing ∧ k ∉ u.queue.waiting ∧ ∃ u', u.step (.done k) = some u') ∨
        ∃ first last v v', rest = first ++ .done k :: last ∧ m'.run first = some v ∧
          v.step (.done k) = some v' ∧
          (v.queue.isDown = false → v'.queue.waiting = v.queue.waiting ++ [k])

theorem enters_of_add {m m' : Agenda} {q : WorkQueue} (sound : m.queue.Sound)
    (waiting : q.waiting = m.queue.waiting) (dirty : q.dirty = m.queue.dirty)
    (processing : q.processing = m.queue.processing) (isDown : q.isDown = m.queue.isDown)
    (added : m'.queue = (q.add k).2) : Enters k m m' := by
  have line := WorkQueue.add_waiting q k
  rw [← added, waiting, dirty, processing, isDown] at line
  have sound' : m'.queue.Sound := by
    rw [added]
    exact (sound.of_eq waiting dirty processing isDown).add k
  refine ⟨fun moot => ?_, fun up new free => ?_, fun up held => ?_⟩
  · rw [line, if_neg]
    rintro ⟨up, fresh, -⟩
    rcases moot with down | waits
    · simp [up] at down
    · exact fresh (sound.dirty_of_waiting k waits)
  · have unmarked : k ∉ m.queue.dirty := fun marked =>
      (sound.placed_of_dirty up k marked).elim new free
    rw [line, if_pos ⟨up, unmarked, free⟩]
  · have parked : m'.Parked k := by
      refine ⟨sound', ?_, ?_⟩
      · rw [added, WorkQueue.add_processing, processing]
        exact held
      · rw [added, WorkQueue.mem_dirty_add, isDown]
        exact Or.inr ⟨rfl, up⟩
    refine ⟨by rw [line, if_neg (by simp [held])], fun rest u told => ?_⟩
    rcases stepwise.keeps_until (fun kept h hs => Parked.step h kept hs) parked told with
      still | ⟨first, last, v, v', he, run, parked, given⟩
    · refine Or.inl ⟨still.held, fun waits => ?_, _, if_pos still.held⟩
      exact still.sound.idle_of_waiting k waits still.held
    · refine Or.inr ⟨first, last, v, v', he, run, given, fun up => ?_⟩
      obtain ⟨-, he⟩ := Option.ite_none_right_eq_some.1 given
      cases he
      exact (WorkQueue.done_waiting v.queue k).trans (if_pos ⟨parked.dirty, up⟩)

theorem ring_enters (sound : s.queue.Sound) (rings : s.step (.ring r) = some s') :
    Enters r.key s s' := by
  obtain ⟨-, he⟩ := Option.ite_none_right_eq_some.1 rings
  cases he
  exact enters_of_add sound rfl rfl rfl rfl rfl

/-! ## The law -/

/-- What the delay is after `n` failures. -/
structure Delays (base top : Duration) (n : Nat) (delay : Duration) : Prop where
  doubles : n < 32 ∨ top.nanos ≤ base.nanos * (2 ^ 32 - 1) →
    delay.nanos = min top.nanos (base.nanos * 2 ^ n)
  exact : delay.nanos = min top.nanos (base.nanos * min (2 ^ n) (2 ^ 32 - 1))
  le_top : delay.nanos ≤ top.nanos
  base_le : min base.nanos top.nanos ≤ delay.nanos

theorem delays_backoff (base top : Duration) (n : Nat) :
    Delays base top n (WorkQueue.backoff base top n) :=
  ⟨WorkQueue.backoff_doubles, WorkQueue.backoff_nanos base top n, WorkQueue.backoff_le base top n,
    WorkQueue.le_backoff base top n⟩

/-- The failure of the key takes `s` to `s'`. Without a delay the key is added in that step; else it is
added when its timer rings, which happens when the delay is over. -/
structure Returns (k : String) (s s' : Agenda) : Prop where
  at_once : (s.delay k).isZero → Enters k s s'
  away : (s.delay k).isZero = false → s'.queue.waiting = s.queue.waiting ∧
    s'.queue.dirty = s.queue.dirty ∧ s'.queue.processing = s.queue.processing
  due : (s.delay k).nanos ≤ Duration.thirtyYears →
    (s.timer k).due = s.now + (s.delay k).nanos
  /-- The timer ends no wait later than this. -/
  cut : Duration.thirtyYears < (s.delay k).nanos →
    (s.timer k).due = s.now + Duration.thirtyYears
  back : (s.delay k).isZero = false → ∀ more u, s'.run more = some u →
    (u.now ≤ (s.timer k).due ∧ ∃ waits m m', (∀ a ∈ waits, own a) ∧ u.run waits = some m ∧
      m.now = (s.timer k).due ∧ m.step (.ring (s.timer k)) = some m' ∧ Enters k m m') ∨
    ∃ first last m m', more = first ++ .ring (s.timer k) :: last ∧ s'.run first = some m ∧
      m.now = (s.timer k).due ∧ m.step (.ring (s.timer k)) = some m' ∧ Enters k m m'

theorem sound_run (h : s.queue.Sound) (told : s.run actions = some s') : s'.queue.Sound :=
  stepwise.keeps (P := fun s => s.queue.Sound) sound_step h told

theorem postpone_returns (sound : s.queue.Sound) (timely : s.Timely) :
    s.Returns k (s.postpone k) where
  at_once zero := by
    have added : (s.postpone k).queue = ((s.queue.fail k).2.add k).2 := by
      rw [postpone, if_pos zero]
      rfl
    exact enters_of_add (q := (s.queue.fail k).2) sound rfl rfl rfl rfl added
  away delayed := by
    rw [postpone, if_neg (by simp [delayed])]
    exact ⟨rfl, rfl, rfl⟩
  due short := Duration.keeps_endOfWait s.now short
  cut long := congrArg (s.now + ·) (Nat.min_eq_right (Nat.le_of_lt long))
  back delayed more u told := by
    have fails : s.step (.fail k) = some (s.postpone k) := rfl
    have sound' := sound_step sound fails
    have pending : s.timer k ∈ (s.postpone k).retries := by
      rw [postpone, if_neg (by simp [delayed])]
      exact List.mem_append_right _ (List.mem_singleton.2 rfl)
    rcases pending_or_rung (timely.step fails) pending told with
      ⟨still, timely'⟩ | ⟨first, last, m, m', he, run, now, rings⟩
    · refine Or.inl ⟨timely' _ still, ?_⟩
      obtain ⟨waits, m, m', mine, run, now, rings⟩ := comes_to_ring timely' still
      have sound'' := sound_run (sound_run sound' told) run
      exact ⟨waits, m, m', mine, run, now, rings, ring_enters sound'' rings⟩
    · exact Or.inr ⟨first, last, m, m', he, run, now, rings, ring_enters (sound_run sound' run) rings⟩

/-- The delay of a failing key follows from its own failures since it was last forgotten. It doubles with
each of them up to the longest delay, and when it is over the key is back on the queue. -/
theorem comes_back_after_backoff (told : (opened base top).run actions = some s)
    (few : failures k actions < 2 ^ 32 - 1) :
    Delays base top (failures k actions) (s.delay k) ∧
    (∀ before mid t, actions = before ++ .fail k :: mid → .forget k ∉ mid →
      (opened base top).run before = some t → (t.delay k).nanos ≤ (s.delay k).nanos) ∧
    (∀ actions' t, (opened base top).run actions' = some t →
      actions'.filter (about k) = actions.filter (about k) → t.delay k = s.delay k) ∧
    ∃ s', s.step (.fail k) = some s' ∧ s'.queue.requeues k = failures k actions + 1 ∧
      failures k actions + 1 < 2 ^ 32 ∧ s.Returns k s' := by
  have timely : (opened base top).Timely := fun r hr => by cases hr
  have timely' := stepwise.keeps (P := Timely) Timely.step timely told
  have sound := sound_run (WorkQueue.sound_empty base top) told
  refine ⟨?_, fun before mid t split kept told' => ?_, fun actions' t told' same => ?_,
    s.postpone k, rfl, ?_, by omega, postpone_returns sound timely'⟩
  · rw [delay_eq told]
    exact delays_backoff base top _
  · have more : failures k before ≤ failures k actions := by
      rw [split, ← List.singleton_append, ← List.append_assoc, failures_append kept, failures_snoc,
        if_neg (by simp), if_pos rfl]
      omega
    rw [delay_eq told, delay_eq told']
    exact WorkQueue.backoff_mono more
  · rw [delay_eq told, delay_eq told', ← failures_filter, same, failures_filter]
  · have fails : s.step (.fail k) = some (s.postpone k) := rfl
    rw [requeues_step fails, if_neg (by simp), if_pos rfl, requeues_run told]

/-- A key that fails a second time while it is held. -/
theorem second_failure :
    let actions : List Action := [.add "a", .get, .fail "a", .done "a", .pass 10000000,
      .ring ⟨10000000, "a"⟩, .get]
    failures "a" actions < 2 ^ 32 - 1 ∧
    ∃ s s', (opened (.ofMillis 10) (.ofSeconds 1)).run actions = some s ∧
      s.step (.fail "a") = some s' ∧ (s.delay "a").nanos = 20000000 ∧ s.Returns "a" s' := by
  intro actions
  have few : failures "a" actions < 2 ^ 32 - 1 := by decide
  obtain ⟨s, told⟩ : ∃ s, (opened (.ofMillis 10) (.ofSeconds 1)).run actions = some s := ⟨_, rfl⟩
  obtain ⟨delays, -, -, s', fails, -, -, returns⟩ := comes_back_after_backoff told few
  refine ⟨few, s, s', told, fails, ?_, returns⟩
  have once : failures "a" actions = 1 := by decide
  have doubled := delays.doubles (Or.inl (by omega))
  rw [once] at doubled
  exact doubled

/-- A delay of more than thirty years ends early. -/
theorem long_delay_cut : ¬ ∀ (base top : Duration) (k : String) (s : Agenda) (more : List Action)
    (u : Agenda), (opened base top).step (.fail k) = some s → (∀ a ∈ more, own a) →
    s.run more = some u → k ∈ u.queue.waiting →
    ((opened base top).delay k).nanos ≤ u.now := by
  intro claim
  have course : ((opened (.ofMillis (2 ^ 63)) (.ofMillis (2 ^ 63))).step (.fail "a")).bind
      (fun s => (s.run [.pass 946080000000000000, .ring ⟨946080000000000000, "a"⟩]).map
        fun u => (u.now, u.queue.waiting)) = some (946080000000000000, ["a"]) := rfl
  obtain ⟨s, fails, later⟩ := Option.bind_eq_some_iff.1 course
  obtain ⟨u, told, he⟩ := Option.map_eq_some_iff.1 later
  obtain ⟨now, waiting⟩ := Prod.mk.inj he
  have late := claim _ _ "a" s _ u fails (by decide) told (by simp [waiting])
  rw [now] at late
  exact absurd late (by decide)

end Agenda
end RoleOperator
