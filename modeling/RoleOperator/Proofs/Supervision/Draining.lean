import RoleOperator.Proofs.Finalization.Exclusion
import RoleOperator.Proofs.Stepwise
import RoleOperator.Supervisor

/-!
# Draining

A supervisor with its tasks, a clock and a timer. A task ends at a time of its own, or as soon as it is
told to give up if it listens. Whatever is due happens at once: time passes only up to the next end of
a task or of the grace period. Of the timer only its answer for the grace period matters.
-/
namespace RoleOperator

namespace Supervisor

variable {s : Supervisor} {i : Nat}

theorem finish_last (last : s.running.filter (· ≠ i) = []) :
    s.finish i =
      (s.drains.map fun d => (d.id, !d.expired), { s with running := [], drains := [] }) := by
  have left : { s with running := s.running.filter (· ≠ i) } = { s with running := [] } := by
    rw [last]
  rw [finish, left]
  rfl

theorem finish_other (others : s.running.filter (· ≠ i) ≠ []) :
    s.finish i = ([], { s with running := s.running.filter (· ≠ i) }) := by
  rw [finish, settle, if_neg]
  rwa [List.isEmpty_iff]

theorem finish_running (s : Supervisor) (i : Nat) :
    (s.finish i).2.running = s.running.filter (· ≠ i) := by
  by_cases last : s.running.filter (· ≠ i) = []
  · rw [finish_last last, last]
  · rw [finish_other last]

end Supervisor

/-- When a task ends if it is left alone, and whether it ends once it is told to give up. -/
structure Charge where
  ends : Nat
  listens : Bool

namespace Charge

/-- When a task ends if it is told to give up at `cut`. -/
def stopsAt (c : Charge) (cut : Nat) : Nat := if c.listens ∧ cut < c.ends then cut else c.ends

variable {c : Charge} {cut : Nat}

theorem stopsAt_of_le (h : c.ends ≤ cut) : c.stopsAt cut = c.ends := if_neg (by omega)

theorem stopsAt_of_deaf (h : c.listens = false) : c.stopsAt cut = c.ends := if_neg (by simp [h])

theorem stopsAt_of_listens (h : c.listens) (late : cut < c.ends) : c.stopsAt cut = cut :=
  if_pos ⟨h, late⟩

theorem stopsAt_of_ge (h : c.listens) (late : cut ≤ c.stopsAt cut) : c.stopsAt cut = cut := by
  by_cases after : cut < c.ends
  · exact stopsAt_of_listens h after
  · have before := Nat.le_of_not_lt after
    rw [stopsAt_of_le before] at late ⊢
    exact Nat.le_antisymm before late

theorem stopsAt_of_lt (h : c.stopsAt cut < cut) : c.stopsAt cut = c.ends := by
  unfold stopsAt at h ⊢
  split at h
  · omega
  · next early => exact if_neg early

end Charge

/-- Tasks are known by their numbers, and `ended` says when they have ended. A drain begins at the
time `begun`; `returned` is the time when it returns, with the answer. -/
structure Vigil where
  supervisor : Supervisor
  now : Nat := 0
  spawned : List Nat := []
  ended : List (Nat × Nat) := []
  begun : Option Nat := none
  abandonedAt : Option Nat := none
  returned : Option (Nat × Bool) := none

namespace Vigil

inductive Action where
  | spawn (task : Nat)
  | pass (nanos : Nat)
  | finish (task : Nat)
  | giveUp (task : Nat)
  | drain
  | expire

def opened (grace : Duration) : Vigil := { supervisor := { grace } }

/-- Take over what the supervisor has come to, and the answer if the drain returns. -/
def collect (v : Vigil) (outcome : List Supervisor.Drained × Supervisor) : Vigil :=
  { v with
    supervisor := outcome.2
    returned := (outcome.1.head?.map fun d => (v.now, d.2)).or v.returned }

def leave (v : Vigil) (i : Nat) : Vigil :=
  { v with ended := v.ended ++ [(i, v.now)] }.collect (v.supervisor.finish i)

section Steps

variable (timer : Duration.Timer) (plan : Nat → Charge)

/-- No task is spawned once the drain has begun. -/
def step (v : Vigil) : Action → Option Vigil
  | .spawn i =>
    if v.begun = none ∧ i ∉ v.spawned ∧ v.now ≤ (plan i).ends then
      some { v with supervisor := v.supervisor.spawn i, spawned := v.spawned ++ [i] }
    else none
  | .pass nanos =>
    if (∀ i ∈ v.supervisor.running, v.now + nanos ≤ (plan i).ends ∧
          ((plan i).listens → v.supervisor.abandoned = false)) ∧
        ∀ d ∈ v.supervisor.drains, d.expired = false → v.now + nanos ≤ d.deadline then
      some { v with now := v.now + nanos }
    else none
  | .finish i =>
    if i ∈ v.supervisor.running ∧ (plan i).ends ≤ v.now then some (v.leave i) else none
  | .giveUp i =>
    if i ∈ v.supervisor.running ∧ (plan i).listens ∧ v.supervisor.abandoned then some (v.leave i)
    else none
  | .drain =>
    if v.begun = none then
      some ({ v with begun := some v.now }.collect (v.supervisor.drain timer 0 v.now))
    else none
  | .expire =>
    if ∃ d ∈ v.supervisor.drains, d.expired = false ∧ d.deadline ≤ v.now then
      some { v with supervisor := v.supervisor.expire 0, abandonedAt := some v.now }
    else none

def run (v : Vigil) : List Action → Option Vigil
  | [] => some v
  | a :: rest => (v.step timer plan a).bind fun v => v.run rest

/-- The last end of one of the tasks, if it is after `t`. -/
def lastEnd (t : Nat) (tasks : List Nat) : Nat := (tasks.map fun i => (plan i).ends).foldr max t

/-- The tasks that do not give up. -/
def deaf (tasks : List Nat) : List Nat := tasks.filter fun i => !(plan i).listens

/-- The drain has returned `answer` at `t`, or it is not past that time and can go on to return. -/
def Returns (v : Vigil) (t : Nat) (answer : Bool) : Prop :=
  (v.returned = none ∧ v.now ≤ t ∨ v.returned = some (t, answer)) ∧
    ∃ more v', v.run timer plan more = some v' ∧ v'.returned = some (t, answer)

end Steps

variable {timer : Duration.Timer} {plan : Nat → Charge} {v v' : Vigil} {a : Action} {actions : List Action} {i t cut : Nat}

theorem le_lastEnd (t : Nat) (tasks : List Nat) : t ≤ lastEnd plan t tasks := by
  induction tasks with
  | nil => exact Nat.le_refl t
  | cons i rest ih => exact Nat.le_trans ih (Nat.le_max_right _ _)

theorem ends_le_lastEnd {tasks : List Nat} (h : i ∈ tasks) (t : Nat) :
    (plan i).ends ≤ lastEnd plan t tasks := by
  induction tasks with
  | nil => cases h
  | cons j rest ih =>
    rcases List.mem_cons.1 h with rfl | later
    · exact Nat.le_max_left _ _
    · exact Nat.le_trans (ih later) (Nat.le_max_right _ _)

theorem lastEnd_le {tasks : List Nat} {bound : Nat} (start : t ≤ bound)
    (ends : ∀ i ∈ tasks, (plan i).ends ≤ bound) : lastEnd plan t tasks ≤ bound := by
  induction tasks with
  | nil => exact start
  | cons j rest ih =>
    obtain ⟨first, others⟩ := List.forall_mem_cons.1 ends
    exact Nat.max_le.2 ⟨first, ih others⟩

/-- The last end is a bound that is reached. -/
theorem lastEnd_eq {tasks : List Nat} {bound : Nat} (start : t ≤ bound)
    (ends : ∀ i ∈ tasks, (plan i).ends ≤ bound)
    (reached : bound = t ∨ ∃ i ∈ tasks, bound = (plan i).ends) :
    lastEnd plan t tasks = bound := by
  refine Nat.le_antisymm (lastEnd_le start ends) ?_
  rcases reached with rfl | ⟨i, member, rfl⟩
  · exact le_lastEnd _ _
  · exact ends_le_lastEnd member t

/-- If the last task to stop does so before `cut`, no task is late. -/
theorem lastEnd_inTime {start : Nat} {tasks : List Nat} (begun : start ≤ t) (early : t < cut)
    (stops : ∀ j ∈ tasks, (plan j).stopsAt cut ≤ t) (member : i ∈ tasks) (due : t ≤ (plan i).ends) :
    lastEnd plan start tasks = t ∧ ∀ j ∈ tasks, (plan j).ends < cut := by
  have ends : ∀ j ∈ tasks, (plan j).ends ≤ t := fun j hj => by
    have bound := stops j hj
    rwa [Charge.stopsAt_of_lt (Nat.lt_of_le_of_lt bound early)] at bound
  refine ⟨lastEnd_eq begun ends (Or.inr ⟨i, member, ?_⟩), fun j hj => ?_⟩
  · exact Nat.le_antisymm due (ends i member)
  · exact Nat.lt_of_le_of_lt (ends j hj) early

/-- If the last task to stop does not do so before `cut`, it does so then or is deaf. -/
theorem lastEnd_late {tasks : List Nat} (late : cut ≤ t)
    (stops : ∀ j ∈ tasks, (plan j).stopsAt cut ≤ t) (member : i ∈ tasks)
    (time : t = (plan i).stopsAt cut) : lastEnd plan cut (deaf plan tasks) = t := by
  refine lastEnd_eq late (fun j hj => ?_) ?_
  · obtain ⟨hj, hears⟩ := List.mem_filter.1 hj
    have bound := stops j hj
    rwa [Charge.stopsAt_of_deaf (by simpa using hears)] at bound
  · cases listens : (plan i).listens with
    | true => exact Or.inl (time.trans (Charge.stopsAt_of_ge listens (time ▸ late)))
    | false =>
      refine Or.inr ⟨i, List.mem_filter.2 ⟨member, by simp [listens]⟩, ?_⟩
      rw [time, Charge.stopsAt_of_deaf listens]

theorem leave_last (last : v.supervisor.running.filter (· ≠ i) = []) :
    (v.leave i).supervisor = { v.supervisor with running := [], drains := [] } ∧
      (v.leave i).returned =
        (v.supervisor.drains.head?.map fun d => (v.now, !d.expired)).or v.returned := by
  rw [leave, Supervisor.finish_last last]
  refine ⟨rfl, ?_⟩
  simp only [collect, List.head?_map, Option.map_map]
  rfl

theorem leave_other (others : v.supervisor.running.filter (· ≠ i) ≠ []) :
    (v.leave i).supervisor =
        { v.supervisor with running := v.supervisor.running.filter (· ≠ i) } ∧
      (v.leave i).returned = v.returned := by
  rw [leave, Supervisor.finish_other others]
  exact ⟨rfl, rfl⟩

/-! ## Tasks -/

/-- Every task runs or has ended, and none runs longer than it should. -/
structure Sound (plan : Nat → Charge) (ending : Charge → Nat) (v : Vigil) : Prop where
  running_iff : ∀ i, i ∈ v.supervisor.running ↔ i ∈ v.spawned ∧ ∀ t, (i, t) ∉ v.ended
  due : ∀ i ∈ v.supervisor.running, v.now ≤ (plan i).ends
  ended : ∀ i t, (i, t) ∈ v.ended → i ∈ v.spawned ∧ t = ending (plan i) ∧ t ≤ v.now

namespace Sound

variable {ending : Charge → Nat}

theorem spawn (h : v.Sound plan ending) (new : i ∉ v.spawned) (late : v.now ≤ (plan i).ends) :
    Sound plan ending
      { v with supervisor := v.supervisor.spawn i, spawned := v.spawned ++ [i] } := by
  refine ⟨fun j => ?_, fun j running => ?_, fun j t ended => ?_⟩
  · change j ∈ v.supervisor.running ++ [i] ↔ j ∈ v.spawned ++ [i] ∧ _
    rw [List.mem_append, List.mem_append, List.mem_singleton, h.running_iff]
    constructor
    · rintro (⟨spawned, running⟩ | rfl)
      · exact ⟨Or.inl spawned, running⟩
      · exact ⟨Or.inr rfl, fun t ended => new (h.ended j t ended).1⟩
    · rintro ⟨spawned | rfl, running⟩
      · exact Or.inl ⟨spawned, running⟩
      · exact Or.inr rfl
  · rcases List.mem_append.1 running with old | here
    · exact h.due j old
    · rw [List.mem_singleton.1 here]
      exact late
  · obtain ⟨spawned, rest⟩ := h.ended j t ended
    exact ⟨List.mem_append_left _ spawned, rest⟩

theorem pass (h : v.Sound plan ending) {nanos : Nat}
    (free : ∀ i ∈ v.supervisor.running, v.now + nanos ≤ (plan i).ends) :
    Sound plan ending { v with now := v.now + nanos } := by
  refine ⟨h.running_iff, free, fun i t ended => ?_⟩
  obtain ⟨spawned, time, past⟩ := h.ended i t ended
  exact ⟨spawned, time, Nat.le_trans past (Nat.le_add_right _ _)⟩

theorem leave (h : v.Sound plan ending) (running : i ∈ v.supervisor.running)
    (time : v.now = ending (plan i)) : Sound plan ending (v.leave i) := by
  have left : (v.leave i).supervisor.running = v.supervisor.running.filter (· ≠ i) :=
    v.supervisor.finish_running i
  have noted : ∀ j t, (j, t) ∈ (v.leave i).ended ↔ (j, t) ∈ v.ended ∨ j = i ∧ t = v.now := by
    intro j t
    change (j, t) ∈ v.ended ++ [(i, v.now)] ↔ _
    simp
  refine ⟨fun j => ?_, fun j still => ?_, fun j t ended => ?_⟩
  · rw [left, List.mem_filter, decide_eq_true_eq, h.running_iff]
    change _ ↔ j ∈ v.spawned ∧ _
    simp only [noted]
    constructor
    · rintro ⟨⟨spawned, running⟩, other⟩
      exact ⟨spawned, fun t ended => ended.elim (running t) fun he => other he.1⟩
    · rintro ⟨spawned, running⟩
      refine ⟨⟨spawned, fun t ended => running t (Or.inl ended)⟩, ?_⟩
      rintro rfl
      exact running v.now (Or.inr ⟨rfl, rfl⟩)
  · rw [left] at still
    exact h.due j (List.mem_filter.1 still).1
  · rcases (noted j t).1 ended with before | ⟨rfl, rfl⟩
    · exact h.ended j t before
    · exact ⟨((h.running_iff j).1 running).1, time, Nat.le_refl _⟩

/-- A task that is not running any more has ended. -/
theorem ended_of_idle (h : v.Sound plan ending) (idle : v.supervisor.running = [])
    (spawned : i ∈ v.spawned) : (i, ending (plan i)) ∈ v.ended ∧ ending (plan i) ≤ v.now := by
  have stopped : ¬ ∀ t, (i, t) ∉ v.ended := fun running => by
    have member := (h.running_iff i).2 ⟨spawned, running⟩
    rw [idle] at member
    cases member
  obtain ⟨t, ended⟩ := Classical.not_forall.1 stopped
  have ended := Decidable.of_not_not ended
  obtain ⟨-, rfl, past⟩ := h.ended i t ended
  exact ⟨ended, past⟩

end Sound

/-! ## Up to the drain -/

/-- Nobody waits, and nobody has been told to give up. -/
structure Early (plan : Nat → Charge) (grace : Duration) (v : Vigil) : Prop where
  sound : v.Sound plan Charge.ends
  grace_eq : v.supervisor.grace = grace
  drains : v.supervisor.drains = []
  calm : v.supervisor.abandoned = false
  unmarked : v.abandonedAt = none
  pending : v.returned = none

theorem early_opened (grace : Duration) : (opened grace).Early plan grace :=
  ⟨⟨by simp [opened], by simp [opened], by simp [opened]⟩, rfl, rfl, rfl, rfl, rfl⟩

theorem Early.leave {grace : Duration} (h : v.Early plan grace) (running : i ∈ v.supervisor.running)
    (due : (plan i).ends ≤ v.now) : (v.leave i).Early plan grace := by
  have time : v.now = (plan i).ends := Nat.le_antisymm (h.sound.due i running) due
  have sound := h.sound.leave running time
  by_cases last : v.supervisor.running.filter (· ≠ i) = []
  · obtain ⟨left, answer⟩ := v.leave_last last
    rw [h.drains, h.pending] at answer
    exact ⟨sound, left ▸ h.grace_eq, by rw [left], left ▸ h.calm, h.unmarked, answer⟩
  · obtain ⟨left, answer⟩ := v.leave_other last
    exact ⟨sound, left ▸ h.grace_eq, left ▸ h.drains, left ▸ h.calm, h.unmarked,
      answer.trans h.pending⟩

theorem Early.step {grace : Duration} (h : v.Early plan grace) (s : v.step timer plan a = some v')
    (undrained : v'.begun = none) : v'.Early plan grace := by
  cases a with
  | spawn i =>
    obtain ⟨⟨-, new, late⟩, he⟩ := Option.ite_none_right_eq_some.1 s
    cases he
    exact ⟨h.sound.spawn new late, h.grace_eq, h.drains, h.calm, h.unmarked, h.pending⟩
  | pass nanos =>
    obtain ⟨⟨free, -⟩, he⟩ := Option.ite_none_right_eq_some.1 s
    cases he
    exact ⟨h.sound.pass fun i running => (free i running).1, h.grace_eq, h.drains, h.calm,
      h.unmarked, h.pending⟩
  | finish i =>
    obtain ⟨⟨running, due⟩, he⟩ := Option.ite_none_right_eq_some.1 s
    cases he
    exact h.leave running due
  | giveUp i =>
    obtain ⟨⟨-, -, told⟩, -⟩ := Option.ite_none_right_eq_some.1 s
    rw [h.calm] at told
    cases told
  | drain =>
    obtain ⟨-, he⟩ := Option.ite_none_right_eq_some.1 s
    cases he
    cases undrained
  | expire =>
    obtain ⟨⟨d, hd, -⟩, -⟩ := Option.ite_none_right_eq_some.1 s
    rw [h.drains] at hd
    cases hd

theorem begun_of_step (s : v.step timer plan a = some v') (undrained : v'.begun = none) :
    v.begun = none := by
  cases a with
  | drain => exact (Option.ite_none_right_eq_some.1 s).1
  | spawn i => exact (Option.ite_none_right_eq_some.1 s).1.1
  | _ =>
    obtain ⟨-, he⟩ := Option.ite_none_right_eq_some.1 s
    cases he
    exact undrained

theorem stepwise (timer : Duration.Timer) (plan : Nat → Charge) :
    Stepwise (Vigil.step timer plan) (Vigil.run timer plan) :=
  ⟨fun _ => rfl, fun _ _ _ => rfl⟩

theorem early_of_run {grace : Duration} (r : (opened grace).run timer plan actions = some v)
    (undrained : v.begun = none) : v.Early plan grace := by
  have keeps : ∀ {m m' : Vigil} {a : Action}, (m.begun = none → m.Early plan grace) →
      m.step timer plan a = some m' → m'.begun = none → m'.Early plan grace := fun h s undrained =>
    (h (begun_of_step s undrained)).step s undrained
  exact (stepwise timer plan).keeps keeps (fun _ => early_opened grace) r undrained

/-! ## From the drain on -/

/-- Where a drain stands that has begun at `start` and whose grace period ends at `cut`. -/
inductive Phase (plan : Nat → Charge) (start cut : Nat) (v : Vigil) : Prop where
  | waiting (drains : v.supervisor.drains = [⟨0, cut, false⟩])
      (calm : v.supervisor.abandoned = false) (unmarked : v.abandonedAt = none)
      (pending : v.returned = none) (busy : v.supervisor.running ≠ []) (begun : start ≤ v.now)
      (early : v.now ≤ cut)
  | expired (drains : v.supervisor.drains = [⟨0, cut, true⟩]) (told : v.supervisor.abandoned)
      (marked : v.abandonedAt = some cut) (pending : v.returned = none)
      (busy : v.supervisor.running ≠ []) (late : cut ≤ v.now)
      (listeners : ∀ i ∈ v.supervisor.running, (plan i).listens → v.now = cut)
  | inTime (drains : v.supervisor.drains = []) (calm : v.supervisor.abandoned = false)
      (unmarked : v.abandonedAt = none) (idle : v.supervisor.running = [])
      (returned : v.returned = some (lastEnd plan start v.spawned, true))
      (all : ∀ i ∈ v.spawned, (plan i).ends < cut)
  | late (drains : v.supervisor.drains = []) (told : v.supervisor.abandoned)
      (marked : v.abandonedAt = some cut) (idle : v.supervisor.running = [])
      (returned : v.returned = some (lastEnd plan cut (deaf plan v.spawned), false))
      (straggler : ∃ i ∈ v.spawned, cut < (plan i).ends)

/-- No task ends just when the grace period does. -/
structure Draining (plan : Nat → Charge) (start cut : Nat) (tasks : List Nat) (v : Vigil) :
    Prop where
  sound : v.Sound plan (Charge.stopsAt · cut)
  phase : v.Phase plan start cut
  begun : v.begun ≠ none
  spawned : v.spawned = tasks
  apart : ∀ i ∈ v.spawned, (plan i).ends ≠ cut

variable {start : Nat} {tasks : List Nat}

/-- A task ends when it should. -/
theorem Draining.time (h : v.Draining plan start cut tasks) (running : i ∈ v.supervisor.running)
    (why : (plan i).ends ≤ v.now ∨ (plan i).listens ∧ v.supervisor.abandoned) :
    v.now = (plan i).stopsAt cut := by
  have due := h.sound.due i running
  have apart := h.apart i ((h.sound.running_iff i).1 running).1
  cases h.phase with
  | waiting _ calm _ _ _ _ early =>
    rcases why with past | ⟨-, told⟩
    · rw [Charge.stopsAt_of_le (by omega)]
      omega
    · simp [calm] at told
  | expired _ _ _ _ _ late listeners =>
    cases listens : (plan i).listens with
    | true =>
      have now := listeners i running listens
      rw [Charge.stopsAt_of_listens listens (by omega), now]
    | false =>
      rw [Charge.stopsAt_of_deaf listens]
      rcases why with past | ⟨hears, -⟩
      · omega
      · simp [listens] at hears
  | inTime _ _ _ idle | late _ _ _ idle =>
    rw [idle] at running
    cases running

theorem Draining.leave (h : v.Draining plan start cut tasks) (running : i ∈ v.supervisor.running)
    (why : (plan i).ends ≤ v.now ∨ (plan i).listens ∧ v.supervisor.abandoned) :
    (v.leave i).Draining plan start cut tasks := by
  have time := h.time running why
  have sound := h.sound.leave running time
  have spawned := ((h.sound.running_iff i).1 running).1
  have due := h.sound.due i running
  have apart := h.apart i spawned
  refine ⟨sound, ?_, h.begun, h.spawned, h.apart⟩
  by_cases last : v.supervisor.running.filter (· ≠ i) = []
  · obtain ⟨left, answer⟩ := v.leave_last last
    have stops : ∀ j ∈ v.spawned, (plan j).stopsAt cut ≤ v.now := fun j hj =>
      (sound.ended_of_idle (by rw [left]) hj).2
    cases h.phase with
    | waiting drains calm unmarked pending _ begun early =>
      have inTime : v.now < cut := by
        rcases why with past | ⟨-, told⟩
        · omega
        · simp [calm] at told
      obtain ⟨total, all⟩ := lastEnd_inTime begun inTime stops spawned due
      refine .inTime (by rw [left]) (by rw [left]; exact calm) unmarked (by rw [left]) ?_ all
      rw [answer, drains]
      change _ = some (lastEnd plan start v.spawned, true)
      rw [total]
      rfl
    | expired drains told marked pending _ late listeners =>
      refine .late (by rw [left]) (by rw [left]; exact told) marked (by rw [left]) ?_
        ⟨i, spawned, by omega⟩
      rw [answer, drains]
      change _ = some (lastEnd plan cut (deaf plan v.spawned), false)
      rw [lastEnd_late late stops spawned time]
      rfl
    | inTime _ _ _ idle | late _ _ _ idle =>
      rw [idle] at running
      cases running
  · obtain ⟨left, answer⟩ := v.leave_other last
    cases h.phase with
    | waiting drains calm unmarked pending _ begun early =>
      exact .waiting (left ▸ drains) (left ▸ calm) unmarked (answer.trans pending)
        (by rw [left]; exact last) begun early
    | expired drains told marked pending _ late listeners =>
      refine .expired (left ▸ drains) (left ▸ told) marked (answer.trans pending)
        (by rw [left]; exact last) late fun j hj => ?_
      rw [left] at hj
      exact listeners j (List.mem_filter.1 hj).1
    | inTime _ _ _ idle | late _ _ _ idle =>
      rw [idle] at running
      cases running

theorem Draining.step (h : v.Draining plan start cut tasks) (s : v.step timer plan a = some v') :
    v'.Draining plan start cut tasks := by
  cases a with
  | spawn i => exact absurd (Option.ite_none_right_eq_some.1 s).1.1 h.begun
  | drain => exact absurd (Option.ite_none_right_eq_some.1 s).1 h.begun
  | pass nanos =>
    obtain ⟨⟨free, limit⟩, he⟩ := Option.ite_none_right_eq_some.1 s
    cases he
    refine ⟨h.sound.pass fun i running => (free i running).1, ?_, h.begun, h.spawned, h.apart⟩
    cases h.phase with
    | waiting drains calm unmarked pending busy begun early =>
      refine .waiting drains calm unmarked pending busy (Nat.le_add_right_of_le begun) ?_
      exact limit _ (by rw [drains]; exact List.mem_singleton_self _) rfl
    | expired drains told marked pending busy late listeners =>
      refine .expired drains told marked pending busy (Nat.le_add_right_of_le late) ?_
      intro i running listens
      have calm := (free i running).2 listens
      simp [told] at calm
    | inTime drains calm unmarked idle returned all =>
      exact .inTime drains calm unmarked idle returned all
    | late drains told marked idle returned straggler =>
      exact .late drains told marked idle returned straggler
  | finish i =>
    obtain ⟨⟨running, due⟩, he⟩ := Option.ite_none_right_eq_some.1 s
    cases he
    exact h.leave running (Or.inl due)
  | giveUp i =>
    obtain ⟨⟨running, told⟩, he⟩ := Option.ite_none_right_eq_some.1 s
    cases he
    exact h.leave running (Or.inr told)
  | expire =>
    obtain ⟨⟨d, hd, unexpired, elapsed⟩, he⟩ := Option.ite_none_right_eq_some.1 s
    cases he
    cases h.phase with
    | waiting drains calm unmarked pending busy begun early =>
      rw [drains, List.mem_singleton] at hd
      subst hd
      have now : v.now = cut := Nat.le_antisymm early elapsed
      have told : v.supervisor.expire 0 =
          { v.supervisor with abandoned := true, drains := [⟨0, cut, true⟩] } := by
        simp [Supervisor.expire, drains]
      refine ⟨⟨?_, ?_, h.sound.ended⟩, ?_, h.begun, h.spawned, h.apart⟩
      · rw [told]
        exact h.sound.running_iff
      · rw [told]
        exact h.sound.due
      · refine .expired (by rw [told]) (by rw [told]) (congrArg some now) pending
          (by rw [told]; exact busy) (Nat.le_of_eq now.symm) fun _ _ _ => now
    | expired drains =>
      rw [drains, List.mem_singleton] at hd
      subst hd
      cases unexpired
    | inTime drains | late drains =>
      rw [drains] at hd
      cases hd

theorem draining_of_drain {grace : Duration} (h : v.Early plan grace)
    (s : v.step timer plan .drain = some v') (hcut : timer v.now grace.nanos = cut)
    (within : v.now ≤ cut) (apart : ∀ i ∈ v.spawned, (plan i).ends ≠ cut) :
    v'.Draining plan v.now cut v.spawned := by
  obtain ⟨-, he⟩ := Option.ite_none_right_eq_some.1 s
  cases he
  rw [← h.grace_eq] at hcut
  have sound : v.Sound plan (Charge.stopsAt · cut) := by
    refine ⟨h.sound.running_iff, h.sound.due, fun i t ended => ?_⟩
    obtain ⟨spawned, rfl, past⟩ := h.sound.ended i t ended
    exact ⟨spawned, (Charge.stopsAt_of_le (Nat.le_trans past within)).symm, past⟩
  have begins : v.supervisor.drain timer 0 v.now =
      { v.supervisor with drains := [⟨0, cut, false⟩] }.settle := by
    rw [Supervisor.drain, hcut, h.drains, List.nil_append]
  rw [begins, Supervisor.settle]
  split
  · next idle =>
    have idle : v.supervisor.running = [] := List.isEmpty_iff.1 idle
    have ends : ∀ i ∈ v.spawned, (plan i).ends ≤ v.now := fun i hi =>
      (h.sound.ended_of_idle idle hi).2
    refine ⟨⟨sound.running_iff, sound.due, sound.ended⟩, ?_, by simp [collect], rfl, apart⟩
    refine .inTime rfl h.calm h.unmarked idle ?_ fun i hi => ?_
    · change some (v.now, true) = some (lastEnd plan v.now v.spawned, true)
      rw [lastEnd_eq (Nat.le_refl _) ends (Or.inl rfl)]
    · exact Nat.lt_of_le_of_ne (Nat.le_trans (ends i hi) within) (apart i hi)
  · next busy =>
    have busy : v.supervisor.running ≠ [] := fun idle => busy (List.isEmpty_iff.2 idle)
    refine ⟨⟨sound.running_iff, sound.due, sound.ended⟩, ?_, by simp [collect], rfl, apart⟩
    exact .waiting rfl h.calm h.unmarked h.pending busy (Nat.le_refl _) within

/-! ## The return -/

/-- When a drain returns, and its answer. -/
def verdict (plan : Nat → Charge) (start cut : Nat) (tasks : List Nat) : Nat × Bool :=
  if ∀ i ∈ tasks, (plan i).ends < cut then (lastEnd plan start tasks, true)
  else (lastEnd plan cut (deaf plan tasks), false)

theorem Draining.returned_or (h : v.Draining plan start cut tasks) :
    v.returned = none ∧ v.now ≤ (verdict plan start cut tasks).1 ∨
      v.returned = some (verdict plan start cut tasks) := by
  obtain rfl := h.spawned
  unfold verdict
  cases h.phase with
  | waiting _ _ _ pending busy _ early =>
    refine Or.inl ⟨pending, ?_⟩
    obtain ⟨i, running⟩ := List.exists_mem_of_ne_nil _ busy
    have spawned := ((h.sound.running_iff i).1 running).1
    split
    · exact Nat.le_trans (h.sound.due i running) (ends_le_lastEnd spawned start)
    · exact Nat.le_trans early (le_lastEnd cut _)
  | expired _ _ _ pending busy late listeners =>
    refine Or.inl ⟨pending, ?_⟩
    obtain ⟨i, running⟩ := List.exists_mem_of_ne_nil _ busy
    have spawned := ((h.sound.running_iff i).1 running).1
    have due := h.sound.due i running
    rw [if_neg fun all => by have := all i spawned; omega]
    cases listens : (plan i).listens with
    | true =>
      rw [listeners i running listens]
      exact le_lastEnd cut _
    | false =>
      exact Nat.le_trans due (ends_le_lastEnd (List.mem_filter.2 ⟨spawned, by simp [listens]⟩) cut)
  | inTime _ _ _ _ returned all => exact Or.inr (by rw [if_pos all, returned])
  | late _ _ _ _ returned straggler =>
    obtain ⟨i, spawned, late⟩ := straggler
    exact Or.inr (by rw [if_neg fun all => by have := all i spawned; omega, returned])

/-- What is left until the return: time, tasks and the grace period. -/
def remaining (v : Vigil) (bound : Nat) : Nat :=
  bound - v.now + v.supervisor.running.length + v.supervisor.drains.countP (!·.expired)

theorem remaining_leave (running : i ∈ v.supervisor.running) (bound : Nat) :
    (v.leave i).remaining bound < v.remaining bound := by
  have fewer : (v.supervisor.running.filter (· ≠ i)).length < v.supervisor.running.length :=
    List.length_filter_lt_length_iff_exists.2 ⟨i, running, by simp⟩
  have now : (v.leave i).now = v.now := rfl
  unfold remaining
  rw [now]
  by_cases last : v.supervisor.running.filter (· ≠ i) = []
  · rw [(v.leave_last last).1]
    rw [last] at fewer
    simp only [List.countP_nil]
    omega
  · rw [(v.leave_other last).1]
    simp only
    omega

/-- A drain that has not returned can go on. -/
theorem Draining.progress (h : v.Draining plan start cut tasks) (pending : v.returned = none) :
    ∃ a v', v.step timer plan a = some v' ∧ v'.remaining (verdict plan start cut tasks).1 <
      v.remaining (verdict plan start cut tasks).1 := by
  by_cases due : ∃ i ∈ v.supervisor.running, (plan i).ends ≤ v.now
  · obtain ⟨i, running, due⟩ := due
    exact ⟨.finish i, v.leave i, if_pos ⟨running, due⟩, remaining_leave running _⟩
  by_cases told : ∃ i ∈ v.supervisor.running, (plan i).listens ∧ v.supervisor.abandoned
  · obtain ⟨i, running, told⟩ := told
    exact ⟨.giveUp i, v.leave i, if_pos ⟨running, told⟩, remaining_leave running _⟩
  by_cases elapsed : ∃ d ∈ v.supervisor.drains, d.expired = false ∧ d.deadline ≤ v.now
  · refine ⟨.expire, _, if_pos elapsed, ?_⟩
    cases h.phase with
    | waiting drains =>
      simp [remaining, Supervisor.expire, drains]
    | expired drains | inTime drains | late drains => simp [drains] at elapsed
  -- Nothing is due, so that time can pass.
  have calm : ∀ i ∈ v.supervisor.running, v.now + 1 ≤ (plan i).ends ∧
      ((plan i).listens → v.supervisor.abandoned = false) := by
    intro i running
    refine ⟨Nat.lt_of_not_le fun past => due ⟨i, running, past⟩, fun listens => ?_⟩
    exact Bool.eq_false_iff.2 fun abandoned => told ⟨i, running, listens, abandoned⟩
  have limit : ∀ d ∈ v.supervisor.drains, d.expired = false → v.now + 1 ≤ d.deadline := by
    intro d hd unexpired
    exact Nat.lt_of_not_le fun past => elapsed ⟨d, hd, unexpired, past⟩
  have passes : v.step timer plan (.pass 1) = some { v with now := v.now + 1 } := if_pos ⟨calm, limit⟩
  refine ⟨.pass 1, _, passes, ?_⟩
  rcases (h.step passes).returned_or with ⟨-, bound⟩ | returned
  · change v.now + 1 ≤ (verdict plan start cut tasks).1 at bound
    simp only [remaining]
    omega
  · change v.returned = _ at returned
    rw [pending] at returned
    cases returned

theorem Draining.returns (timer : Duration.Timer) (h : v.Draining plan start cut tasks) :
    v.Returns timer plan (verdict plan start cut tasks).1 (verdict plan start cut tasks).2 := by
  refine ⟨h.returned_or, ?_⟩
  have onward : ∀ {m : Vigil}, m.Draining plan start cut tasks →
      m.returned = some (verdict plan start cut tasks) ∨ ∃ a m', True ∧ m.step timer plan a = some m' ∧
        m'.Draining plan start cut tasks ∧ m'.remaining (verdict plan start cut tasks).1 <
          m.remaining (verdict plan start cut tasks).1 := by
    intro m h
    rcases h.returned_or with ⟨pending, -⟩ | returned
    · obtain ⟨a, m', hs, less⟩ := h.progress pending
      exact Or.inr ⟨a, m', trivial, hs, h.step hs, less⟩
    · exact Or.inl returned
  obtain ⟨more, v', -, hr, returned⟩ := (stepwise timer plan).reaches
    (remaining · (verdict plan start cut tasks).1) onward h
  exact ⟨more, v', hr, returned⟩

/-- The tasks are told to give up when the grace period is over, and only if one is late. -/
theorem Draining.abandoned (h : v.Draining plan start cut tasks) :
    v.supervisor.abandoned = v.abandonedAt.isSome ∧
    ((∀ i ∈ tasks, (plan i).ends < cut) → v.abandonedAt = none) ∧
    (¬ (∀ i ∈ tasks, (plan i).ends < cut) →
      v.abandonedAt = some cut ∨ v.abandonedAt = none ∧ v.returned = none ∧ v.now ≤ cut) := by
  obtain rfl := h.spawned
  cases h.phase with
  | waiting _ calm unmarked pending _ _ early =>
    exact ⟨by rw [calm, unmarked]; rfl, fun _ => unmarked,
      fun _ => Or.inr ⟨unmarked, pending, early⟩⟩
  | expired _ told marked _ busy late =>
    refine ⟨by rw [told, marked]; rfl, fun all => ?_, fun _ => Or.inl marked⟩
    obtain ⟨i, running⟩ := List.exists_mem_of_ne_nil _ busy
    have due := h.sound.due i running
    have early := all i ((h.sound.running_iff i).1 running).1
    omega
  | inTime _ calm unmarked _ _ all =>
    exact ⟨by rw [calm, unmarked]; rfl, fun _ => unmarked, fun straggler => absurd all straggler⟩
  | late _ told marked _ _ straggler =>
    refine ⟨by rw [told, marked]; rfl, fun all => ?_, fun _ => Or.inl marked⟩
    obtain ⟨i, spawned, late⟩ := straggler
    have early := all i spawned
    omega

theorem Draining.idle_of_returned (h : v.Draining plan start cut tasks)
    (returned : v.returned ≠ none) : v.supervisor.running = [] := by
  cases h.phase with
  | waiting _ _ _ pending | expired _ _ _ pending => exact absurd pending returned
  | inTime _ _ _ idle | late _ _ _ idle => exact idle

/-! ## What a drain comes to -/

open Finalization (Traffic)

/-- A drain that begins at `v.now` waits for all tasks, if the timer keeps to the grace period. If all
end before the grace period does, nobody is told to give up, and the answer is that they have ended in
time. Else those that are late and listen end with the grace period, and the drain returns after the
last one that does not listen. When it returns nothing is in flight; if the tasks are finalizations,
whatever is registered then is held by others. -/
theorem drain_verdict {grace : Duration} {before after : List Action} {w x : Vigil}
    (r : (opened grace).run timer plan before = some v) (begins : v.step timer plan .drain = some w)
    (r' : w.run timer plan after = some x) (kept : timer.Keeps v.now grace.nanos)
    (hcut : v.now + grace.nanos = cut) (apart : ∀ i ∈ v.spawned, (plan i).ends ≠ cut) :
    ((∀ i ∈ v.spawned, (plan i).ends < cut) →
      x.Returns timer plan (lastEnd plan v.now v.spawned) true ∧ x.abandonedAt = none) ∧
    (¬ (∀ i ∈ v.spawned, (plan i).ends < cut) →
      x.Returns timer plan (lastEnd plan cut (deaf plan v.spawned)) false ∧
      (x.abandonedAt = some cut ∨ x.abandonedAt = none ∧ x.returned = none ∧ x.now ≤ cut)) ∧
    x.supervisor.abandoned = x.abandonedAt.isSome ∧
    (∀ i t, (i, t) ∈ x.ended → t = (plan i).stopsAt cut) ∧
    (x.returned ≠ none → x.supervisor.inFlight = 0 ∧
      (∀ i ∈ v.spawned, (i, (plan i).stopsAt cut) ∈ x.ended) ∧
      ∀ actions t, Traffic.run {} actions = some t →
        (∀ i ∈ v.spawned, ∀ c, t.UnderWay i c → i ∈ x.supervisor.running) →
        ∀ id ∈ t.registry.ids, ∃ j c, j ∉ v.spawned ∧ t.UnderWay j c ∧ c.machine.id = id) := by
  have undrained : v.begun = none := (Option.ite_none_right_eq_some.1 begins).1
  have started := draining_of_drain (early_of_run r undrained) begins (kept.trans hcut)
    (hcut ▸ Nat.le_add_right _ _) apart
  have h := (stepwise timer plan).keeps Draining.step started r'
  have returns := h.returns timer
  obtain ⟨told, calm, cutOff⟩ := h.abandoned
  refine ⟨fun all => ⟨?_, calm all⟩, fun late => ⟨?_, cutOff late⟩, told,
    fun i t ended => (h.sound.ended i t ended).2.1, fun returned => ?_⟩
  · rwa [verdict, if_pos all] at returns
  · rwa [verdict, if_neg late] at returns
  have idle := h.idle_of_returned returned
  refine ⟨by rw [Supervisor.inFlight, idle]; rfl, fun i hi => ?_,
    fun actions t ran tasks id hid => ?_⟩
  · exact (h.sound.ended_of_idle idle (h.spawned ▸ hi)).1
  · obtain ⟨j, held⟩ := ((Traffic.reached ran).1.held id).1 hid
    obtain ⟨c, underWay, same⟩ := Traffic.holder_eq_some.1 held
    refine ⟨j, c, fun hj => ?_, underWay, same⟩
    have running := tasks j hj c underWay
    rw [idle] at running
    cases running

/-- One task ends in time, one gives up, and one goes on. -/
def mixed : Nat → Charge
  | 0 => ⟨2000000000, true⟩
  | 1 => ⟨600000000000, true⟩
  | _ => ⟨8000000000, false⟩

theorem mixed_verdict : ∃ v w x,
    (opened (.ofSeconds 5)).run Duration.endOfWait mixed [.spawn 0, .spawn 1, .spawn 2] = some v ∧
    v.step Duration.endOfWait mixed .drain = some w ∧
    w.run Duration.endOfWait mixed [.pass 2000000000, .finish 0, .pass 3000000000, .expire,
      .giveUp 1, .pass 3000000000, .finish 2] = some x ∧
    Duration.Timer.Keeps Duration.endOfWait v.now (Duration.ofSeconds 5).nanos ∧
    x.Returns Duration.endOfWait mixed 8000000000 false ∧ x.supervisor.abandoned ∧
    (∀ t, (1, t) ∈ x.ended → t = 5000000000) ∧ x.supervisor.inFlight = 0 := by
  obtain ⟨v, r⟩ : ∃ v, (opened (.ofSeconds 5)).run Duration.endOfWait mixed
      [.spawn 0, .spawn 1, .spawn 2] = some v := ⟨_, rfl⟩
  have before : ((opened (.ofSeconds 5)).run Duration.endOfWait mixed
      [.spawn 0, .spawn 1, .spawn 2]).map (fun v => (v.now, v.spawned)) = some (0, [0, 1, 2]) := rfl
  have course : (((opened (.ofSeconds 5)).run Duration.endOfWait mixed
      [.spawn 0, .spawn 1, .spawn 2]).bind (·.step Duration.endOfWait mixed .drain)).bind
        (fun w => (w.run Duration.endOfWait mixed [.pass 2000000000, .finish 0, .pass 3000000000,
          .expire, .giveUp 1, .pass 3000000000, .finish 2]).map (·.returned)) =
      some (some (8000000000, false)) := rfl
  rw [r] at before course
  obtain ⟨w, begins, later⟩ := Option.bind_eq_some_iff.1 course
  obtain ⟨x, r', returned⟩ := Option.map_eq_some_iff.1 later
  obtain ⟨now, spawned⟩ := Prod.mk.inj (Option.some.inj before)
  have kept : Duration.Timer.Keeps Duration.endOfWait v.now (Duration.ofSeconds 5).nanos :=
    Duration.keeps_endOfWait v.now (by decide)
  have cut : v.now + (Duration.ofSeconds 5).nanos = 5000000000 := by
    rw [now]
    decide
  obtain ⟨-, verdict, told, times, done⟩ :=
    drain_verdict r begins r' kept cut (by rw [spawned]; decide)
  rw [spawned] at verdict
  obtain ⟨returns, mark⟩ := verdict (by decide)
  have marked : x.abandonedAt = some 5000000000 := by
    rcases mark with marked | ⟨-, pending, -⟩
    · exact marked
    · rw [returned] at pending
      cases pending
  have idle := (done (by rw [returned]; exact Option.some_ne_none _)).1
  exact ⟨v, w, x, r, begins, r', kept, returns, by rw [told, marked]; rfl, times 1, idle⟩

end Vigil
end RoleOperator
