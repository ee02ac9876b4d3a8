import Mathlib.Algebra.Order.Floor.Div
import RoleOperator.Proofs.Finalization.Outcomes

/-!
# Time that a finalization takes

The rounds of a finalization begin before its deadline, and a pause lies between any two of them. So
there are only so many, each makes only so many calls, and what follows the last one is a removal. A
token that fires cuts a pause short, at once or when the attempt before it is over. A finalization whose
deadline the clock cannot show does not get as far as that.
-/
namespace RoleOperator.Finalization.Story

variable {begin interval deadline now now' : Nat} {fired : Option Nat} {r : Round}
  {before rounds : List Round} {timed : Bool} {s s' : Story} {a : Action}

/-! ## Rounds -/

/-- When the round after these begins. -/
def opensAt (begin interval : Nat) (rounds : List Round) : Nat :=
  match rounds.getLast? with
  | none => begin
  | some r => Duration.endOfWait r.ended interval

/-- Each round begins after the pause that follows the one before it, and before the deadline. -/
def Regular (begin interval deadline : Nat) (rounds : List Round) : Prop :=
  ∀ before r after, rounds = before ++ r :: after →
    r.began = opensAt begin interval before ∧ r.began < deadline ∧ r.began ≤ r.ended

theorem Regular.init (h : Regular begin interval deadline (rounds ++ [r])) :
    Regular begin interval deadline rounds := by
  intro before r' after he
  exact h before r' (after ++ [r]) (by simp [he])

theorem opensAt_snoc : opensAt begin interval (rounds ++ [r]) = Duration.endOfWait r.ended interval := by
  simp [opensAt]

theorem Regular.length_mul_le (h : Regular begin interval deadline rounds) :
    begin + rounds.length * min interval Duration.thirtyYears ≤ opensAt begin interval rounds := by
  induction rounds using List.reverseRecOn with
  | nil => simp [opensAt]
  | append_singleton rounds r ih =>
    obtain ⟨began, -, ordered⟩ := h rounds r [] rfl
    have sum := ih h.init
    rw [opensAt_snoc, Duration.endOfWait, List.length_append, List.length_singleton, Nat.succ_mul]
    omega

theorem lt_ceilDiv {n gap timeout : Nat} (pos : 0 < gap) (h : n * gap < timeout) :
    n < timeout ⌈/⌉ gap := by
  by_contra few
  have le := (ceilDiv_le_iff_le_mul pos).1 (Nat.le_of_not_lt few)
  rw [Nat.mul_comm] at le
  omega

theorem pos_gap (spaced : 0 < interval) : 0 < min interval Duration.thirtyYears := by
  have : 0 < Duration.thirtyYears := by decide
  omega

/-- There is room for the rounds so far and for one more that begins before the deadline. -/
theorem Regular.length_lt {timeout : Nat} (h : Regular begin interval (begin + timeout) rounds)
    (spaced : 0 < interval) (early : opensAt begin interval rounds < begin + timeout) :
    rounds.length < timeout ⌈/⌉ min interval Duration.thirtyYears := by
  have sum := h.length_mul_le
  exact lt_ceilDiv (pos_gap spaced) (by omega)

theorem Regular.length_le {timeout : Nat} (h : Regular begin interval (begin + timeout) rounds)
    (spaced : 0 < interval) :
    rounds.length ≤ timeout ⌈/⌉ min interval Duration.thirtyYears := by
  rcases List.eq_nil_or_concat rounds with rfl | ⟨before, r, rfl⟩
  · exact Nat.zero_le _
  · rw [List.concat_eq_append] at h ⊢
    obtain ⟨began, early, -⟩ := h before r [] rfl
    have less := h.init.length_lt spaced (began ▸ early)
    rw [List.length_append, List.length_singleton]
    omega

/-! ## Times -/

/-- When the pause after a round is over. -/
def alarm (interval deadline : Nat) (r : Round) : Nat :=
  min (Duration.endOfWait r.ended interval) deadline

/-- The pause after the round is over, and the token did not fire before that. -/
structure Passed (interval deadline now : Nat) (fired : Option Nat) (r : Round) : Prop where
  due : alarm interval deadline r ≤ now
  unbroken : ∀ t, fired = some t → alarm interval deadline r ≤ max t r.ended

theorem Passed.later (h : Passed interval deadline now fired r) (later : now ≤ now') :
    Passed interval deadline now' fired r := ⟨Nat.le_trans h.due later, h.unbroken⟩

theorem eq_or_of_or {t : Nat} (h : fired.or (some now) = some t) : fired = some t ∨ t = now := by
  cases fired with
  | none => exact Or.inr (Option.some.inj h).symm
  | some t' => exact Or.inl h

theorem Passed.fire (h : Passed interval deadline now fired r) :
    Passed interval deadline now (fired.or (some now)) r := by
  refine ⟨h.due, fun t ht => ?_⟩
  rcases eq_or_of_or ht with ht | rfl
  · exact h.unbroken t ht
  · have due := h.due
    omega

/-- The last round is over, and so are all pauses but the one after it. The token ends that one. -/
structure Waits (interval deadline now : Nat) (fired : Option Nat) (before : List Round) (r : Round) :
    Prop where
  passed : ∀ b ∈ before, Passed interval deadline now fired b
  after : r.ended ≤ now
  within : now ≤ alarm interval deadline r ∨ now = r.ended
  cut : ∀ t, fired = some t → now = max t r.ended

theorem Waits.fire (h : Waits interval deadline now fired before r) :
    Waits interval deadline now (fired.or (some now)) before r := by
  refine ⟨fun b hb => (h.passed b hb).fire, h.after, h.within, fun t ht => ?_⟩
  rcases eq_or_of_or ht with ht | rfl
  · exact h.cut t ht
  · exact (Nat.max_eq_left h.after).symm

theorem Waits.over (h : Waits interval deadline now fired before r)
    (due : alarm interval deadline r ≤ now) : ∀ b ∈ before ++ [r], Passed interval deadline now fired b := by
  intro b hb
  rcases List.mem_append.1 hb with hb | hb
  · exact h.passed b hb
  · rw [List.mem_singleton.1 hb]
    exact ⟨due, fun t ht => h.cut t ht ▸ due⟩

def lastEnd (begin : Nat) (rounds : List Round) : Nat :=
  match rounds.getLast? with
  | none => begin
  | some r => r.ended

/-- What the time that a story takes is made up of. -/
structure Clock where
  now : Nat
  since : Nat
  waited : Nat
  fired : Option Nat
  rounds : List Round

def clock (s : Story) : Clock := ⟨s.now, s.since, s.waited, s.fired, s.rounds⟩

namespace Clock

variable {c : Clock}

/-- Time passes on the account of the present stage. -/
def wait (c : Clock) (nanos : Nat) : Clock :=
  { c with now := c.now + nanos, waited := c.waited + nanos }

def fire (c : Clock) : Clock := { c with fired := c.fired.or (some c.now) }

/-- An attempt goes on since the last pause was over. -/
structure Trying (begin interval deadline : Nat) (c : Clock) : Prop where
  now_eq : c.now = c.since + c.waited
  since_eq : c.since = opensAt begin interval c.rounds
  early : c.since < deadline
  passed : ∀ r ∈ c.rounds, Passed interval deadline c.now c.fired r

/-- The loop was left at the deadline or with a round, and a removal has gone on since then. -/
structure Leaving (begin interval deadline : Nat) (c : Clock) : Prop where
  now_eq : c.now = c.since + c.waited
  since_le : c.since ≤ max deadline (lastEnd begin c.rounds)
  passed : ∀ r ∈ c.rounds, r.result.removed = false → Passed interval deadline c.now c.fired r

/-- How the time stands at each stage. -/
def Stands (begin interval deadline : Nat) (c : Clock) : Stage → Prop
  | .attempting _ => c.Trying begin interval deadline
  | .pausing wakeAt =>
    ∃ before r, c.rounds = before ++ [r] ∧ wakeAt = alarm interval deadline r ∧
      Waits interval deadline c.now c.fired before r
  | .removing o _ => o ≠ .abandoned ∧ c.Leaving begin interval deadline
  | .ended .abandoned =>
    c.waited = 0 ∧ c.since = c.now ∧
      ∃ before r, c.rounds = before ++ [r] ∧ Waits interval deadline c.now c.fired before r
  | .ended _ => c.Leaving begin interval deadline

theorem Trying.wait (h : c.Trying begin interval deadline) (nanos : Nat) :
    (c.wait nanos).Trying begin interval deadline where
  now_eq := by simp only [Clock.wait, h.now_eq, Nat.add_assoc]
  since_eq := h.since_eq
  early := h.early
  passed r hr := (h.passed r hr).later (Nat.le_add_right _ _)

theorem Trying.fire (h : c.Trying begin interval deadline) :
    c.fire.Trying begin interval deadline where
  now_eq := h.now_eq
  since_eq := h.since_eq
  early := h.early
  passed r hr := (h.passed r hr).fire

theorem Leaving.wait (h : c.Leaving begin interval deadline) (nanos : Nat) :
    (c.wait nanos).Leaving begin interval deadline where
  now_eq := by simp only [Clock.wait, h.now_eq, Nat.add_assoc]
  since_le := h.since_le
  passed r hr kept := (h.passed r hr kept).later (Nat.le_add_right _ _)

theorem Leaving.fire (h : c.Leaving begin interval deadline) :
    c.fire.Leaving begin interval deadline where
  now_eq := h.now_eq
  since_le := h.since_le
  passed r hr kept := (h.passed r hr kept).fire

theorem Stands.fire {stage : Stage} (h : c.Stands begin interval deadline stage) :
    c.fire.Stands begin interval deadline stage := by
  cases stage with
  | attempting p => exact Trying.fire h
  | pausing wakeAt =>
    obtain ⟨before, r, rounds, alarm, w⟩ := h
    exact ⟨before, r, rounds, alarm, w.fire⟩
  | removing o p => exact ⟨h.1, h.2.fire⟩
  | ended o =>
    cases o with
    | abandoned =>
      obtain ⟨none, now_eq, before, r, rounds, w⟩ := h
      exact ⟨none, now_eq, before, r, rounds, w.fire⟩
    | completed | timedOut | alreadyProcessing | invalid => exact Leaving.fire h

end Clock

structure Paced (begin interval deadline : Nat) (s : Story) : Prop where
  deadline_eq : s.machine.deadline = deadline
  interval_eq : s.machine.interval = interval
  regular : Regular begin interval deadline s.rounds
  armed : s.abandoned = s.fired.isSome
  heard : ∀ t, s.fired = some t → t ≤ s.now
  busy : s.waiting → ∃ call next, s.machine.call? = some ⟨call, next⟩
  stands : s.clock.Stands begin interval deadline s.machine.stage

namespace Paced

variable (h : s.Paced begin interval deadline)
include h

/-- While the finalization waits for an answer, time is on its account. -/
theorem wait (waits : s.waiting) (nanos : Nat) :
    (s.clock.wait nanos).Stands begin interval deadline s.machine.stage := by
  have c := h.stands
  obtain ⟨call, next, pending⟩ := h.busy waits
  rcases call?_eq_some pending with ⟨rest, stage, -⟩ | ⟨o, rest, stage, -⟩
  · rw [stage] at c ⊢
    exact Clock.Trying.wait c nanos
  · rw [stage] at c ⊢
    exact ⟨c.1, c.2.wait nanos⟩

/-- A pause goes on until its end, as long as the token has not fired. -/
theorem rest {nanos wakeAt : Nat} (stage : s.machine.stage = .pausing wakeAt)
    (armed : s.abandoned = false) (le : s.now + nanos ≤ wakeAt) :
    { s.clock with now := s.now + nanos }.Stands begin interval deadline s.machine.stage := by
  have c := h.stands
  rw [stage] at c ⊢
  obtain ⟨before, r, rounds, rfl, w⟩ := c
  have unfired : s.fired = none := by simpa [h.armed] using armed
  refine ⟨before, r, rounds, rfl, fun b hb => ?_, ?_, Or.inl le, ?_⟩
  · exact (w.passed b hb).later (Nat.le_add_right _ _)
  · exact Nat.le_trans w.after (Nat.le_add_right _ _)
  · simp [clock, unfired]

theorem pass {nanos : Nat} (may : s.mayPass nanos) :
    { s with
      now := s.now + nanos
      waited := s.waited + if s.waiting then nanos else 0 }.clock.Stands begin interval deadline
        s.machine.stage := by
  by_cases waits : s.waiting
  · rw [if_pos waits]
    exact h.wait waits nanos
  · rw [if_neg waits]
    cases stage : s.machine.stage with
    | pausing wakeAt =>
      obtain ⟨armed, le⟩ : s.abandoned = false ∧ s.now + nanos ≤ wakeAt := by
        simpa [mayPass, waits, stage] using may
      exact stage ▸ h.rest stage armed le
    | attempting | removing | ended => simp [mayPass, waits, stage] at may

theorem idle (none : s.machine.call? = none) : ¬ s.waiting := by
  intro waits
  obtain ⟨call, next, pending⟩ := h.busy waits
  simp [none] at pending

/-- What an attempt at its end adds to the rounds. -/
theorem conclude {result : Attempt} (stage : s.machine.stage = .attempting (.done result)) :
    Regular begin interval deadline (s.conclude result).rounds ∧
      Waits interval deadline s.now s.fired s.rounds ⟨s.since, s.now, s.calls, result⟩ := by
  have c := h.stands
  rw [stage] at c
  have ordered : s.since ≤ s.now := by
    have sum : s.now = s.since + s.waited := c.now_eq
    omega
  refine ⟨forall_split_snoc h.regular ⟨c.since_eq, c.early, ordered⟩, c.passed, Nat.le_refl _,
    Or.inr rfl, fun t ht => ?_⟩
  exact (Nat.max_eq_right (h.heard t ht)).symm

end Paced

theorem Waits.le (h : Waits interval deadline now fired before r) : now ≤ max deadline r.ended := by
  have within := h.within
  unfold alarm at within
  omega

/-- A pause that is over before the deadline ends exactly then. -/
theorem Waits.now_eq (spaced : 0 < interval) (h : Waits interval deadline now fired before r)
    (due : alarm interval deadline r ≤ now) (early : now < deadline) :
    now = Duration.endOfWait r.ended interval := by
  have within := h.within
  have gap := pos_gap spaced
  unfold alarm Duration.endOfWait at *
  omega

theorem lastEnd_snoc : lastEnd begin (rounds ++ [r]) = r.ended := by simp [lastEnd]

theorem Paced.turn (spaced : 0 < interval) (h : s.Paced begin interval deadline)
    (turn : Turn true s a s') : s'.Paced begin interval deadline := by
  have hd : s'.machine.deadline = deadline :=
    (congrArg (·.2.2.1) turn.setup).trans h.deadline_eq
  have hi : s'.machine.interval = interval :=
    (congrArg (·.2.2.2) turn.setup).trans h.interval_eq
  have c := h.stands
  cases turn with
  | pass may =>
    exact ⟨hd, hi, h.regular, h.armed, fun t ht => Nat.le_trans (h.heard t ht) (Nat.le_add_right _ _),
      h.busy, h.pass (may rfl)⟩
  | fire =>
    refine ⟨hd, hi, h.regular, ?_, fun t ht => ?_, h.busy, c.fire⟩
    · cases s.fired <;> rfl
    · rcases eq_or_of_or ht with ht | rfl
      · exact h.heard t ht
      · exact Nat.le_refl _
  | issue free pending => exact ⟨hd, hi, h.regular, h.armed, h.heard, fun _ => ⟨_, _, pending⟩, c⟩
  | answer waits pending =>
    rcases call?_eq_some pending with ⟨rest, stage, rfl⟩ | ⟨o, rest, stage, rfl⟩
    · rw [stage] at c
      exact ⟨hd, hi, h.regular, h.armed, h.heard, by rintro ⟨⟩, c⟩
    · rw [stage] at c
      exact ⟨hd, hi, h.regular, h.armed, h.heard, by rintro ⟨⟩, c⟩
  | complete stage removed =>
    obtain ⟨regular, w⟩ := h.conclude stage
    refine ⟨hd, hi, regular, h.armed, h.heard, fun waits => ?_, by decide, rfl, ?_, ?_⟩
    · exact absurd waits (h.idle (by simp [call?, stage]))
    · change s.now ≤ max deadline (lastEnd begin (s.rounds ++ [_]))
      rw [lastEnd_snoc]
      exact w.le
    · intro r hr kept
      rcases List.mem_append.1 hr with hr | hr
      · exact w.passed r hr
      · rw [List.mem_singleton.1 hr] at kept
        exact absurd (kept.symm.trans removed) Bool.false_ne_true
  | desist stage kept fired =>
    obtain ⟨regular, w⟩ := h.conclude stage
    refine ⟨hd, hi, regular, h.armed, h.heard, fun waits => ?_, rfl, rfl, _, _, rfl, w⟩
    exact absurd waits (h.idle (by simp [call?, stage]))
  | pause stage kept =>
    obtain ⟨regular, w⟩ := h.conclude stage
    refine ⟨hd, hi, regular, h.armed, h.heard, fun waits => ?_, _, _, rfl, ?_, w⟩
    · exact absurd waits (h.idle (by simp [call?, stage]))
    · rw [h.interval_eq, h.deadline_eq]
      rfl
  | @close o _ _ stage =>
    rw [stage] at c
    refine ⟨hd, hi, h.regular, h.armed, h.heard, fun waits => ?_, ?_⟩
    · exact absurd waits (h.idle (by simp [call?, stage]))
    · cases o with
      | abandoned => exact absurd rfl c.1
      | completed | timedOut | alreadyProcessing | invalid => exact c.2
  | expire stage due late =>
    rw [stage] at c
    obtain ⟨before, r, rounds, rfl, w⟩ := c
    have passed := w.over due
    refine ⟨hd, hi, h.regular, h.armed, h.heard, fun waits => ?_, by decide, rfl, ?_, ?_⟩
    · exact absurd waits (h.idle (by simp [call?, stage]))
    · change s.now ≤ max deadline (lastEnd begin s.rounds)
      have last : s.rounds = before ++ [r] := rounds
      rw [last, lastEnd_snoc]
      exact w.le
    · intro b hb _
      exact passed b (rounds ▸ hb)
  | again stage due early =>
    rw [stage] at c
    obtain ⟨before, r, rounds, rfl, w⟩ := c
    have passed := w.over due
    have early : s.now < deadline := h.deadline_eq ▸ early
    refine ⟨hd, hi, h.regular, h.armed, h.heard, fun waits => ?_, rfl, ?_, early, ?_⟩
    · exact absurd waits (h.idle (by simp [call?, stage]))
    · change s.now = opensAt begin interval s.rounds
      have last : s.rounds = before ++ [r] := rounds
      rw [last, opensAt_snoc]
      exact w.now_eq spaced due early
    · intro b hb
      exact passed b (rounds ▸ hb)
  | giveUp stage fired =>
    rw [stage] at c
    obtain ⟨before, r, rounds, -, w⟩ := c
    refine ⟨hd, hi, h.regular, h.armed, h.heard, fun waits => ?_, rfl, rfl, before, r, rounds, w⟩
    exact absurd waits (h.idle (by simp [call?, stage]))

/-! ## Steps that are left -/

variable {role : Role} {key : ObjectKey} {most : Nat}

/-- What a finalization does by itself, or because it has been answered. -/
def own : Action → Bool
  | .pass _ | .cancel => false
  | .issue | .answer _ | .proceed _ | .wake | .abandon => true

/-- A stage that makes at most `calls` calls takes two steps for each of them and one to end. -/
def stepsLeft (calls : Nat) (s : Story) : Nat :=
  2 * (calls - s.calls.length) - (if s.waiting then 1 else 0) + 1

/-- The most steps that are left when there are at most so many rounds. -/
def todo (most : Nat) (s : Story) : Stage → Nat
  | .attempting _ => s.stepsLeft 12 + (26 * (most - (s.rounds.length + 1)) + 22)
  | .pausing _ => 26 * (most - s.rounds.length) + 22
  | .removing _ _ => s.stepsLeft 10
  | .ended _ => 0

theorem Accounted.calls_lt_of_attempting {call : Call} {next : call.Answer → Program Attempt}
    (h : s.Accounted role key deadline) (stage : s.machine.stage = .attempting (.ask call next)) :
    s.calls.length < 12 :=
  (h.attempting stage).2.length_lt sealed fun _ _ run => (effort_of_yields run).length_le

theorem Accounted.calls_lt_of_removing {call : Call} {o : Outcome}
    {next : call.Answer → Program (Except Fault Unit)} (h : s.Accounted role key deadline)
    (stage : s.machine.stage = .removing o (.ask call next)) : s.calls.length < 10 :=
  (h.removing stage).2.2.length_lt sealed fun _ _ run => (removal_of_yields run).length_le

theorem stepsLeft_enter (s : Story) (f : Finalization) (calls : Nat) :
    (s.enter f).stepsLeft calls ≤ 2 * calls + 1 := by
  have none : (s.enter f).calls.length = 0 := rfl
  unfold stepsLeft
  omega

theorem stepsLeft_pos (s : Story) (calls : Nat) : 0 < s.stepsLeft calls := Nat.succ_pos _

/-- Each own step leaves fewer of them. -/
theorem todo_turn {timeout : Nat} (h : s.Accounted role key (begin + timeout))
    (paced : s.Paced begin interval (begin + timeout)) (spaced : 0 < interval)
    (most : Nat) (enough : timeout ⌈/⌉ min interval Duration.thirtyYears ≤ most)
    (turn : Turn true s a s') :
    s'.todo most s'.machine.stage + (if own a then 1 else 0) ≤ s.todo most s.machine.stage := by
  cases turn with
  | pass | fire => exact Nat.le_refl _
  | issue free pending =>
    rcases call?_eq_some pending with ⟨rest, stage, -⟩ | ⟨o, rest, stage, -⟩
    · have few := h.calls_lt_of_attempting stage
      simp only [stage, todo, stepsLeft, free, own, if_true, if_false, Bool.false_eq_true]
      omega
    · have few := h.calls_lt_of_removing stage
      simp only [stage, todo, stepsLeft, free, own, if_true, if_false, Bool.false_eq_true]
      omega
  | answer waits pending =>
    rcases call?_eq_some pending with ⟨rest, stage, rfl⟩ | ⟨o, rest, stage, rfl⟩
    · have few := h.calls_lt_of_attempting stage
      simp only [stage, todo, stepsLeft, waits, own, if_true, if_false, Bool.false_eq_true,
        List.length_append, List.length_singleton]
      omega
    · have few := h.calls_lt_of_removing stage
      simp only [stage, todo, stepsLeft, waits, own, if_true, if_false, Bool.false_eq_true,
        List.length_append, List.length_singleton]
      omega
  | complete stage removed =>
    rw [stage]
    refine Nat.le_trans (Nat.add_le_add_right (stepsLeft_enter (s.conclude _) _ 10) 1) ?_
    have pos := s.stepsLeft_pos 12
    simp only [todo]
    omega
  | desist stage kept fired =>
    rw [stage]
    exact Nat.le_trans (s.stepsLeft_pos 12) (Nat.le_add_right _ _)
  | pause stage kept =>
    rw [stage]
    have pos := s.stepsLeft_pos 12
    simp only [todo, own, if_true, enter, conclude, List.length_append, List.length_singleton]
    omega
  | close stage =>
    rw [stage]
    exact s.stepsLeft_pos 10
  | expire stage due late =>
    rw [stage]
    refine Nat.le_trans (Nat.add_le_add_right (stepsLeft_enter s _ 10) 1) ?_
    simp only [todo]
    omega
  | again stage due early =>
    have c := paced.stands
    rw [stage] at c ⊢
    obtain ⟨before, r, rounds, rfl, w⟩ := c
    -- The round that begins now is one of those that there can be.
    have begins : opensAt begin interval s.rounds < begin + timeout := by
      have early : s.now < begin + timeout := paced.deadline_eq ▸ early
      have last : s.rounds = before ++ [r] := rounds
      rw [last, opensAt_snoc, ← w.now_eq spaced due early]
      exact early
    have room := paced.regular.length_lt spaced begins
    have fresh := stepsLeft_enter s { s.machine with
      attempts := s.machine.attempts + 1
      stage := .attempting (attempt s.machine.role s.machine.key s.machine.roleDeleted) } 12
    refine Nat.le_trans (Nat.add_le_add_right (Nat.add_le_add_right fresh _) 1) ?_
    simp only [todo, enter]
    omega
  | giveUp stage fired =>
    rw [stage]
    change 0 + 1 ≤ 26 * (most - s.rounds.length) + 22
    omega

/-! ## Going on -/

section Possible

variable {c : Course} {call : Call} {next : call.Answer → Finalization}

theorem step_eq (may : s.may timed a) (h : s.toCourse.step a = some c) :
    step timed s a = some (s.record c a) := by
  rw [step, if_pos may, h]
  rfl

theorem step_issue (free : ¬ s.waiting) (pending : s.machine.call? = some ⟨call, next⟩) :
    ∃ s', step timed s .issue = some s' := by
  refine ⟨_, step_eq rfl (c := { s.toCourse with
    waiting := true, marks := s.marks ++ [.issued s.now call] }) ?_⟩
  rw [Course.step, if_neg free, pending]
  rfl

theorem step_answer (waits : s.waiting) (pending : s.machine.call? = some ⟨call, next⟩)
    (reply : (c : Call) → c.Answer) : ∃ s', step timed s (.answer reply) = some s' := by
  refine ⟨_, step_eq rfl (c := { s.toCourse with
    machine := next (reply call), waiting := false
    marks := s.marks ++ [.returned s.now call (reply call)] }) ?_⟩
  rw [Course.step, if_pos waits, pending]
  rfl

theorem step_proceed (may : s.may timed (.proceed false)) :
    ∃ s', step timed s (.proceed false) = some s' := ⟨_, step_eq may rfl⟩

end Possible

/-- A story that is not over goes on, at once or after some time. It takes any time and any answer where
it waits for one. -/
def GoesOn (s : Story) : Prop :=
  ∀ nanos reply, ∃ waits a s', run true s (waits ++ [a]) = some s' ∧ own a ∧
    (waits = [] ∨ ∃ n, waits = [.pass n]) ∧
    (s.waiting → waits = [.pass nanos] ∧ a = .answer reply)

theorem goesOn_of_step (free : ¬ s.waiting) (mine : own a) (h : ∃ s', step true s a = some s') :
    s.GoesOn := by
  intro nanos reply
  obtain ⟨s', hs⟩ := h
  refine ⟨[], a, s', ?_, mine, Or.inl rfl, fun waits => absurd waits free⟩
  rw [List.nil_append, run, hs]
  rfl

/-- Some time later. -/
def later (s : Story) (nanos : Nat) : Story :=
  s.record { s.toCourse with now := s.now + nanos } (.pass nanos)

theorem run_pass {nanos : Nat} (may : s.mayPass nanos)
    (h : ∃ s', step true (s.later nanos) a = some s') :
    ∃ s', run true s ([.pass nanos] ++ [a]) = some s' := by
  obtain ⟨s', hs⟩ := h
  have first : step true s (.pass nanos) = some (s.later nanos) := step_eq may rfl
  refine ⟨s', ?_⟩
  rw [List.singleton_append, run, first, Option.bind_some, run, hs]
  rfl

/-- Between two rounds it gives up, enters the next round, or lets the rest of the pause go by. -/
theorem goesOn_pausing {wakeAt : Nat} (free : ¬ s.waiting)
    (stage : s.machine.stage = .pausing wakeAt) : s.GoesOn := by
  by_cases fired : s.abandoned
  · refine goesOn_of_step (a := .abandon) free rfl ⟨_, step_eq (by simp [may, stage]) (if_pos fired)⟩
  · intro nanos reply
    by_cases due : wakeAt ≤ s.now
    · have wakes : step true s .wake = some _ := step_eq (by simpa [may, stage] using due) rfl
      exact goesOn_of_step free rfl ⟨_, wakes⟩ nanos reply
    · have sum : s.now + (wakeAt - s.now) = wakeAt := by omega
      have rests : s.mayPass (wakeAt - s.now) := by simp [mayPass, stage, fired, sum]
      obtain ⟨s', hr⟩ := run_pass (a := .wake) rests
        ⟨_, step_eq (by simp [may, later, record, stage, sum]) rfl⟩
      exact ⟨_, .wake, s', hr, rfl, Or.inr ⟨_, rfl⟩, fun waits => absurd waits free⟩

theorem Paced.goesOn (h : s.Paced begin interval deadline) (unended : s.machine.outcome? = none) :
    s.GoesOn := by
  by_cases waits : s.waiting
  · intro nanos reply
    obtain ⟨call, next, pending⟩ := h.busy waits
    have may : s.mayPass nanos := by simp [mayPass, waits]
    obtain ⟨s', hr⟩ := run_pass may (step_answer (s := s.later nanos) waits pending reply)
    exact ⟨_, _, s', hr, rfl, Or.inr ⟨nanos, rfl⟩, fun _ => ⟨rfl, rfl⟩⟩
  · cases stage : s.machine.stage with
    | attempting p =>
      cases p with
      | ask call rest =>
        obtain ⟨next, pending⟩ : ∃ next, s.machine.call? = some ⟨call, next⟩ :=
          ⟨_, by rw [call?, stage]⟩
        exact goesOn_of_step waits rfl (step_issue waits pending)
      | done r => exact goesOn_of_step waits rfl (step_proceed (by simp [may, stage]))
    | removing o p =>
      cases p with
      | ask call rest =>
        obtain ⟨next, pending⟩ : ∃ next, s.machine.call? = some ⟨call, next⟩ :=
          ⟨_, by rw [call?, stage]⟩
        exact goesOn_of_step waits rfl (step_issue waits pending)
      | done r => exact goesOn_of_step waits rfl (step_proceed (by simp [may, stage]))
    | pausing wakeAt => exact goesOn_pausing waits stage
    | ended o => simp [Finalization.outcome?, stage] at unended

/-! ## Whole finalizations -/

variable {settings : FinalizationSettings} {registry : Registry} {actions : List Action}
  {o : Outcome}

theorem paced_opening :
    (opening ((initial settings begin role key).enterLoop begin) begin).Paced begin
      settings.interval.nanos (begin + settings.timeout.nanos) := by
  have regular : Regular begin settings.interval.nanos (begin + settings.timeout.nanos) [] := by
    intro before r after he
    simp at he
  unfold enterLoop
  split
  · refine ⟨rfl, rfl, regular, rfl, by rintro t ⟨⟩, by rintro ⟨⟩, by decide, rfl, ?_, ?_⟩
    · exact Nat.le_max_right _ _
    · intro r hr
      cases hr
  · next early =>
    refine ⟨rfl, rfl, regular, rfl, by rintro t ⟨⟩, by rintro ⟨⟩, rfl, rfl, ?_, ?_⟩
    · exact Nat.lt_of_not_le early
    · intro r hr
      cases hr

/-- The rounds keep to the interval and to the deadline. -/
structure Punctual (settings : FinalizationSettings) (begin : Nat) (s : Story) : Prop where
  early : ∀ r ∈ s.rounds, r.began < begin + settings.timeout.nanos
  spaced : ∀ before r r' after, s.rounds = before ++ r :: r' :: after →
    r'.began = Duration.endOfWait r.ended settings.interval.nanos
  few : s.rounds.length ≤
    settings.timeout.nanos ⌈/⌉ min settings.interval.nanos Duration.thirtyYears
  /-- No pause is cut short if it or the timeout takes thirty years at most. -/
  exact : settings.interval.nanos ≤ Duration.thirtyYears ∨
      settings.timeout.nanos ≤ Duration.thirtyYears →
    (∀ before r r' after, s.rounds = before ++ r :: r' :: after →
      r'.began = r.ended + settings.interval.nanos) ∧
    s.rounds.length ≤ settings.timeout.nanos ⌈/⌉ settings.interval.nanos

/-- When a finalization returns. -/
structure Returns (settings : FinalizationSettings) (begin : Nat) (s : Story) (o : Outcome) :
    Prop where
  left : s.since ≤ max (begin + settings.timeout.nanos) (lastEnd begin s.rounds)
  /-- From then on it has only waited for the calls of its last removal. -/
  now_eq : s.now = s.since + s.waited
  quiet : o = .abandoned → s.waited = 0
  /-- The token fires during a round, or in the pause after it. -/
  during : ∀ r ∈ s.rounds, r.result.removed = false → ∀ t, s.fired = some t →
    t ≤ r.ended → r.ended < begin + settings.timeout.nanos → o = .abandoned ∧ s.now = r.ended
  between : ∀ r ∈ s.rounds, r.result.removed = false → ∀ t, s.fired = some t →
    r.ended ≤ t → t < Duration.endOfWait r.ended settings.interval.nanos →
    t < begin + settings.timeout.nanos → o = .abandoned ∧ s.now = t

theorem Regular.began {r' : Round} {after : List Round}
    (h : Regular begin interval deadline rounds) (he : rounds = before ++ r :: r' :: after) :
    r'.began = Duration.endOfWait r.ended interval := by
  have next := (h (before ++ [r]) r' after (by simp [he])).1
  rwa [opensAt_snoc] at next

theorem Regular.begin_le {after : List Round} (h : Regular begin interval deadline rounds)
    (he : rounds = before ++ r :: after) : begin ≤ r.ended := by
  have earlier : Regular begin interval deadline before := by
    intro before' r' after' he'
    exact h before' r' (after' ++ r :: after) (by simp [he, he'])
  obtain ⟨began, -, ordered⟩ := h before r after he
  have sum := earlier.length_mul_le
  omega

/-- Within thirty years a pause that was cut would reach beyond the deadline. -/
theorem Regular.exact {timeout : Nat} {r' : Round} {after : List Round}
    (h : Regular begin interval (begin + timeout) rounds)
    (short : interval ≤ Duration.thirtyYears ∨ timeout ≤ Duration.thirtyYears)
    (he : rounds = before ++ r :: r' :: after) : r'.began = r.ended + interval := by
  have began := h.began he
  have early := (h (before ++ [r]) r' after (by simp [he])).2.1
  have late := h.begin_le he
  unfold Duration.endOfWait at began
  omega

theorem ceilDiv_min_le {timeout : Nat} (spaced : 0 < interval)
    (short : interval ≤ Duration.thirtyYears ∨ timeout ≤ Duration.thirtyYears) :
    timeout ⌈/⌉ min interval Duration.thirtyYears ≤ timeout ⌈/⌉ interval := by
  rcases Nat.lt_or_ge Duration.thirtyYears interval with long | le
  · rw [Nat.min_eq_right (Nat.le_of_lt long), ceilDiv_le_iff_le_mul (by decide)]
    rcases Nat.eq_zero_or_pos timeout with rfl | pos
    · exact Nat.zero_le _
    · have one : 0 < timeout ⌈/⌉ interval := lt_ceilDiv spaced (by omega)
      have short : timeout ≤ Duration.thirtyYears := by omega
      exact Nat.le_trans short (Nat.le_mul_of_pos_right _ one)
  · rw [Nat.min_eq_left le]

theorem Paced.punctual (spaced : 0 < settings.interval.nanos)
    (h : s.Paced begin settings.interval.nanos (begin + settings.timeout.nanos)) :
    s.Punctual settings begin where
  early r hr := by
    obtain ⟨before, after, he⟩ := List.append_of_mem hr
    exact (h.regular before r after he).2.1
  spaced before r r' after he := h.regular.began he
  few := h.regular.length_le spaced
  exact short := by
    refine ⟨fun before r r' after he => h.regular.exact short he, ?_⟩
    exact Nat.le_trans (h.regular.length_le spaced) (ceilDiv_min_le spaced short)

/-- The token has not fired by the end of a pause that has passed. -/
theorem Passed.not_fired {t : Nat} (h : Passed interval deadline now fired r) (ht : fired = some t)
    (soon : max t r.ended < alarm interval deadline r) : False := by
  have unbroken := h.unbroken t ht
  omega

theorem lt_alarm_during {t : Nat} (spaced : 0 < interval) (le : t ≤ r.ended)
    (early : r.ended < deadline) : max t r.ended < alarm interval deadline r := by
  have gap := pos_gap spaced
  unfold alarm Duration.endOfWait
  omega

theorem lt_alarm_between {t : Nat} (le : r.ended ≤ t)
    (soon : t < Duration.endOfWait r.ended interval) (early : t < deadline) :
    max t r.ended < alarm interval deadline r := by
  unfold alarm
  omega

/-- What becomes of a finalization whose token fires before the pause after a round is over. -/
theorem Paced.cut {t : Nat} (h : s.Paced begin interval deadline)
    (ends : s.machine.outcome? = some o) (hr : r ∈ s.rounds) (kept : r.result.removed = false)
    (ht : s.fired = some t) (soon : max t r.ended < alarm interval deadline r) :
    o = .abandoned ∧ s.now = max t r.ended := by
  have c := h.stands
  rw [outcome?_eq_some.1 ends] at c
  cases o with
  | abandoned =>
    obtain ⟨-, -, before, last, rounds, w⟩ := c
    have listed : r ∈ before ++ [last] := rounds ▸ hr
    rcases List.mem_append.1 listed with earlier | now
    · exact ((w.passed r earlier).not_fired ht soon).elim
    · obtain rfl := List.mem_singleton.1 now
      exact ⟨rfl, w.cut t ht⟩
  | completed | timedOut | alreadyProcessing | invalid =>
    exact ((c.passed r hr kept).not_fired ht soon).elim

theorem Paced.returns (spaced : 0 < settings.interval.nanos)
    (h : s.Paced begin settings.interval.nanos (begin + settings.timeout.nanos))
    (ends : s.machine.outcome? = some o) : s.Returns settings begin o := by
  have c := h.stands
  rw [outcome?_eq_some.1 ends] at c
  obtain ⟨left, now_eq, quiet⟩ : s.since ≤ max (begin + settings.timeout.nanos)
      (lastEnd begin s.rounds) ∧ s.now = s.since + s.waited ∧ (o = .abandoned → s.waited = 0) := by
    cases o with
    | abandoned =>
      obtain ⟨none, since_eq, before, r, rounds, w⟩ := c
      have last : s.rounds = before ++ [r] := rounds
      have since_eq : s.since = s.now := since_eq
      have none : s.waited = 0 := none
      rw [last, lastEnd_snoc, since_eq, none]
      exact ⟨w.le, rfl, fun _ => rfl⟩
    | completed | timedOut | alreadyProcessing | invalid =>
      exact ⟨c.since_le, c.now_eq, by rintro ⟨⟩⟩
  refine ⟨left, now_eq, quiet, fun r hr kept t ht le early => ?_, fun r hr kept t ht le soon early => ?_⟩
  · obtain ⟨ho, now⟩ := h.cut ends hr kept ht (lt_alarm_during spaced le early)
    exact ⟨ho, now.trans (Nat.max_eq_right le)⟩
  · obtain ⟨ho, now⟩ := h.cut ends hr kept ht (lt_alarm_between le soon early)
    exact ⟨ho, now.trans (Nat.max_eq_left le)⟩

/-- Both accounts of a story, of its calls and of its times. -/
structure Tracked (settings : FinalizationSettings) (begin : Nat) (role : Role) (key : ObjectKey)
    (s : Story) : Prop where
  accounted : s.Accounted role key (begin + settings.timeout.nanos)
  paced : s.Paced begin settings.interval.nanos (begin + settings.timeout.nanos)

theorem Tracked.step (spaced : 0 < settings.interval.nanos)
    (h : s.Tracked settings begin role key) (hs : step true s a = some s') :
    s'.Tracked settings begin role key :=
  ⟨h.accounted.turn (turn_of_step hs), h.paced.turn spaced (turn_of_step hs)⟩

theorem tracked_opening :
    (opening ((initial settings begin role key).enterLoop begin) begin).Tracked settings begin
      role key := ⟨accounted_opening, paced_opening⟩

/-- The most steps that there are at the beginning. -/
theorem todo_opening (spaced : 0 < interval) {timeout : Nat} {f : Finalization}
    (deadline : f.deadline = begin + timeout)
    (enough : timeout ⌈/⌉ min interval Duration.thirtyYears = most) :
    (opening (f.enterLoop begin) begin).todo most (f.enterLoop begin).stage ≤ 26 * most + 21 := by
  unfold enterLoop
  split
  · exact Nat.le_add_left 21 _
  · have one : 0 < timeout ⌈/⌉ min interval Duration.thirtyYears :=
      lt_ceilDiv (pos_gap spaced) (by omega)
    change 25 + (26 * (most - 1) + 22) ≤ 26 * most + 21
    omega

variable (begin) in
/-- A finalization that is not turned away, and whose deadline the clock can show, comes to its end: it
takes a bounded number of steps, and as long as it is not over it can take one. Its rounds and its
return keep to the interval and the deadline, and the token ends it as soon as it is heard. -/
theorem ends_in_time (named : role.metadata.key? = some key)
    (free : role.finalizationId ∉ registry.ids) (spaced : 0 < settings.interval.nanos)
    (shown : begin + settings.timeout.nanos ≤ Duration.lastInstant) :
    ∃ f, (launch settings begin registry role).1 = some (.ok f) ∧
      ∀ actions s, run true (opening f begin) actions = some s →
        s.Punctual settings begin ∧
        actions.countP own ≤
          26 * (settings.timeout.nanos ⌈/⌉ min settings.interval.nanos Duration.thirtyYears) + 21 ∧
        (s.machine.outcome? = none → s.GoesOn) ∧
        ∀ o, s.machine.outcome? = some o → s.Returns settings begin o := by
  refine ⟨_, (launch_ok named free).trans (if_pos shown), fun actions s told => ?_⟩
  have start : (opening ((initial settings begin role key).enterLoop begin) begin).Tracked settings
      begin role key := tracked_opening
  have tracked := (stepwise true).keeps (fun h hs => Tracked.step spaced h hs) start told
  have counted := (stepwise true).countP_le
    (fun h hs => ⟨Tracked.step spaced h hs,
      todo_turn h.accounted h.paced spaced _ (Nat.le_refl _) (turn_of_step hs)⟩) start told
  refine ⟨tracked.paced.punctual spaced, ?_, tracked.paced.goesOn,
    fun o => tracked.paced.returns spaced⟩
  exact Nat.le_trans (Nat.le_of_add_right_le counted) (todo_opening spaced rfl rfl)

/-- Half a minute in steps of five seconds leaves room for six rounds. -/
theorem departing_ends :
    departing.metadata.key? = some ⟨some "demo", "reader"⟩ ∧
      departing.finalizationId ∉ ({} : Registry).ids ∧
      0 < ({} : FinalizationSettings).interval.nanos ∧
      0 + ({} : FinalizationSettings).timeout.nanos ≤ Duration.lastInstant ∧
      ∃ f, (launch {} 0 {} departing).1 = some (.ok f) ∧
        ∀ actions s, run true (opening f 0) actions = some s →
          s.rounds.length ≤ 6 ∧ actions.countP own ≤ 177 ∧
          (s.machine.outcome? = none → s.GoesOn) ∧
          ∀ o, s.machine.outcome? = some o → s.Returns {} 0 o := by
  have named : departing.metadata.key? = some ⟨some "demo", "reader"⟩ := rfl
  have free : departing.finalizationId ∉ ({} : Registry).ids := List.not_mem_nil
  have spaced : 0 < ({} : FinalizationSettings).interval.nanos := by decide
  have shown : 0 + ({} : FinalizationSettings).timeout.nanos ≤ Duration.lastInstant := by decide
  obtain ⟨f, launched, always⟩ := ends_in_time 0 named free spaced shown
  refine ⟨named, free, spaced, shown, f, launched, fun actions s told => ?_⟩
  obtain ⟨punctual, steps, onward, returns⟩ := always actions s told
  exact ⟨punctual.few, steps, onward, returns⟩

/-- An interval and a timeout of more than thirty years each. -/
def patient : FinalizationSettings where
  timeout := .ofMillis 1000000000000
  interval := .ofMillis 9223372036854775808

def overslept : List Action :=
  calling 2 sealed ++ [.proceed false, .pass Duration.thirtyYears, .wake] ++
    calling 2 sealed ++ [.proceed false]

/-- A pause of more than thirty years is cut, so that the next round begins before the interval is
over. -/
theorem interval_cut : ¬ ∀ settings begin registry role f actions s before r r' after,
    (launch settings begin registry role).1 = some (.ok f) → 0 < settings.interval.nanos →
    run true (opening f begin) actions = some s → s.rounds = before ++ r :: r' :: after →
    r'.began = r.ended + settings.interval.nanos := by
  intro always
  let f := (initial patient 0 departing ⟨some "demo", "reader"⟩).enterLoop 0
  have launched : (launch patient 0 {} departing).1 = some (.ok f) :=
    (launch_ok rfl List.not_mem_nil).trans (if_pos (by decide))
  have times : (run true (opening f 0) overslept).map
      (fun s => s.rounds.map fun r => (r.began, r.ended)) =
        some [(0, 0), (946080000000000000, 946080000000000000)] := by
    decide +kernel
  obtain ⟨s, told, he⟩ := Option.map_eq_some_iff.1 times
  obtain ⟨r, rest, rounds, first, hrest⟩ := List.map_eq_cons_iff.1 he
  obtain ⟨r', after, rfl, second, hafter⟩ := List.map_eq_cons_iff.1 hrest
  have long : 0 < patient.interval.nanos := by decide
  have gap := always patient 0 {} departing f overslept s [] r r' after launched long told rounds
  obtain ⟨-, ended⟩ := Prod.mk.inj first
  obtain ⟨began, -⟩ := Prod.mk.inj second
  rw [began, ended] at gap
  exact absurd gap (by decide)

end RoleOperator.Finalization.Story
