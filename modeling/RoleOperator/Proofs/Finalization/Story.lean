import RoleOperator.Proofs.Finalization.Course
import RoleOperator.Proofs.Program.Runs
import RoleOperator.Proofs.Stepwise

/-!
# Story of a finalization

A course together with what has come of it: the rounds of its loop, the times at which the deadline was
looked at, and when the token fired and ended a wait. A story takes only steps that do something. In a
timed one, time passes only where a finalization has to wait, for an answer or in its pause.
-/
namespace RoleOperator.Finalization

/-- An attempt that is over. -/
structure Round where
  began : Nat
  ended : Nat
  calls : List Exchange
  result : Attempt

/-- What has happened in the loop: when the deadline was looked at, what the attempts have done, and when
the token has ended a wait. -/
structure Log where
  passes : List Nat := []
  rounds : List Round := []
  gaveUp : Option Nat := none

/-- The present stage has begun at `since`. Since then it has waited for answers for so long, and has
made these calls. `fired` is when the token fired first. -/
structure Story extends Course, Log where
  since : Nat
  waited : Nat := 0
  calls : List Exchange := []
  fired : Option Nat := none

namespace Story

/-- A finalization that has just entered its loop. -/
def opening (f : Finalization) (begin : Nat) : Story where
  machine := f
  now := begin
  since := begin
  passes := [begin]

def mayPass (s : Story) (nanos : Nat) : Bool :=
  s.waiting || match s.machine.stage with
    | .pausing wakeAt => !s.abandoned && s.now + nanos ≤ wakeAt
    | _ => false

/-- Whether there is a point in the step. -/
def may (timed : Bool) (s : Story) : Action → Bool
  | .pass nanos => !timed || s.mayPass nanos
  | .cancel | .issue | .answer _ => true
  | .proceed _ =>
    match s.machine.stage with
    | .attempting (.done _) | .removing _ (.done _) => true
    | _ => false
  | .wake =>
    match s.machine.stage with
    | .pausing wakeAt => wakeAt ≤ s.now
    | _ => false
  | .abandon =>
    match s.machine.stage with
    | .pausing _ => true
    | _ => false

/-- A new stage begins. -/
def enter (s : Story) (f : Finalization) : Story :=
  { s with machine := f, since := s.now, waited := 0, calls := [] }

/-- The attempt is over. -/
def conclude (s : Story) (r : Attempt) : Story :=
  { s with rounds := s.rounds ++ [⟨s.since, s.now, s.calls, r⟩] }

/-- What is noted of a step that leads to `c`. -/
def record (s : Story) (c : Course) : Action → Story
  | .pass nanos => { s with toCourse := c, waited := s.waited + if s.waiting then nanos else 0 }
  | .cancel => { s with toCourse := c, fired := s.fired.or (some s.now) }
  | .issue => { s with toCourse := c }
  | .answer reply =>
    match s.machine.call? with
    | some ⟨call, _⟩ => { s with toCourse := c, calls := s.calls ++ [⟨call, reply call⟩] }
    | none => s
  | .proceed noticed =>
    match s.machine.stage with
    | .attempting (.done r) =>
      { (s.conclude r).enter c.machine with
        gaveUp := if noticed && !r.removed then some s.now else s.gaveUp }
    | _ => { s with toCourse := c }
  | .wake => { s.enter c.machine with passes := s.passes ++ [s.now] }
  | .abandon => { s.enter c.machine with gaveUp := some s.now }

def step (timed : Bool) (s : Story) (a : Action) : Option Story :=
  if s.may timed a then (s.toCourse.step a).map fun c => s.record c a else none

def run (timed : Bool) (s : Story) : List Action → Option Story
  | [] => some s
  | a :: rest => (s.step timed a).bind fun s => s.run timed rest

theorem stepwise (timed : Bool) : Stepwise (step timed) (run timed) := ⟨fun _ => rfl, fun _ _ _ => rfl⟩

/-! ## Steps -/

/-- The ways in which a story goes on. -/
inductive Turn (timed : Bool) (s : Story) : Action → Story → Prop where
  | pass {nanos : Nat} (may : timed → s.mayPass nanos) :
      Turn timed s (.pass nanos)
        { s with now := s.now + nanos, waited := s.waited + if s.waiting then nanos else 0 }
  | fire : Turn timed s .cancel { s with abandoned := true, fired := s.fired.or (some s.now) }
  | issue {call : Call} {next : call.Answer → Finalization} (free : s.waiting = false)
      (pending : s.machine.call? = some ⟨call, next⟩) :
      Turn timed s .issue { s with waiting := true, marks := s.marks ++ [.issued s.now call] }
  | answer {call : Call} {next : call.Answer → Finalization} {reply : (c : Call) → c.Answer}
      (waits : s.waiting) (pending : s.machine.call? = some ⟨call, next⟩) :
      Turn timed s (.answer reply)
        { s with
          machine := next (reply call), waiting := false
          marks := s.marks ++ [.returned s.now call (reply call)]
          calls := s.calls ++ [⟨call, reply call⟩] }
  | complete {r : Attempt} {noticed : Bool} (stage : s.machine.stage = .attempting (.done r))
      (removed : r.removed) :
      Turn timed s (.proceed noticed) ((s.conclude r).enter
        { s.machine with
          roleDeleted := r.roleDeleted, stage := .removing .completed (unregister s.machine.key) })
  | desist {r : Attempt} (stage : s.machine.stage = .attempting (.done r))
      (kept : r.removed = false) (fired : s.abandoned) :
      Turn timed s (.proceed true)
        { (s.conclude r).enter
            { s.machine with roleDeleted := r.roleDeleted, stage := .ended .abandoned } with
          gaveUp := some s.now }
  | pause {r : Attempt} (stage : s.machine.stage = .attempting (.done r))
      (kept : r.removed = false) :
      Turn timed s (.proceed false) ((s.conclude r).enter
        { s.machine with
          roleDeleted := r.roleDeleted
          stage := .pausing (min (Duration.endOfWait s.now s.machine.interval) s.machine.deadline) })
  | close {o : Outcome} {r : Except Fault Unit} {noticed : Bool}
      (stage : s.machine.stage = .removing o (.done r)) :
      Turn timed s (.proceed noticed) { s with machine := { s.machine with stage := .ended o } }
  | expire {wakeAt : Nat} (stage : s.machine.stage = .pausing wakeAt) (due : wakeAt ≤ s.now)
      (late : s.machine.deadline ≤ s.now) :
      Turn timed s .wake
        { s.enter { s.machine with stage := .removing .timedOut (unregister s.machine.key) } with
          passes := s.passes ++ [s.now] }
  | again {wakeAt : Nat} (stage : s.machine.stage = .pausing wakeAt) (due : wakeAt ≤ s.now)
      (early : s.now < s.machine.deadline) :
      Turn timed s .wake
        { s.enter { s.machine with
            attempts := s.machine.attempts + 1
            stage := .attempting
              (attempt s.machine.role s.machine.key s.machine.roleDeleted) } with
          passes := s.passes ++ [s.now] }
  | giveUp {wakeAt : Nat} (stage : s.machine.stage = .pausing wakeAt) (fired : s.abandoned) :
      Turn timed s .abandon
        { s.enter { s.machine with stage := .ended .abandoned } with gaveUp := some s.now }

variable {timed : Bool} {s s' : Story} {a : Action} {actions : List Action}

theorem turn_proceed {noticed : Bool} (may : s.may timed (.proceed noticed))
    (fired : noticed → s.abandoned) :
    Turn timed s (.proceed noticed)
      (s.record { s.toCourse with machine := s.machine.proceed s.now noticed }
        (.proceed noticed)) := by
  cases stage : s.machine.stage with
  | attempting p =>
    cases p with
    | ask => simp [Story.may, stage] at may
    | done r =>
      simp only [record, proceed, afterAttempt, stage]
      cases removed : r.removed with
      | true => simpa using .complete stage removed
      | false =>
        cases noticed with
        | true => simpa using .desist stage removed (fired rfl)
        | false => simpa using .pause stage removed
  | removing o p =>
    cases p with
    | ask => simp [Story.may, stage] at may
    | done r =>
      simp only [record, proceed, stage]
      exact .close stage
  | pausing | ended => simp [Story.may, stage] at may

theorem turn_wake (may : s.may timed .wake) :
    Turn timed s .wake (s.record { s.toCourse with machine := s.machine.wake s.now } .wake) := by
  cases stage : s.machine.stage with
  | pausing wakeAt =>
    have due : wakeAt ≤ s.now := by simpa [Story.may, stage] using may
    simp only [record, Finalization.wake, stage, if_pos due, enterLoop]
    by_cases late : s.machine.deadline ≤ s.now
    · simpa [late] using .expire stage due late
    · simpa [late] using .again stage due (Nat.lt_of_not_le late)
  | attempting | removing | ended => simp [Story.may, stage] at may

theorem turn_abandon (may : s.may timed .abandon) (fired : s.abandoned) :
    Turn timed s .abandon
      (s.record { s.toCourse with machine := s.machine.abandon } .abandon) := by
  cases stage : s.machine.stage with
  | pausing wakeAt =>
    simp only [record, Finalization.abandon, stage]
    exact .giveUp stage fired
  | attempting | removing | ended => simp [Story.may, stage] at may

theorem turn_of_step (h : step timed s a = some s') : Turn timed s a s' := by
  obtain ⟨may, hs⟩ := Option.ite_none_right_eq_some.1 h
  obtain ⟨c, hc, rfl⟩ := Option.map_eq_some_iff.1 hs
  cases a with
  | pass nanos =>
    cases hc
    exact .pass fun clocked => by simpa [Story.may, clocked] using may
  | cancel =>
    cases hc
    exact .fire
  | issue =>
    obtain ⟨free, hc⟩ := Option.ite_none_left_eq_some.1 hc
    obtain ⟨⟨call, next⟩, pending, rfl⟩ := Option.map_eq_some_iff.1 hc
    exact .issue (Bool.eq_false_iff.2 free) pending
  | answer reply =>
    obtain ⟨waits, hc⟩ := Option.ite_none_right_eq_some.1 hc
    obtain ⟨⟨call, next⟩, pending, rfl⟩ := Option.map_eq_some_iff.1 hc
    simp only [record, pending]
    exact .answer waits pending
  | proceed noticed =>
    obtain ⟨unseen, hc⟩ := Option.ite_none_left_eq_some.1 hc
    cases hc
    exact turn_proceed may (by simpa using unseen)
  | wake =>
    cases hc
    exact turn_wake may
  | abandon =>
    obtain ⟨fired, hc⟩ := Option.ite_none_right_eq_some.1 hc
    cases hc
    exact turn_abandon may fired

theorem Turn.setup (h : Turn timed s a s') : s'.machine.setup = s.machine.setup := by
  cases h with
  | answer _ pending =>
    rcases call?_eq_some pending with ⟨rest, _, rfl⟩ | ⟨o, rest, _, rfl⟩
    · rfl
    · rfl
  | _ => rfl

/-! ## Stories and courses -/

variable {c : Course}

theorem record_toCourse (h : s.toCourse.step a = some c) : (s.record c a).toCourse = c := by
  cases a with
  | pass | cancel | issue => rfl
  | answer reply =>
    obtain ⟨waits, hc⟩ := Option.ite_none_right_eq_some.1 h
    obtain ⟨⟨call, next⟩, pending, -⟩ := Option.map_eq_some_iff.1 hc
    simp only [record, pending]
  | proceed noticed =>
    obtain ⟨unseen, hc⟩ := Option.ite_none_left_eq_some.1 h
    cases hc
    simp only [record]
    split <;> rfl
  | wake =>
    cases h
    rfl
  | abandon =>
    obtain ⟨fired, hc⟩ := Option.ite_none_right_eq_some.1 h
    cases hc
    rfl

/-- A story goes through a course. -/
theorem course_of_run (h : run timed s actions = some s') :
    s.toCourse.run actions = some s'.toCourse := by
  induction actions generalizing s with
  | nil =>
    cases h
    rfl
  | cons a rest ih =>
    obtain ⟨m, hs, hr⟩ := Option.bind_eq_some_iff.1 h
    obtain ⟨may, hs⟩ := Option.ite_none_right_eq_some.1 hs
    obtain ⟨c, hc, rfl⟩ := Option.map_eq_some_iff.1 hs
    have next := ih hr
    rw [record_toCourse hc] at next
    rw [Course.run, hc, Option.bind_some, next]

/-- A step without a point leaves the course where it is. -/
theorem course_of_may_not (h : s.toCourse.step a = some c) (pointless : s.may false a = false) :
    c = s.toCourse := by
  cases a with
  | pass | cancel | issue | answer => simp [Story.may] at pointless
  | proceed noticed =>
    obtain ⟨unseen, hc⟩ := Option.ite_none_left_eq_some.1 h
    cases hc
    have still : s.machine.proceed s.now noticed = s.machine := by
      unfold proceed
      split <;> simp_all [Story.may]
    rw [still]
  | wake =>
    cases h
    have still : s.machine.wake s.now = s.machine := by
      unfold Finalization.wake
      split
      · next wakeAt stage =>
        have early : ¬ wakeAt ≤ s.now := by simpa [Story.may, stage] using pointless
        rw [if_neg early]
      · rfl
    rw [still]
  | abandon =>
    obtain ⟨fired, hc⟩ := Option.ite_none_right_eq_some.1 h
    cases hc
    have still : s.machine.abandon = s.machine := by
      unfold Finalization.abandon
      split <;> simp_all [Story.may]
    rw [still]

/-- Every course has a story. -/
theorem exists_run (h : s.toCourse.run actions = some c) :
    ∃ actions' s', run false s actions' = some s' ∧ s'.toCourse = c := by
  induction actions generalizing s with
  | nil =>
    cases h
    exact ⟨[], s, rfl, rfl⟩
  | cons a rest ih =>
    obtain ⟨m, hs, hr⟩ := Option.bind_eq_some_iff.1 h
    cases may : s.may false a with
    | false =>
      rw [course_of_may_not hs may] at hr
      exact ih hr
    | true =>
      have same := record_toCourse hs
      rw [← same] at hr
      obtain ⟨actions', s', hr', he⟩ := ih hr
      have first : step false s a = some (s.record m a) := by rw [step, if_pos may, hs]; rfl
      exact ⟨a :: actions', s', by rw [run, first, Option.bind_some, hr'], he⟩

/-! ## Beginnings -/

variable {settings : FinalizationSettings} {begin : Nat} {registry : Registry} {role : Role}
  {key : ObjectKey}

/-- A finalization that is not turned away at the door. -/
theorem start_ok (named : role.metadata.key? = some key)
    (free : role.finalizationId ∉ registry.ids) :
    (start settings begin registry role).1 =
      .ok ((initial settings begin role key).enterLoop begin) := by
  have new : registry.contains role.finalizationId = false := by
    simpa [Registry.contains] using free
  simp only [start, named, Registry.acquire, new]
  rfl

/-- It begins where the clock can show its deadline. -/
theorem launch_ok (named : role.metadata.key? = some key)
    (free : role.finalizationId ∉ registry.ids) :
    (launch settings begin registry role).1 =
      if begin + settings.timeout.nanos ≤ Duration.lastInstant then
        some (.ok ((initial settings begin role key).enterLoop begin))
      else none := launch_of_start (start_ok named free)

end Story
end RoleOperator.Finalization
