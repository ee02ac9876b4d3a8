import RoleOperator.Finalization
import RoleOperator.Proofs.Association
import RoleOperator.Proofs.Program.Discipline

/-!
# Course of a finalization

A finalization in its surroundings: time passes, calls are answered, and the token that tells it to
give up may fire, all at any moment. What it does is marked with the time. Nothing is said of the
answers, so what holds of every course holds whatever other actors do to the object in between.
-/
namespace RoleOperator.Finalization

inductive Mark where
  | issued (time : Nat) (call : Call)
  | returned (time : Nat) (call : Call) (answer : call.Answer)

structure Course where
  machine : Finalization
  now : Nat
  abandoned : Bool := false
  waiting : Bool := false
  marks : List Mark := []

/-- What can come next. A reply has an answer to every call, so that one to the pending call is at
hand; a token that fires during an attempt may go unnoticed until the pause. -/
inductive Action where
  | pass (nanos : Nat)
  | cancel
  | issue
  | answer (reply : (c : Call) → c.Answer)
  | proceed (noticed : Bool)
  | wake
  | abandon

namespace Course

def step (c : Course) : Action → Option Course
  | .pass nanos => some { c with now := c.now + nanos }
  | .cancel => some { c with abandoned := true }
  | .issue =>
    if c.waiting then none
    else c.machine.call?.map fun ⟨call, _⟩ =>
      { c with waiting := true, marks := c.marks ++ [.issued c.now call] }
  | .answer reply =>
    if c.waiting then c.machine.call?.map fun ⟨call, next⟩ =>
      { c with
        machine := next (reply call)
        waiting := false
        marks := c.marks ++ [.returned c.now call (reply call)] }
    else none
  | .proceed noticed =>
    if noticed && !c.abandoned then none
    else some { c with machine := c.machine.proceed c.now noticed }
  | .wake => some { c with machine := c.machine.wake c.now }
  | .abandon => if c.abandoned then some { c with machine := c.machine.abandon } else none

def run (c : Course) : List Action → Option Course
  | [] => some c
  | a :: rest => (c.step a).bind fun c => c.run rest

end Course

/-- How a call has gone so far: its marks, and its outcome once it is over. -/
structure Report where
  outcome : Option Outcome
  marks : List Mark

/-- A call from its beginning on. One that is turned away does nothing. -/
def conduct (settings : FinalizationSettings) (begin : Nat) (registry : Registry) (role : Role)
    (actions : List Action) : Option Report :=
  match (start settings begin registry role).1 with
  | .error o => some ⟨some o, []⟩
  | .ok f => (Course.run ⟨f, begin, false, false, []⟩ actions).map fun c =>
      ⟨c.machine.outcome?, c.marks⟩

/-! ## Steps -/

/-- The ways in which a course moves on. -/
inductive Course.Advance (c : Course) : Course → Prop where
  | idle {now : Nat} {abandoned : Bool} (later : c.now ≤ now) (kept : c.abandoned → abandoned) :
      Advance c { c with now := now, abandoned := abandoned }
  | issue {call : Call} {next : call.Answer → Finalization} (free : c.waiting = false)
      (pending : c.machine.call? = some ⟨call, next⟩) :
      Advance c { c with waiting := true, marks := c.marks ++ [.issued c.now call] }
  | answer {call : Call} {next : call.Answer → Finalization} (x : call.Answer) (waits : c.waiting)
      (pending : c.machine.call? = some ⟨call, next⟩) :
      Advance c { c with
        machine := next x, waiting := false, marks := c.marks ++ [.returned c.now call x] }
  | settle {a : Attempt} {noticed : Bool} (fired : noticed → c.abandoned)
      (stage : c.machine.stage = .attempting (.done a)) :
      Advance c { c with machine := c.machine.afterAttempt c.now noticed a }
  | close {o : Outcome} {r : Except Fault Unit} (stage : c.machine.stage = .removing o (.done r)) :
      Advance c { c with machine := { c.machine with stage := .ended o } }
  | resume {wakeAt : Nat} (stage : c.machine.stage = .pausing wakeAt) (due : wakeAt ≤ c.now) :
      Advance c { c with machine := c.machine.enterLoop c.now }
  | giveUp {wakeAt : Nat} (stage : c.machine.stage = .pausing wakeAt) (fired : c.abandoned) :
      Advance c { c with machine := { c.machine with stage := .ended .abandoned } }

namespace Course

variable {c c' : Course} {a : Action} {actions : List Action}

theorem Advance.refl (c : Course) : c.Advance c := .idle (Nat.le_refl c.now) fun fired => fired

theorem advance_proceed {noticed : Bool} (fired : noticed → c.abandoned) :
    c.Advance { c with machine := c.machine.proceed c.now noticed } := by
  unfold proceed
  split
  · next stage => exact .settle fired stage
  · next stage => exact .close stage
  · exact .refl c

theorem advance_wake : c.Advance { c with machine := c.machine.wake c.now } := by
  unfold Finalization.wake
  split
  · next stage =>
    split
    · next due => exact .resume stage due
    · exact .refl c
  · exact .refl c

theorem advance_abandon (fired : c.abandoned) :
    c.Advance { c with machine := c.machine.abandon } := by
  unfold Finalization.abandon
  split
  · next stage => exact .giveUp stage fired
  · exact .refl c

theorem advance_of_step (h : c.step a = some c') : c.Advance c' := by
  cases a with
  | pass nanos =>
    cases h
    exact .idle (Nat.le_add_right _ _) fun fired => fired
  | cancel =>
    cases h
    exact .idle (Nat.le_refl _) fun _ => rfl
  | issue =>
    obtain ⟨free, hc⟩ := Option.ite_none_left_eq_some.1 h
    obtain ⟨⟨call, next⟩, pending, rfl⟩ := Option.map_eq_some_iff.1 hc
    exact .issue (Bool.eq_false_iff.2 free) pending
  | answer reply =>
    obtain ⟨waits, hc⟩ := Option.ite_none_right_eq_some.1 h
    obtain ⟨⟨call, next⟩, pending, rfl⟩ := Option.map_eq_some_iff.1 hc
    exact .answer (reply call) waits pending
  | proceed noticed =>
    obtain ⟨unseen, hc⟩ := Option.ite_none_left_eq_some.1 h
    cases hc
    exact advance_proceed (by simpa using unseen)
  | wake =>
    cases h
    exact advance_wake
  | abandon =>
    obtain ⟨fired, hc⟩ := Option.ite_none_right_eq_some.1 h
    cases hc
    exact advance_abandon fired

theorem run_append {first second : List Action} :
    c.run (first ++ second) = (c.run first).bind fun c => c.run second := by
  induction first generalizing c with
  | nil => rfl
  | cons a rest ih =>
    rw [List.cons_append, run, run, Option.bind_assoc]
    exact congrArg _ (funext fun _ => ih)

/-- What every step preserves holds at the end of a course. -/
theorem run_induction {P : Course → Prop} (change : ∀ {c c' : Course}, c.Advance c' → P c → P c')
    (start : P c) (h : c.run actions = some c') : P c' := by
  induction actions generalizing c with
  | nil =>
    cases h
    exact start
  | cons a rest ih =>
    obtain ⟨m, hs, hr⟩ := Option.bind_eq_some_iff.1 h
    exact ih (change (advance_of_step hs) start) hr

end Course

/-- A pending call is the next one of the program that the finalization is at. -/
theorem call?_eq_some {f : Finalization} {call : Call} {next : call.Answer → Finalization}
    (h : f.call? = some ⟨call, next⟩) :
    (∃ rest, f.stage = .attempting (.ask call rest) ∧
      next = fun x => { f with stage := .attempting (rest x) }) ∨
    ∃ o rest, f.stage = .removing o (.ask call rest) ∧
      next = fun x => { f with stage := .removing o (rest x) } := by
  unfold call? at h
  split at h
  · next stage =>
    cases h
    exact Or.inl ⟨_, stage, rfl⟩
  · next stage =>
    cases h
    exact Or.inr ⟨_, _, stage, rfl⟩
  · cases h

theorem outcome?_eq_some {f : Finalization} {o : Outcome} :
    f.outcome? = some o ↔ f.stage = .ended o := by
  unfold outcome?
  split
  · next o' stage => simp [stage]
  · next unended =>
    constructor
    · rintro ⟨⟩
    · intro stage
      exact absurd stage (unended o)

/-- What a finalization never changes. -/
def setup (f : Finalization) : Role × ObjectKey × Nat × Nat :=
  (f.role, f.key, f.deadline, f.interval)

theorem enterLoop_setup {f : Finalization} {now : Nat} : (f.enterLoop now).setup = f.setup := by
  unfold enterLoop
  split <;> rfl

theorem afterAttempt_setup {f : Finalization} {now : Nat} {noticed : Bool} {a : Attempt} :
    (f.afterAttempt now noticed a).setup = f.setup := by
  unfold afterAttempt
  dsimp only
  split
  · rfl
  · split <;> rfl

theorem Course.Advance.setup {c c' : Course} (h : c.Advance c') :
    c'.machine.setup = c.machine.setup := by
  cases h with
  | answer x _ pending =>
    rcases call?_eq_some pending with ⟨rest, _, rfl⟩ | ⟨o, rest, _, rfl⟩
    · rfl
    · rfl
  | settle => exact afterAttempt_setup
  | resume => exact enterLoop_setup
  | _ => rfl

/-- What an attempt does once it knows whether the role has been deleted. -/
def release (key : ObjectKey) (deleted : Bool) : Program Attempt :=
  if deleted then (fun removed => ⟨true, removed.isOk⟩) <$> unregister key
  else pure ⟨false, false⟩

theorem attempt_eq (role : Role) (key : ObjectKey) (roleDeleted : Bool) :
    attempt role key roleDeleted =
      (if roleDeleted then pure true else Except.isOk <$> deleteRole role) >>= release key := by
  cases roleDeleted <;> rfl

/-- An attempt abides by a rule if its two halves do, with what is known between them. -/
theorem attempt_abides_of {role : Role} {key : ObjectKey} {roleDeleted : Bool}
    {allowed : List Exchange → Call → Prop} {ends : List Exchange → Attempt → Prop}
    {past : List Exchange} (between : List Exchange → Bool → Prop)
    (skip : roleDeleted → between past true)
    (delete : (deleteRole role).Abides allowed (fun past r => between past r.isOk) past)
    (fail : ∀ past, between past false → ends past ⟨false, false⟩)
    (release : ∀ past, between past true →
      (unregister key).Abides allowed (fun past r => ends past ⟨true, r.isOk⟩) past) :
    (attempt role key roleDeleted).Abides allowed ends past := by
  have first : (if roleDeleted then pure true else Except.isOk <$> deleteRole role).Abides
      allowed between past := by
    split
    · next h => exact skip h
    · exact Program.abides_map.2 delete
  rw [attempt_eq, Program.abides_bind]
  refine first.mono ?_
  rintro past (_ | _) h
  · exact fail past h
  · exact Program.abides_map.2 (release past h)

/-! ## Beginnings -/

section Beginning

variable {settings : FinalizationSettings} {begin : Nat} {registry : Registry} {role : Role}

/-- Where a finalization stands before its first attempt. -/
def initial (settings : FinalizationSettings) (begin : Nat) (role : Role) (key : ObjectKey) :
    Finalization where
  role
  key
  deadline := begin + settings.timeout.nanos
  interval := settings.interval.nanos
  stage := .ended .abandoned

/-- A finalization that has just entered its loop. -/
def Course.beginning (settings : FinalizationSettings) (begin : Nat) (role : Role)
    (key : ObjectKey) : Course where
  machine := (initial settings begin role key).enterLoop begin
  now := begin

theorem start_eq_ok {f : Finalization} (h : (start settings begin registry role).1 = .ok f) :
    ∃ key, role.metadata.key? = some key ∧
      f = (initial settings begin role key).enterLoop begin := by
  unfold start at h
  split at h
  · cases h
  · next key named =>
    split at h
    · cases h
    · cases h
      exact ⟨key, named, rfl⟩

/-- A finalization that starts is launched where the clock can show its deadline. -/
theorem launch_of_start {f : Finalization} (h : (start settings begin registry role).1 = .ok f) :
    (launch settings begin registry role).1 =
      if begin + settings.timeout.nanos ≤ Duration.lastInstant then some (.ok f) else none := by
  have deadline : f.deadline = begin + settings.timeout.nanos := by
    obtain ⟨key, -, rfl⟩ := start_eq_ok h
    unfold enterLoop
    split <;> rfl
  unfold launch
  split
  · next started =>
    rw [started] at h
    cases h
  · next started =>
    rw [started] at h
    cases h
    rw [deadline]
    split <;> rfl

theorem start_of_launch {f : Finalization}
    (h : (launch settings begin registry role).1 = some (.ok f)) :
    (start settings begin registry role).1 = .ok f := by
  unfold launch at h
  split at h
  · cases h
  · next started =>
    split at h <;> cases h
    rw [started]

/-- A call is turned away without a mark, or it is a course from a beginning. -/
theorem conduct_eq_some {actions : List Action} {r : Report}
    (h : conduct settings begin registry role actions = some r) :
    (∃ o, r = ⟨some o, []⟩) ∨
      ∃ key c, role.metadata.key? = some key ∧
        (Course.beginning settings begin role key).run actions = some c ∧
        r = ⟨c.machine.outcome?, c.marks⟩ := by
  unfold conduct at h
  split at h
  · next o _ =>
    cases h
    exact Or.inl ⟨o, rfl⟩
  · next f ok =>
    obtain ⟨c, hr, rfl⟩ := Option.map_eq_some_iff.1 h
    obtain ⟨key, named, rfl⟩ := start_eq_ok ok
    exact Or.inr ⟨key, c, named, hr, rfl⟩

/-- What holds at the beginning and is preserved by every step holds of the report. -/
theorem conduct_induction {P : ObjectKey → Course → Prop} {actions : List Action} {r : Report}
    (h : conduct settings begin registry role actions = some r)
    (start : ∀ key, P key (Course.beginning settings begin role key))
    (change : ∀ {key c c'}, P key c → c.Advance c' → P key c') :
    (∃ o, r = ⟨some o, []⟩) ∨
      ∃ key c, role.metadata.key? = some key ∧ P key c ∧ r = ⟨c.machine.outcome?, c.marks⟩ := by
  refine (conduct_eq_some h).imp_right ?_
  rintro ⟨key, c, named, hr, he⟩
  exact ⟨key, c, named, Course.run_induction (fun a hp => change hp a) (start key) hr, he⟩

end Beginning

/-! ## Marks -/

/-- The calls that have been answered, with their answers. -/
def exchanges (marks : List Mark) : List Exchange :=
  marks.filterMap fun
    | .returned _ call answer => some ⟨call, answer⟩
    | .issued _ _ => none

@[simp] theorem exchanges_issued {marks : List Mark} {time : Nat} {call : Call} :
    exchanges (marks ++ [.issued time call]) = exchanges marks := by simp [exchanges]

@[simp] theorem exchanges_returned {marks : List Mark} {time : Nat} {call : Call}
    {x : call.Answer} :
    exchanges (marks ++ [.returned time call x]) = exchanges marks ++ [⟨call, x⟩] := by
  simp [exchanges]

theorem mem_exchanges {marks : List Mark} {call : Call} {x : call.Answer} :
    ⟨call, x⟩ ∈ exchanges marks ↔ ∃ time, .returned time call x ∈ marks := by
  constructor
  · intro h
    obtain ⟨m, hm, he⟩ := List.mem_filterMap.1 h
    cases m with
    | issued => cases he
    | returned time =>
      cases he
      exact ⟨time, hm⟩
  · rintro ⟨time, h⟩
    exact List.mem_filterMap.2 ⟨_, h, rfl⟩

/-- Each call has been issued in a way that is allowed after the marks before it. -/
def Issues (allowed : List Mark → Nat → Call → Prop) (marks : List Mark) : Prop :=
  ∀ before time call after, marks = before ++ .issued time call :: after →
    allowed before time call

section Issues

variable {allowed : List Mark → Nat → Call → Prop} {marks : List Mark} {time : Nat} {call : Call}

theorem issues_nil : Issues allowed [] := by
  intro before time call after h
  simp at h

theorem Issues.snoc {m : Mark} (h : Issues allowed marks)
    (now : ∀ time call, m = .issued time call → allowed marks time call) :
    Issues allowed (marks ++ [m]) := by
  have each := forall_split_snoc
    (P := fun before m => ∀ time call, m = .issued time call → allowed before time call)
    (fun before _ after he time call hm => h before time call after (hm ▸ he)) now
  intro before time call after he
  exact each before _ after he time call rfl

theorem Issues.issued (h : Issues allowed marks) (now : allowed marks time call) :
    Issues allowed (marks ++ [.issued time call]) := by
  refine h.snoc ?_
  rintro _ _ ⟨⟩
  exact now

theorem Issues.returned (h : Issues allowed marks) {x : call.Answer} :
    Issues allowed (marks ++ [.returned time call x]) := by
  refine h.snoc ?_
  rintro _ _ ⟨⟩

end Issues

/-- A role that is being deleted. -/
def departing : Role where
  metadata := {
    name := some "reader", ns := some "demo", generation := some 1
    deletionTimestamp := some ⟨0, 0⟩, finalizers := some [Kind.gcp.finalizer] }
  spec := .gcp { secretType := "access_token", project := "ackube", bindings := "" }

/-- Calls to the adapter succeed, `found` is what is stored, and a write ends as given. -/
def answering (found : Role) (written : Except Fault Role) : (c : Call) → c.Answer
  | .cached _ => some found
  | .get _ => .ok (some found)
  | .write _ _ => written
  | .bind _ | .create _ | .delete _ _ => .ok ()
  | .clock => ⟨0, 0⟩
  | .finalize _ => ()

end RoleOperator.Finalization
