import RoleOperator.Proofs.Finalization.Course
import RoleOperator.Simulation.Crew

/-!
# Execution of finalizations

A crew takes a finalization through the steps of a course: it answers the pending call, at once or
after a delay, and else lets the finalization proceed, wake up or end. So wherever a crew leaves a
finalization, a course has led there, and what holds of all courses holds of what the crew does.
-/
namespace RoleOperator.Simulation.Crew

open Finalization (Course Action Stage)

variable {σ : Type} {c : Crew σ} {f : Finalization} {id fuel : Nat}

/-- The answer to a call comes at once or later, and the finalization goes on from it. -/
theorem runFinalization_call {call : Call} {next : call.Answer → Finalization}
    (pending : f.call? = some ⟨call, next⟩) :
    runFinalization id (fuel + 1) f c =
      if (c.reply call).2.1 = 0 then
        runFinalization id (fuel + 1) (next (c.reply call).1) (c.reply call).2.2
      else
        (c.reply call).2.2.after (c.reply call).2.1
          (.finalization id (next (c.reply call).1)) := by
  rcases Finalization.call?_eq_some pending with ⟨rest, stage, rfl⟩ | ⟨o, rest, stage, rfl⟩
  · rw [runFinalization, stage]
    dsimp only
    rw [runProgram]
    rcases c.reply call with ⟨x, delay, c⟩
    dsimp only
    by_cases instant : delay = 0
    · rw [if_pos instant, if_pos instant, runFinalization]
      rfl
    · rw [if_neg instant, if_neg instant]
  · rw [runFinalization, stage]
    dsimp only
    rw [runProgram]
    rcases c.reply call with ⟨x, delay, c⟩
    dsimp only
    by_cases instant : delay = 0
    · rw [if_pos instant, if_pos instant, runFinalization]
    · rw [if_neg instant, if_neg instant]

/-- After the last answer the finalization proceeds, with the token as it is then. -/
theorem runFinalization_proceed (idle : f.call? = none) (awake : ∀ wakeAt, f.stage ≠ .pausing wakeAt)
    (unended : f.outcome? = none) :
    runFinalization id (fuel + 1) f c =
      runFinalization id fuel (f.proceed c.now c.supervisor.abandoned) c := by
  rw [runFinalization]
  unfold Finalization.proceed
  cases stage : f.stage with
  | attempting p =>
    cases p with
    | done a => rfl
    | ask call next => simp [Finalization.call?, stage] at idle
  | removing o p =>
    cases p with
    | done r => rfl
    | ask call next => simp [Finalization.call?, stage] at idle
  | pausing wakeAt => exact absurd stage (awake wakeAt)
  | ended o => simp [Finalization.outcome?, stage] at unended

/-! ## Courses of a crew -/

/-- The course is at a finalization that the crew goes on with. -/
structure Stands (c : Crew σ) (f : Finalization) (k : Course) : Prop where
  machine : k.machine = f
  now : k.now = c.now
  abandoned : k.abandoned = c.supervisor.abandoned
  free : k.waiting = false

/-- Where a crew can leave a finalization. -/
inductive Left (id : Nat) (k : Course) (c : Crew σ) : Prop where
  | calling (job : ⟨k.now, .finalization id k.machine⟩ ∈ c.timers)
  | pausing (paused : (id, k.machine) ∈ c.pauses)
  | over {o : Finalization.Outcome} (ended : k.machine.outcome? = some o) (noted : (id, o) ∈ c.outcomes)

/-- A course leads to where the crew has left the finalization, unless the fuel was used up. -/
def Reaches (id fuel : Nat) (k : Course) (c : Crew σ) : Prop :=
  ∃ actions k', k.run actions = some k' ∧ (Left id k' c ∨ fuel ≤ actions.length)

theorem reply_now (call : Call) : (c.reply call).2.2.now = c.now := by
  cases call <;> rfl

theorem reply_abandoned (call : Call) :
    (c.reply call).2.2.supervisor.abandoned = c.supervisor.abandoned := by
  cases call <;> rfl

theorem Reaches.prepend {k k' : Course} {actions : List Action} {fuel' : Nat}
    (run : k.run actions = some k') (h : Reaches id fuel k' c)
    (spent : fuel' ≤ actions.length + fuel) : Reaches id fuel' k c := by
  obtain ⟨rest, e, hr, hl⟩ := h
  refine ⟨actions ++ rest, e, by rw [Course.run_append, run, Option.bind_some, hr], ?_⟩
  refine hl.imp_right fun hf => ?_
  rw [List.length_append]
  omega

/-- The crew's answer to the pending call takes the course on, after any delay. -/
theorem Stands.answer {k : Course} {call : Call} {next : call.Answer → Finalization}
    (h : Stands c f k) (pending : f.call? = some ⟨call, next⟩) (delay : Nat) :
    ∃ k', k.run [.issue, .pass delay, .answer fun call => (c.reply call).1] = some k' ∧
      k'.machine = next (c.reply call).1 ∧ k'.now = c.now + delay ∧
        k'.abandoned = c.supervisor.abandoned ∧ k'.waiting = false := by
  obtain ⟨rfl, now, abandoned, free⟩ := h
  refine ⟨{ k with
    machine := next (c.reply call).1
    now := k.now + delay
    waiting := false
    marks := k.marks ++ [.issued k.now call] ++
      [.returned (k.now + delay) call (c.reply call).1] }, ?_, rfl, by rw [now], abandoned, rfl⟩
  simp [Course.run, Course.step, free, pending]

/-- While a program makes calls, the course goes with it; what is left is its end. -/
theorem reaches_of_program {α : Type} (stage : Program α → Stage) {p : Program α} {k : Course}
    (pending : ∀ call next, { f with stage := stage (.ask call next) }.call? =
      some ⟨call, fun x => { f with stage := stage (next x) }⟩)
    (finish : ∀ {a} {c : Crew σ} {k}, Stands c { f with stage := stage (.done a) } k →
      Reaches id (fuel + 1) k (runFinalization id (fuel + 1) { f with stage := stage (.done a) } c))
    (h : Stands c { f with stage := stage p } k) :
    Reaches id (fuel + 1) k (runFinalization id (fuel + 1) { f with stage := stage p } c) := by
  induction p generalizing c k with
  | done a => exact finish h
  | ask call next ih =>
    rw [runFinalization_call (pending call next)]
    by_cases instant : (c.reply call).2.1 = 0
    · rw [if_pos instant]
      obtain ⟨k', run, machine, now, abandoned, free⟩ := h.answer (pending call next) 0
      refine (ih _ ⟨machine, ?_, ?_, free⟩).prepend run (Nat.le_add_left _ _)
      · rw [now, reply_now, Nat.add_zero]
      · rw [abandoned, reply_abandoned]
    · rw [if_neg instant]
      let due := Duration.endOfWait c.now (c.reply call).2.1
      obtain ⟨k', run, machine, now, -, -⟩ := h.answer (pending call next) (due - c.now)
      refine ⟨_, k', run, Or.inl (.calling ?_)⟩
      have hd : c.now ≤ due := Nat.le_add_right _ _
      rw [machine, now, Nat.add_sub_cancel' hd]
      simp [after, reply_now, due]

/-- Wherever a crew leaves a finalization, a course has led there. -/
theorem runFinalization_reaches {k : Course} (h : Stands c f k) :
    Reaches id fuel k (runFinalization id fuel f c) := by
  induction fuel generalizing f c k with
  | zero => exact ⟨[], k, rfl, Or.inr (Nat.zero_le _)⟩
  | succ fuel ih =>
    have proceed : ∀ {f : Finalization} {c : Crew σ} {k : Course}, Stands c f k →
        f.call? = none → (∀ wakeAt, f.stage ≠ .pausing wakeAt) → f.outcome? = none →
        Reaches id (fuel + 1) k (runFinalization id (fuel + 1) f c) := by
      intro f c k h idle awake unended
      rw [runFinalization_proceed idle awake unended]
      have run : k.run [.proceed c.supervisor.abandoned] =
          some { k with machine := k.machine.proceed k.now c.supervisor.abandoned } := by
        simp [Course.run, Course.step, h.abandoned]
      refine Reaches.prepend run (ih ⟨?_, h.now, h.abandoned, h.free⟩) (Nat.le_of_eq (Nat.add_comm _ _))
      rw [h.machine, h.now]
    cases stage : f.stage with
    | attempting p =>
      have hf : { f with stage := .attempting p } = f := by rw [← stage]
      rw [← hf] at h ⊢
      exact reaches_of_program .attempting (fun _ _ => rfl)
        (fun h => proceed h rfl (by rintro wakeAt ⟨⟩) rfl) h
    | removing o p =>
      have hf : { f with stage := .removing o p } = f := by rw [← stage]
      rw [← hf] at h ⊢
      exact reaches_of_program (.removing o) (fun _ _ => rfl)
        (fun h => proceed h rfl (by rintro wakeAt ⟨⟩) rfl) h
    | pausing wakeAt =>
      rw [runFinalization, stage]
      dsimp only
      split
      · have run : k.run [.wake] = some { k with machine := k.machine.wake k.now } := rfl
        refine Reaches.prepend run (ih ⟨?_, h.now, h.abandoned, h.free⟩)
          (Nat.le_of_eq (Nat.add_comm _ _))
        rw [h.machine, h.now]
      · refine ⟨[], k, rfl, Or.inl (.pausing ?_)⟩
        simp [after, h.machine]
    | ended o =>
      rw [runFinalization, stage]
      refine ⟨[], k, rfl, Or.inl (.over (o := o) ?_ ?_)⟩
      · rw [h.machine, Finalization.outcome?_eq_some, stage]
      · simp [finishFinalization]

/-- A finalization that a crew begins follows a course from its beginning. -/
theorem begin_reaches {role : Role}
    (launched : (Finalization.launch c.settings c.now c.registry role).1 = some (.ok f)) :
    ∃ key, role.metadata.key? = some key ∧
      Reaches id patience (Course.beginning c.settings c.now role key) (c.begin id role) := by
  obtain ⟨key, named, rfl⟩ := Finalization.start_eq_ok (Finalization.start_of_launch launched)
  refine ⟨key, named, ?_⟩
  rw [begin]
  rcases hs : Finalization.launch c.settings c.now c.registry role with ⟨first, registry⟩
  rw [hs] at launched
  dsimp only at launched
  subst launched
  dsimp only
  cases fired : c.supervisor.abandoned with
  | false => exact runFinalization_reaches ⟨rfl, rfl, fired.symm, rfl⟩
  | true =>
    have run : (Course.beginning c.settings c.now role key).run [.cancel] =
        some { Course.beginning c.settings c.now role key with abandoned := true } := rfl
    exact Reaches.prepend run (runFinalization_reaches ⟨rfl, rfl, fired.symm, rfl⟩)
      (Nat.le_add_left _ _)

end RoleOperator.Simulation.Crew
