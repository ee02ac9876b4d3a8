import RoleOperator.Proofs.Dispatch.Coherence
import RoleOperator.Proofs.Queue.Backoff

/-!
# Timers of a dispatcher

The queue of a dispatcher, its timers and its clock make up an agenda, and what the dispatcher does is a
course of it. So the key of a call that failed is back on the queue when its delay is over, whatever the
workers and the event loop do meanwhile.
-/
namespace RoleOperator.Dispatcher

variable {d d' : Dispatcher} {a : Action} {actions : List Action} {i : Nat} {raw : String}
  {key : ObjectKey} {outcome : HandlerOutcome}

def agenda (d : Dispatcher) : Agenda := ⟨d.queue, d.now, d.retries⟩

/-- The agenda can come from one to the other. -/
def LeadsTo (d d' : Dispatcher) : Prop := ∃ actions, d.agenda.run actions = some d'.agenda

theorem leadsTo_of_same (same : d'.agenda = d.agenda) : d.LeadsTo d' :=
  ⟨[], congrArg some same.symm⟩

theorem leadsTo_of_one {a : Agenda.Action} (h : d.agenda.step a = some d'.agenda) : d.LeadsTo d' :=
  ⟨[a], Agenda.stepwise.cons_iff.2 ⟨_, h, rfl⟩⟩

theorem agenda_retry (d : Dispatcher) (raw : String) :
    (d.retry raw).agenda = d.agenda.postpone raw := by
  by_cases zero : (d.queue.fail raw).1.isZero
  · have zero' : (d.agenda.delay raw).isZero := zero
    simp only [retry, Agenda.postpone, if_pos zero, if_pos zero']
    rfl
  · have zero' : ¬ (d.agenda.delay raw).isZero := zero
    simp only [retry, Agenda.postpone, if_neg zero, if_neg zero']
    rfl

theorem leadsTo_finish (h : d.step (.finish i outcome) = some d') : d.LeadsTo d' := by
  simp only [step] at h
  split at h
  · next raw key was =>
    cases h
    cases outcome with
    | ok => exact leadsTo_of_one (a := .forget raw) rfl
    | crashed => exact leadsTo_of_same rfl
    | failed =>
      simp only [settle]
      split
      · exact leadsTo_of_one (a := .fail raw) (congrArg some (d.agenda_retry raw).symm)
      · exact leadsTo_of_one (a := .forget raw) rfl
  · cases h

/-- Time does not pass over a timer that is due. -/
def Prompt (d : Dispatcher) : Action → Prop
  | .elapse nanos => ∀ r ∈ d.retries, d.now + nanos ≤ r.due
  | _ => True

/-- Only a key that some worker holds is given back. -/
theorem leadsTo_of_step (coherent : d.Coherent) (prompt : d.Prompt a)
    (h : d.step a = some d') : d.LeadsTo d' := by
  cases a with
  | event e =>
    simp only [step] at h
    split at h
    · cases put : (d.filter.observe e).1 with
      | none =>
        simp only [put, Option.some.injEq] at h
        subst h
        exact leadsTo_of_same rfl
      | some k =>
        simp only [put, Option.some.injEq] at h
        subst h
        exact leadsTo_of_one (a := .add k) rfl
    · cases h
  | add key =>
    cases h
    exact leadsTo_of_one (a := .add key) rfl
  | look i =>
    simp only [step] at h
    split at h
    · cases h
      simp only [look]
      split
      · exact leadsTo_of_same rfl
      · cases taken : d.queue.take? with
        | none => exact leadsTo_of_same rfl
        | some t =>
          have got : d.agenda.step .get = some _ := rfl
          refine leadsTo_of_one (a := .get) (got.trans ?_)
          have put : (d.agenda.queue.take?.map (·.2)).getD d.agenda.queue = t.2 := by
            rw [show d.agenda.queue.take? = some t from taken]
            rfl
          rw [put]
          rfl
    · cases h
  | report i =>
    simp only [step] at h
    split at h
    · next raw was =>
      cases parsed : ObjectKey.parse? raw with
      | none =>
        simp only [parsed, Option.some.injEq] at h
        subst h
        exact leadsTo_of_one (a := .forget raw) rfl
      | some key =>
        simp only [parsed, Option.some.injEq] at h
        subst h
        exact leadsTo_of_same rfl
    · cases h
  | finish i outcome => exact leadsTo_finish h
  | release i =>
    simp only [step] at h
    split at h
    · next raw was =>
      cases h
      have held : raw ∈ d.queue.processing :=
        (coherent.processing_iff raw).2 ⟨i, holding_of_worker was⟩
      exact leadsTo_of_one (a := .done raw) (if_pos held)
    · cases h
  | fire r =>
    obtain ⟨may, he⟩ := Option.ite_none_right_eq_some.1 h
    cases he
    exact leadsTo_of_one (a := .ring r) (if_pos may)
  | elapse nanos =>
    cases h
    exact leadsTo_of_one (a := .pass nanos) (if_pos prompt)
  | reportIntake | streamEnd | listen | wake =>
    obtain ⟨-, he⟩ := Option.ite_none_right_eq_some.1 h
    cases he
    exact leadsTo_of_same rfl
  | stop =>
    obtain ⟨-, he⟩ := Option.ite_none_right_eq_some.1 h
    cases he
    exact leadsTo_of_one (a := .shutDown) rfl

/-- A run in which time does not pass over a timer that is due. -/
def PromptRun (d : Dispatcher) : List Action → Prop
  | [] => True
  | a :: rest => d.Prompt a ∧ ∀ m, d.step a = some m → m.PromptRun rest

theorem leadsTo_of_run (coherent : d.Coherent) (prompt : d.PromptRun actions)
    (told : d.run actions = some d') : d.LeadsTo d' := by
  induction actions generalizing d with
  | nil =>
    cases told
    exact leadsTo_of_same rfl
  | cons a rest ih =>
    obtain ⟨m, hs, hr⟩ := run_cons told
    obtain ⟨first, before⟩ := leadsTo_of_step coherent prompt.1 hs
    obtain ⟨others, after⟩ := ih (coherent.change (change_of_step hs)) (prompt.2 m hs) hr
    exact ⟨first ++ others, Agenda.stepwise.append before after⟩

/-- The key of a failed call is back on the queue when its delay is over. The delay is told by how often
the calls for the key have failed. -/
theorem failed_call_returns {s : DispatchSettings} (told : (ofSettings s).run actions = some d)
    (prompt : (ofSettings s).PromptRun actions)
    (was : d.workers[i]? = some (.handling raw key))
    (budget : d.queue.requeues raw < d.maxRequeues) :
    d.agenda.delay raw = WorkQueue.backoff s.baseDelay s.maxDelay (d.queue.requeues raw) ∧
    ∃ d', d.step (.finish i .failed) = some d' ∧ d.agenda.Returns raw d'.agenda := by
  obtain ⟨course, run⟩ := leadsTo_of_run (coherent_ofSettings s) prompt told
  have opening : (ofSettings s).agenda = Agenda.opened s.baseDelay s.maxDelay := rfl
  rw [opening] at run
  have failures : d.queue.requeues raw = Agenda.failures raw course := Agenda.requeues_run run
  have timely : d.agenda.Timely :=
    Agenda.stepwise.keeps Agenda.Timely.step (fun r hr => by cases hr) run
  have sound : d.agenda.queue.Sound :=
    Agenda.sound_run (WorkQueue.sound_empty s.baseDelay s.maxDelay) run
  have ends : d.step (.finish i .failed) = some ((d.retry raw).setWorker i (.settled raw)) := by
    simp only [step, was, settle, if_pos budget]
    rfl
  refine ⟨?_, _, ends, ?_⟩
  · rw [failures]
    exact Agenda.delay_eq run raw
  · have returns := Agenda.postpone_returns (k := raw) sound timely
    rw [← agenda_retry] at returns
    exact returns

end RoleOperator.Dispatcher
