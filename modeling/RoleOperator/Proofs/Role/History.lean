import Mathlib.Data.List.Induction
import RoleOperator.Proofs.Role.Reports

/-!
# History of a status

What a status says after any number of updates. A failure that is reported again and again was first
seen at the beginning of the streak that ends the history. If the streak goes back to the first update,
the condition that the status had before may have been the beginning already.
-/
namespace RoleOperator

/-- Conditions that say the same differ in their times at most. -/
theorem Condition.sameObservation_iff {a b : Condition} :
    a.sameObservation b ↔ a = { b with lastTransitionTime := a.lastTransitionTime } := by
  cases a
  cases b
  simp [sameObservation, and_assoc]

theorem Condition.sameObservation_comm {a b : Condition} :
    a.sameObservation b = b.sameObservation a := by
  simp only [sameObservation, eq_comm]

theorem Condition.sameObservation_trans {a b c : Condition} (h : a.sameObservation b)
    (h' : b.sameObservation c) : a.sameObservation c := by
  simp only [sameObservation, Bool.and_eq_true, decide_eq_true_eq] at h h' ⊢
  simp only [h, h', and_self]

namespace RoleStatus

inductive Update where
  | failure (condition : Condition)
  | success (generation : Option Int)
  deriving DecidableEq, Repr

def update (s : RoleStatus) : Update → RoleStatus
  | .failure c => s.setFailure c
  | .success generation => s.setSuccess generation

def after (s : RoleStatus) (history : List Update) : RoleStatus := history.foldl update s

/-- The generations that have been applied. -/
def generations (history : List Update) : List (Option Int) :=
  history.filterMap fun
    | .success generation => some generation
    | .failure _ => none

/-- The longest run of failures at the end of a history that say the same as `c`. -/
structure Streak (history : List Update) (c : Condition) (before : List Update)
    (run : List Condition) : Prop where
  split : history = before ++ run.map .failure
  same : ∀ d ∈ run, d.sameObservation c
  longest : ∀ earlier d, before = earlier ++ [.failure d] → ¬ d.sameObservation c

/-- The condition with which a streak has begun: the first failure, or the one that the status `s` had
before all updates. -/
inductive Beginning (s : RoleStatus) (history : List Update) (c : Condition) : Condition → Prop where
  | initial {run : List Condition} {old : Condition} (streak : Streak history c [] run)
      (only : s.conditions = [old]) (same : old.sameObservation c) : Beginning s history c old
  | first {before : List Update} {d : Condition} {rest : List Condition}
      (streak : Streak history c before (d :: rest))
      (new : before = [] → ∀ old, s.conditions = [old] → ¬ old.sameObservation c) :
      Beginning s history c d

variable {s : RoleStatus} {history before before' : List Update} {c d first : Condition}
  {run run' : List Condition} {u : Update}

theorem generations_failure : generations (history ++ [.failure c]) = generations history := by
  simp [generations]

theorem generations_success (generation : Option Int) :
    generations (history ++ [.success generation]) = generations history ++ [generation] := by
  simp [generations]

theorem after_snoc : s.after (history ++ [u]) = (s.after history).update u := by
  simp [after]

/-! ## Streaks -/

theorem Streak.snoc (h : Streak history d before run) (same : d.sameObservation c) :
    Streak (history ++ [.failure c]) c before (run ++ [c]) := by
  refine ⟨by simp [h.split], fun e he => ?_, fun earlier e split differs => ?_⟩
  · rcases List.mem_append.1 he with he | he
    · exact Condition.sameObservation_trans (h.same e he) same
    · rw [List.mem_singleton.1 he]
      exact Condition.sameObservation_iff.2 rfl
  · rw [Condition.sameObservation_comm] at same
    exact h.longest earlier e split (Condition.sameObservation_trans differs same)

/-- After an update that does not say the same a new streak begins. -/
theorem streak_singleton
    (longest : ∀ earlier d, history = earlier ++ [.failure d] → ¬ d.sameObservation c) :
    Streak (history ++ [.failure c]) c history [c] :=
  ⟨rfl, by simp [Condition.sameObservation_iff], longest⟩

theorem Streak.extra_eq_nil {extra : List Update} (h : Streak history c before run)
    (h' : Streak history c (before ++ extra) run')
    (shared : run.map .failure = extra ++ run'.map .failure) : extra = [] := by
  rcases List.eq_nil_or_concat extra with rfl | ⟨rest, u, rfl⟩
  · rfl
  · -- The streak that begins later could have begun at the last extra update.
    have listed : u ∈ run.map .failure := by simp [shared]
    obtain ⟨d, hd, rfl⟩ := List.mem_map.1 listed
    exact absurd (h.same d hd) (h'.longest (before ++ rest) d (by simp))

theorem Streak.unique (h : Streak history c before run) (h' : Streak history c before' run') :
    before = before' ∧ run = run' := by
  have same_before : before = before' := by
    rcases List.append_eq_append_iff.1 (h.split.symm.trans h'.split) with
      ⟨extra, rfl, shared⟩ | ⟨extra, rfl, shared⟩
    · rw [h.extra_eq_nil h' shared, List.append_nil]
    · rw [h'.extra_eq_nil h shared, List.append_nil]
  subst same_before
  refine ⟨rfl, ?_⟩
  have shown := List.append_cancel_left (h.split.symm.trans h'.split)
  exact (List.map_inj_right fun _ _ he => Update.failure.inj he).1 shown

theorem Beginning.unique (h : Beginning s history c d) (h' : Beginning s history c first) :
    d = first := by
  cases h with
  | initial streak only same =>
    cases h' with
    | initial streak' only' same' => exact List.singleton_inj.1 (only.symm.trans only')
    | first streak' new =>
      obtain ⟨rfl, -⟩ := streak.unique streak'
      exact absurd same (new rfl _ only)
  | first streak new =>
    cases h' with
    | initial streak' only same =>
      obtain ⟨rfl, -⟩ := streak.unique streak'
      exact absurd same (new rfl _ only)
    | first streak' new' =>
      obtain ⟨-, run_eq⟩ := streak.unique streak'
      exact (List.cons.inj run_eq).1

/-- A streak that goes on keeps its beginning. -/
theorem Beginning.snoc (h : Beginning s history d first) (same : d.sameObservation c) :
    Beginning s (history ++ [.failure c]) c first := by
  cases h with
  | initial streak only shared =>
    exact .initial (streak.snoc same) only (Condition.sameObservation_trans shared same)
  | first streak new =>
    refine .first (streak.snoc same) fun none_before old only differs => ?_
    rw [Condition.sameObservation_comm] at same
    exact new none_before old only (Condition.sameObservation_trans differs same)

/-! ## Conditions -/

theorem after_failure (s : RoleStatus) (history : List Update) (c : Condition) :
    ∃ first, Beginning s (history ++ [.failure c]) c first ∧
      (s.after (history ++ [.failure c])).conditions =
        [{ c with lastTransitionTime := first.lastTransitionTime }] := by
  induction history using List.reverseRecOn generalizing c with
  | nil =>
    have streak : Streak ([] ++ [.failure c]) c [] [c] := streak_singleton (by simp)
    obtain ⟨kept, only, ⟨old, same⟩ | ⟨rfl, differs⟩⟩ := setFailure_conditions (s := s) (c := c)
    · refine ⟨kept, .initial streak old same, ?_⟩
      rw [← Condition.sameObservation_iff.1 same]
      exact only
    · exact ⟨kept, .first streak fun _ => differs, only⟩
  | append_singleton history u ih =>
    rw [after_snoc]
    obtain ⟨kept, only, ⟨old, same⟩ | ⟨rfl, differs⟩⟩ :=
      setFailure_conditions (s := s.after (history ++ [u])) (c := c)
    · -- What is kept is the condition of the failure before.
      cases u with
      | success generation =>
        rw [after_snoc] at old
        cases old
      | failure d =>
        obtain ⟨first, begun, conditions⟩ := ih d
        obtain rfl := List.singleton_inj.1 (conditions.symm.trans old)
        have shared : d.sameObservation c := by
          refine Condition.sameObservation_trans ?_ same
          exact Condition.sameObservation_iff.2 rfl
        refine ⟨first, begun.snoc shared, only.trans ?_⟩
        rw [Condition.sameObservation_iff.1 same]
    · refine ⟨kept, .first (streak_singleton fun earlier d he same => ?_) (by simp), only⟩
      obtain ⟨rfl, last⟩ := List.append_inj' he rfl
      obtain rfl := List.singleton_inj.1 last
      obtain ⟨first, -, conditions⟩ := ih d
      refine differs _ conditions (Condition.sameObservation_trans ?_ same)
      exact Condition.sameObservation_iff.2 rfl

theorem after_observedGeneration (s : RoleStatus) (history : List Update) :
    (s.after history).observedGeneration =
      (generations history).getLast?.getD s.observedGeneration := by
  induction history using List.reverseRecOn with
  | nil => rfl
  | append_singleton history u ih =>
    rw [after_snoc]
    cases u with
    | failure c =>
      rw [generations_failure, ← ih]
      rfl
    | success generation =>
      rw [generations_success, List.getLast?_concat]
      rfl

/-- What a status says depends on the last update, on the last generation that was applied, and on the
beginning of the streak of failures that ends the history. -/
theorem told_by_history (s : RoleStatus) (history : List Update) (last : Update) :
    (s.after (history ++ [last])).observedGeneration =
      (generations (history ++ [last])).getLast?.getD s.observedGeneration ∧
    match last with
    | .success _ =>
      (s.after (history ++ [last])).phase = .success ∧
        (s.after (history ++ [last])).conditions = []
    | .failure c =>
      (s.after (history ++ [last])).phase = .failure ∧
        ∃ first, Beginning s (history ++ [last]) c first ∧
          (∀ other, Beginning s (history ++ [last]) c other → other = first) ∧
          (s.after (history ++ [last])).conditions =
            [{ c with lastTransitionTime := first.lastTransitionTime }] := by
  refine ⟨after_observedGeneration s _, ?_⟩
  cases last with
  | success generation =>
    rw [after_snoc]
    exact ⟨rfl, rfl⟩
  | failure c =>
    obtain ⟨first, begun, conditions⟩ := after_failure s history c
    refine ⟨?_, first, begun, fun other h => h.unique begun, conditions⟩
    rw [after_snoc]
    rfl

end RoleStatus
end RoleOperator
