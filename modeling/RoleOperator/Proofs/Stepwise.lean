/-!
# Runs of steps

A run takes one step after another, and is impossible if one of them is. What every step keeps a run
keeps, and steps that leave less to do come to an end.
-/
namespace RoleOperator

structure Stepwise {σ α : Type} (step : σ → α → Option σ) (run : σ → List α → Option σ) : Prop where
  nil : ∀ s, run s [] = some s
  cons : ∀ s a rest, run s (a :: rest) = (step s a).bind fun m => run m rest

namespace Stepwise

variable {σ α : Type} {step : σ → α → Option σ} {run : σ → List α → Option σ} {P goal : σ → Prop}
  {own : α → Prop} {todo : σ → Nat} {s s' : σ} {a : α} {actions rest : List α}

theorem cons_iff (h : Stepwise step run) :
    run s (a :: rest) = some s' ↔ ∃ m, step s a = some m ∧ run m rest = some s' := by
  rw [h.cons, Option.bind_eq_some_iff]

theorem append_iff (h : Stepwise step run) {more : List α} : run s (actions ++ more) = some s' ↔
    ∃ m, run s actions = some m ∧ run m more = some s' := by
  induction actions generalizing s with
  | nil => simp [h.nil]
  | cons a rest ih =>
    simp only [List.cons_append, h.cons_iff, ih]
    constructor
    · rintro ⟨n, hs, m, hr, hm⟩
      exact ⟨m, ⟨n, hs, hr⟩, hm⟩
    · rintro ⟨m, ⟨n, hs, hr⟩, hm⟩
      exact ⟨n, hs, m, hr, hm⟩

theorem append (h : Stepwise step run) {m : σ} {more : List α} (r : run s actions = some m)
    (r' : run m more = some s') : run s (actions ++ more) = some s' :=
  h.append_iff.2 ⟨m, r, r'⟩

/-- What every step of a kind keeps, a run of such steps keeps. -/
theorem keeps_of (h : Stepwise step run)
    (one : ∀ {s s' a}, own a → P s → step s a = some s' → P s') (mine : ∀ a ∈ actions, own a)
    (start : P s) (r : run s actions = some s') : P s' := by
  induction actions generalizing s with
  | nil =>
    rw [h.nil] at r
    cases r
    exact start
  | cons a rest ih =>
    obtain ⟨m, hs, hr⟩ := h.cons_iff.1 r
    obtain ⟨first, others⟩ := List.forall_mem_cons.1 mine
    exact ih others (one first start hs) hr

theorem keeps (h : Stepwise step run) (one : ∀ {s s' a}, P s → step s a = some s' → P s')
    (start : P s) (r : run s actions = some s') : P s' :=
  h.keeps_of (fun _ => one) (fun _ _ => trivial) start r

/-- What every step but one keeps, a run keeps until it takes that step. -/
theorem keeps_until (h : Stepwise step run)
    (one : ∀ {s s' b}, b ≠ a → P s → step s b = some s' → P s') (start : P s)
    (r : run s actions = some s') :
    P s' ∨ ∃ first last m m', actions = first ++ a :: last ∧ run s first = some m ∧ P m ∧
      step m a = some m' := by
  induction actions generalizing s with
  | nil =>
    rw [h.nil] at r
    cases r
    exact Or.inl start
  | cons b rest ih =>
    obtain ⟨n, hs, hr⟩ := h.cons_iff.1 r
    by_cases same : b = a
    · subst same
      exact Or.inr ⟨[], rest, s, n, rfl, h.nil s, start, hs⟩
    · rcases ih (one same start hs) hr with kept | ⟨first, last, m, m', rfl, hf, hm, ha⟩
      · exact Or.inl kept
      · exact Or.inr ⟨b :: first, last, m, m', rfl, h.cons_iff.2 ⟨n, hs, hf⟩, hm, ha⟩

/-- No run takes more steps than there is to do. -/
theorem length_le (h : Stepwise step run)
    (one : ∀ {s s' a}, own a → P s → step s a = some s' → P s' ∧ todo s' < todo s)
    (mine : ∀ a ∈ actions, own a) (start : P s) (r : run s actions = some s') :
    actions.length + todo s' ≤ todo s := by
  induction actions generalizing s with
  | nil =>
    rw [h.nil] at r
    cases r
    exact Nat.le_of_eq (Nat.zero_add _)
  | cons a rest ih =>
    obtain ⟨m, hs, hr⟩ := h.cons_iff.1 r
    obtain ⟨first, others⟩ := List.forall_mem_cons.1 mine
    obtain ⟨kept, less⟩ := one first start hs
    have later := ih others kept hr
    rw [List.length_cons]
    omega

/-- The same of the steps of a kind, among others that do not make more to do. -/
theorem countP_le (h : Stepwise step run) {mine : α → Bool}
    (one : ∀ {s s' a}, P s → step s a = some s' →
      P s' ∧ todo s' + (if mine a then 1 else 0) ≤ todo s)
    (start : P s) (r : run s actions = some s') : actions.countP mine + todo s' ≤ todo s := by
  induction actions generalizing s with
  | nil =>
    rw [h.nil] at r
    cases r
    exact Nat.le_of_eq (Nat.zero_add _)
  | cons a rest ih =>
    obtain ⟨m, hs, hr⟩ := h.cons_iff.1 r
    obtain ⟨kept, less⟩ := one start hs
    have later := ih kept hr
    rw [List.countP_cons]
    omega

/-- Whoever can take a step towards the goal as long as it is not reached can reach it. -/
theorem reaches (h : Stepwise step run) (todo : σ → Nat)
    (one : ∀ {s}, P s → goal s ∨ ∃ a s', own a ∧ step s a = some s' ∧ P s' ∧ todo s' < todo s)
    (start : P s) : ∃ actions s', (∀ a ∈ actions, own a) ∧ run s actions = some s' ∧ goal s' := by
  induction hn : todo s using Nat.strongRecOn generalizing s with
  | ind n ih =>
    rcases one start with there | ⟨a, m, mine, hs, kept, less⟩
    · exact ⟨[], s, by simp, h.nil s, there⟩
    · obtain ⟨rest, s', others, hr, there⟩ := ih _ (hn ▸ less) kept rfl
      exact ⟨a :: rest, s', List.forall_mem_cons.2 ⟨mine, others⟩, h.cons_iff.2 ⟨m, hs, hr⟩, there⟩

/-- At last no step of the kind is possible. -/
theorem comes_to_rest (h : Stepwise step run)
    (one : ∀ {s s' a}, own a → P s → step s a = some s' → P s' ∧ todo s' < todo s) (start : P s) :
    ∃ actions s', (∀ a ∈ actions, own a) ∧ run s actions = some s' ∧
      ∀ a, own a → step s' a = none := by
  refine h.reaches todo (fun {s} kept => ?_) start
  by_cases rest : ∀ a, own a → step s a = none
  · exact Or.inl rest
  · simp only [Classical.not_forall] at rest
    obtain ⟨a, mine, possible⟩ := rest
    obtain ⟨m, hs⟩ := Option.ne_none_iff_exists'.1 possible
    obtain ⟨kept, less⟩ := one mine kept hs
    exact Or.inr ⟨a, m, mine, hs, kept, less⟩

end Stepwise
end RoleOperator
