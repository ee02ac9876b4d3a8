import RoleOperator.Proofs.Association
import RoleOperator.Queue.Wakeups

/-!
# Waking one of many

A single wake-up goes to one of those in line, and it does not matter to which one. What is proved
here holds for every way to choose; the one who has waited longest is one of them.
-/
namespace RoleOperator

/-- A way to wake somebody. When nobody is in line, one wake-up is kept. -/
structure WakingRule where
  wake : Wakeups → Wakeups
  wake_of_waiting : ∀ w : Wakeups, w.waiting ≠ [] → ∃ i ∈ w.waiting,
    wake w = { w with waiting := w.waiting.erase i, woken := w.woken ++ [i] }
  wake_of_empty : ∀ w : Wakeups, w.waiting = [] → wake w = { w with permit := true }

namespace Wakeups

/-- Those in line, and those who were woken and have not looked yet. -/
def present (w : Wakeups) : List Nat := w.waiting ++ w.woken

/-- Nobody is present twice, and a wake-up is kept only while nobody is in line. -/
structure Sound (w : Wakeups) : Prop where
  nodup : w.present.Nodup
  empty_of_permit : w.permit → w.waiting = []

/-- How many wake-ups are kept. -/
def permits (w : Wakeups) : Nat := if w.permit then 1 else 0

end Wakeups

namespace WakingRule

open Wakeups (Sound)

variable {rule : WakingRule} {w : Wakeups} {i j : Nat}

/-- Stop to listen. One who has been woken passes the wake-up on. -/
def leave (rule : WakingRule) (w : Wakeups) (i : Nat) : Wakeups :=
  if w.woken.contains i then rule.wake { w with woken := w.woken.filter (· ≠ i) }
  else { w with waiting := w.waiting.filter (· ≠ i) }

/-- Whoever has waited longest is woken. -/
def longest : WakingRule where
  wake := Wakeups.wakeOne
  wake_of_waiting := by
    intro w waiting
    cases hw : w.waiting with
    | nil => exact absurd hw waiting
    | cons i rest => exact ⟨i, by simp, by simp [Wakeups.wakeOne, hw]⟩
  wake_of_empty := by
    intro w empty
    simp [Wakeups.wakeOne, empty]

theorem longest_leave (w : Wakeups) (i : Nat) : longest.leave w i = w.leave i := rfl

/-! ## A wake-up -/

theorem present_wake (rule : WakingRule) (w : Wakeups) : (rule.wake w).present.Perm w.present := by
  by_cases empty : w.waiting = []
  · rw [rule.wake_of_empty w empty]
    exact List.Perm.refl _
  · obtain ⟨i, hi, woken⟩ := rule.wake_of_waiting w empty
    rw [woken]
    have moved : (w.waiting.erase i ++ (w.woken ++ [i])).Perm
        (i :: (w.waiting.erase i ++ w.woken)) := by
      rw [← List.append_assoc]
      exact List.perm_append_singleton i _
    exact moved.trans ((List.perm_cons_erase hi).symm.append_right w.woken)

theorem mem_waiting_wake (h : j ∈ (rule.wake w).waiting) : j ∈ w.waiting := by
  by_cases empty : w.waiting = []
  · rwa [rule.wake_of_empty w empty] at h
  · obtain ⟨i, hi, woken⟩ := rule.wake_of_waiting w empty
    rw [woken] at h
    exact List.mem_of_mem_erase h

/-- Whoever is left in line knows of a wake-up for somebody else. -/
theorem woken_wake (left : (rule.wake w).waiting ≠ []) :
    (rule.wake w).woken.length = w.woken.length + 1 := by
  by_cases empty : w.waiting = []
  · rw [rule.wake_of_empty w empty] at left
    exact absurd empty left
  · obtain ⟨i, hi, woken⟩ := rule.wake_of_waiting w empty
    simp [woken]

theorem wake_progress (rule : WakingRule) (w : Wakeups) :
    (rule.wake w).permits + w.waiting.length ≤ w.permits + (rule.wake w).waiting.length + 1 := by
  by_cases empty : w.waiting = []
  · simp [rule.wake_of_empty w empty, empty, Wakeups.permits]
  · obtain ⟨i, hi, woken⟩ := rule.wake_of_waiting w empty
    have fewer := List.length_erase_of_mem hi
    have positive := List.length_pos_of_mem hi
    simp only [woken, Wakeups.permits]
    omega

theorem sound_wake (rule : WakingRule) (h : w.Sound) : (rule.wake w).Sound := by
  refine ⟨(rule.present_wake w).nodup_iff.2 h.nodup, ?_⟩
  by_cases empty : w.waiting = []
  · simp [rule.wake_of_empty w empty, empty]
  · obtain ⟨i, hi, woken⟩ := rule.wake_of_waiting w empty
    rw [woken]
    intro permit
    exact absurd (h.empty_of_permit permit) empty

/-! ## Leaving -/

theorem mem_waiting_leave (h : j ∈ (rule.leave w i).waiting) : j ∈ w.waiting := by
  unfold leave at h
  split at h
  · have waits := mem_waiting_wake h
    exact waits
  · exact (List.mem_filter.1 h).1

theorem present_leave (rule : WakingRule) (h : w.Sound) (i : Nat) :
    (rule.leave w i).present.Perm (w.present.filter (· ≠ i)) := by
  have apart : ∀ a ∈ w.waiting, a ∉ w.woken := by
    intro a waits called
    exact (List.nodup_append.1 h.nodup).2.2 a waits a called rfl
  unfold leave
  split
  · next woken =>
    refine (rule.present_wake _).trans (List.Perm.of_eq ?_)
    have kept : w.waiting.filter (· ≠ i) = w.waiting :=
      filter_ne_of_not_mem fun waits => apart i waits (List.contains_iff_mem.1 woken)
    simp only [Wakeups.present, List.filter_append, kept]
  · next woken =>
    refine List.Perm.of_eq ?_
    have kept : w.woken.filter (· ≠ i) = w.woken :=
      filter_ne_of_not_mem fun called => woken (List.contains_iff_mem.2 called)
    simp only [Wakeups.present, List.filter_append, kept]

theorem mem_present_leave (h : w.Sound) : j ∈ (rule.leave w i).present ↔ j ∈ w.present ∧ j ≠ i := by
  rw [(rule.present_leave h i).mem_iff]
  simp

theorem sound_leave (rule : WakingRule) (h : w.Sound) (i : Nat) : (rule.leave w i).Sound := by
  unfold leave
  split
  · refine rule.sound_wake ⟨h.nodup.sublist ?_, h.empty_of_permit⟩
    exact List.Sublist.append_left List.filter_sublist w.waiting
  · refine ⟨h.nodup.sublist (List.Sublist.append_right List.filter_sublist w.woken), ?_⟩
    intro permit
    change w.waiting.filter _ = []
    rw [h.empty_of_permit permit, List.filter_nil]

/-- Unless nobody is left in line, a wake-up is not lost with the one who leaves. -/
theorem woken_leave (h : w.Sound) (left : (rule.leave w i).waiting ≠ []) :
    w.woken.length ≤ (rule.leave w i).woken.length := by
  unfold leave at left ⊢
  split
  · next woken =>
    rw [if_pos woken] at left
    have fewer := length_filter_ne (List.nodup_append.1 h.nodup).2.1 (List.contains_iff_mem.1 woken)
    have passed := woken_wake left
    simp only at passed
    omega
  · exact Nat.le_refl _

theorem leave_progress (rule : WakingRule) (h : w.Sound) (i : Nat) :
    (rule.leave w i).permits + w.waiting.length ≤
      w.permits + (rule.leave w i).waiting.length + 1 := by
  unfold leave
  split
  · exact rule.wake_progress { w with woken := w.woken.filter (· ≠ i) }
  · simp only [Wakeups.permits]
    by_cases hi : i ∈ w.waiting
    · have fewer := length_filter_ne (List.nodup_append.1 h.nodup).1 hi
      omega
    · rw [filter_ne_of_not_mem hi]
      omega

end WakingRule

namespace Wakeups

variable {w : Wakeups} {i j : Nat}

/-! ## Listening, and acting on a wake-up -/

theorem mem_waiting_listen (h : j ∈ (w.listen i).waiting) : j ∈ w.waiting ∨ j = i := by
  unfold listen at h
  split at h
  · exact Or.inl h
  · simpa using h

theorem woken_listen (w : Wakeups) (i : Nat) : (w.listen i).woken = w.woken := by
  unfold listen
  split <;> rfl

theorem present_listen (h : j ∈ (w.listen i).present) : j ∈ w.present ∨ j = i := by
  unfold present at h ⊢
  rw [woken_listen] at h
  rcases List.mem_append.1 h with inLine | woken
  · exact (mem_waiting_listen inLine).imp_left (List.mem_append_left _)
  · exact Or.inl (List.mem_append_right _ woken)

theorem listen_progress (w : Wakeups) (i : Nat) :
    (w.listen i).permits + w.waiting.length + 1 = w.permits + (w.listen i).waiting.length := by
  unfold listen
  split
  · next permit =>
    simp [permits, permit]
    omega
  · simp [permits]
    omega

theorem Sound.listen (h : w.Sound) (new : i ∉ w.present) : (w.listen i).Sound := by
  unfold Wakeups.listen
  split
  · exact ⟨h.nodup, fun permit => by cases permit⟩
  · next permit =>
    refine ⟨?_, fun kept => absurd kept permit⟩
    have moved : ((w.waiting ++ [i]) ++ w.woken).Perm (i :: w.present) :=
      (List.perm_append_singleton i w.waiting).append_right w.woken
    exact moved.nodup_iff.2 (List.nodup_cons.2 ⟨new, h.nodup⟩)

theorem Sound.wakeAll (h : w.Sound) : w.wakeAll.Sound :=
  ⟨h.nodup.sublist (List.sublist_append_right w.waiting w.woken), fun _ => rfl⟩

theorem Sound.consume (h : w.Sound) (i : Nat) : (w.consume i).Sound :=
  ⟨h.nodup.sublist (List.Sublist.append_left List.filter_sublist w.waiting), h.empty_of_permit⟩

theorem mem_present_consume (waits : i ∉ w.waiting) :
    j ∈ (w.consume i).present ↔ j ∈ w.present ∧ j ≠ i := by
  simp only [present, consume, List.mem_append, List.mem_filter, decide_eq_true_eq]
  constructor
  · rintro (h | ⟨h, other⟩)
    · exact ⟨Or.inl h, fun he => waits (he ▸ h)⟩
    · exact ⟨Or.inr h, other⟩
  · rintro ⟨h | h, other⟩
    · exact Or.inl h
    · exact Or.inr ⟨h, other⟩

theorem Sound.woken_consume (h : w.Sound) (i : Nat) :
    w.woken.length ≤ (w.consume i).woken.length + 1 := by
  by_cases hi : i ∈ w.woken
  · have fewer := length_filter_ne (List.nodup_append.1 h.nodup).2.1 hi
    exact Nat.le_of_eq fewer.symm
  · rw [Wakeups.consume, filter_ne_of_not_mem hi]
    exact Nat.le_succ _

end Wakeups
end RoleOperator
