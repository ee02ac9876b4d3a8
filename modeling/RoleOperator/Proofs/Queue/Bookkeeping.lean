import RoleOperator.Proofs.Association
import RoleOperator.Queue.WorkQueue

/-!
# Bookkeeping of the work queue

What each operation does to the three lists of keys, and the order that all operations keep among
them: a waiting key is dirty and nobody processes it, and until the queue is shut down a dirty key
waits or is being processed.
-/
namespace RoleOperator.WorkQueue

variable {q q' : WorkQueue} {key k : String}

/-- The lists of keys agree with each other. -/
structure Sound (q : WorkQueue) : Prop where
  waiting_nodup : q.waiting.Nodup
  processing_nodup : q.processing.Nodup
  dirty_of_waiting : ∀ k ∈ q.waiting, k ∈ q.dirty
  idle_of_waiting : ∀ k ∈ q.waiting, k ∉ q.processing
  placed_of_dirty : q.isDown = false → ∀ k ∈ q.dirty, k ∈ q.waiting ∨ k ∈ q.processing

theorem sound_empty (base max : Duration) : Sound { baseDelay := base, maxDelay := max } := by
  constructor <;> simp

/-! ## Adding -/

/-- Adding concerns the line and the dirty keys. -/
theorem add_frame (q : WorkQueue) (key : String) :
    (q.add key).2 = { q with waiting := (q.add key).2.waiting, dirty := (q.add key).2.dirty } := by
  unfold add
  split
  · rfl
  · dsimp only
    split <;> rfl

theorem add_isDown (q : WorkQueue) (key : String) : (q.add key).2.isDown = q.isDown := by
  rw [add_frame]

theorem add_processing (q : WorkQueue) (key : String) :
    (q.add key).2.processing = q.processing := by rw [add_frame]

/-- Adding makes the key dirty, and no other, unless the queue is down. -/
theorem mem_dirty_add (q : WorkQueue) (key k : String) :
    k ∈ (q.add key).2.dirty ↔ k ∈ q.dirty ∨ k = key ∧ q.isDown = false := by
  unfold add
  cases hd : q.isDown with
  | true => simp
  | false =>
    by_cases hk : key ∈ q.dirty
    · simp only [Bool.false_or, List.contains_eq_mem, hk, decide_true, if_true, and_true]
      constructor
      · exact Or.inl
      · rintro (h | rfl)
        · exact h
        · exact hk
    · simp only [Bool.false_or, List.contains_eq_mem, hk, decide_false, Bool.false_eq_true,
        if_false, and_true]
      split <;> simp

/-- A key that is new and that nobody processes goes to the end of the line. -/
theorem add_waiting (q : WorkQueue) (key : String) :
    (q.add key).2.waiting =
      if q.isDown = false ∧ key ∉ q.dirty ∧ key ∉ q.processing then q.waiting ++ [key]
      else q.waiting := by
  unfold add
  cases hd : q.isDown <;> by_cases hk : key ∈ q.dirty <;> by_cases hp : key ∈ q.processing <;>
    simp [hk, hp]

theorem Sound.add (h : Sound q) (key : String) : Sound (q.add key).2 := by
  have hw := add_waiting q key
  have hp := add_processing q key
  by_cases hn : q.isDown = false ∧ key ∉ q.dirty ∧ key ∉ q.processing
  · rw [if_pos hn] at hw
    have hnew : key ∉ q.waiting := fun hm => hn.2.1 (h.dirty_of_waiting key hm)
    constructor
    · rw [hw]
      exact nodup_snoc h.waiting_nodup hnew
    · rw [hp]
      exact h.processing_nodup
    · intro k hk
      rw [hw, List.mem_append, List.mem_singleton] at hk
      rw [mem_dirty_add]
      exact hk.imp (h.dirty_of_waiting k) fun he => ⟨he, hn.1⟩
    · intro k hk
      rw [hw, List.mem_append, List.mem_singleton] at hk
      rw [hp]
      rcases hk with hk | rfl
      · exact h.idle_of_waiting k hk
      · exact hn.2.2
    · intro hd k hk
      rw [add_isDown] at hd
      rw [hw, hp, List.mem_append, List.mem_singleton]
      rcases (mem_dirty_add q key k).1 hk with hk | ⟨he, _⟩
      · exact (h.placed_of_dirty hd k hk).imp_left Or.inl
      · exact Or.inl (Or.inr he)
  · rw [if_neg hn] at hw
    constructor
    · rw [hw]
      exact h.waiting_nodup
    · rw [hp]
      exact h.processing_nodup
    · intro k hk
      rw [hw] at hk
      exact (mem_dirty_add q key k).2 (Or.inl (h.dirty_of_waiting k hk))
    · intro k hk
      rw [hw] at hk
      rw [hp]
      exact h.idle_of_waiting k hk
    · intro hd k hk
      rw [add_isDown] at hd
      rw [hw, hp]
      rcases (mem_dirty_add q key k).1 hk with hk | ⟨rfl, _⟩
      · exact h.placed_of_dirty hd k hk
      · -- The key was not put in line: it was dirty already, or it is being processed.
        by_cases hk : k ∈ q.dirty
        · exact h.placed_of_dirty hd k hk
        · by_cases hkp : k ∈ q.processing
          · exact Or.inr hkp
          · exact absurd ⟨hd, hk, hkp⟩ hn

/-! ## Handing out -/

/-- What is handed out is the head of the line; it is being processed from then on. -/
theorem take?_eq_some (h : q.take? = some (key, q')) :
    q.isDown = false ∧ ∃ rest, q.waiting = key :: rest ∧
      q' = { q with
        waiting := rest
        dirty := q.dirty.filter (· ≠ key)
        processing := if q.processing.contains key then q.processing else q.processing ++ [key] } := by
  unfold take? at h
  split at h
  · cases h
  · rename_i hd
    split at h
    · cases h
    · rename_i head rest hw
      cases h
      exact ⟨by simpa using hd, rest, hw, rfl⟩

theorem mem_dirty_take (h : q.take? = some (key, q')) (k : String) :
    k ∈ q'.dirty ↔ k ∈ q.dirty ∧ k ≠ key := by
  obtain ⟨_, rest, _, rfl⟩ := take?_eq_some h
  simp

theorem mem_processing_take (h : q.take? = some (key, q')) (k : String) :
    k ∈ q'.processing ↔ k ∈ q.processing ∨ k = key := by
  obtain ⟨_, rest, _, rfl⟩ := take?_eq_some h
  by_cases hp : key ∈ q.processing
  · simp only [List.contains_eq_mem, hp, decide_true, if_true]
    exact ⟨Or.inl, fun h => h.elim id fun he => he ▸ hp⟩
  · simp [hp]

/-- A key is only handed out while nobody processes it. -/
theorem Sound.idle_of_take (s : Sound q) (h : q.take? = some (key, q')) : key ∉ q.processing := by
  obtain ⟨_, rest, hw, _⟩ := take?_eq_some h
  exact s.idle_of_waiting key (by simp [hw])

theorem Sound.dirty_of_take (s : Sound q) (h : q.take? = some (key, q')) : key ∈ q.dirty := by
  obtain ⟨_, rest, hw, _⟩ := take?_eq_some h
  exact s.dirty_of_waiting key (by simp [hw])

theorem Sound.take (s : Sound q) (h : q.take? = some (key, q')) : Sound q' := by
  have hidle := s.idle_of_take h
  have hdirty := mem_dirty_take h
  have hproc := mem_processing_take h
  obtain ⟨hd, rest, hw, rfl⟩ := take?_eq_some h
  have hnd : (key :: rest).Nodup := hw ▸ s.waiting_nodup
  obtain ⟨hfresh, hrest⟩ := List.nodup_cons.1 hnd
  constructor
  · exact hrest
  · simp only [List.contains_eq_mem, hidle, decide_false, Bool.false_eq_true, if_false]
    exact nodup_snoc s.processing_nodup hidle
  · intro k hk
    refine (hdirty k).2 ⟨s.dirty_of_waiting k (by simp [hw, show k ∈ rest from hk]), ?_⟩
    exact fun he => hfresh (he ▸ hk)
  · intro k hk hp
    rcases (hproc k).1 hp with hp | he
    · exact s.idle_of_waiting k (by simp [hw, show k ∈ rest from hk]) hp
    · exact hfresh (he ▸ hk)
  · intro _ k hk
    obtain ⟨hk, hne⟩ := (hdirty k).1 hk
    rcases s.placed_of_dirty hd k hk with hk | hk
    · rw [hw, List.mem_cons] at hk
      exact Or.inl (hk.resolve_left hne)
    · exact Or.inr ((hproc k).2 (Or.inl hk))

/-! ## Giving back -/

/-- Giving back concerns the line and the keys that are being processed. -/
theorem done_frame (q : WorkQueue) (key : String) :
    (q.done key).2 = { q with
      waiting := (q.done key).2.waiting, processing := q.processing.filter (· ≠ key) } := by
  unfold done
  dsimp only
  split <;> rfl

theorem done_isDown (q : WorkQueue) (key : String) : (q.done key).2.isDown = q.isDown := by
  rw [done_frame]

theorem done_dirty (q : WorkQueue) (key : String) : (q.done key).2.dirty = q.dirty := by
  rw [done_frame]

theorem done_processing (q : WorkQueue) (key : String) :
    (q.done key).2.processing = q.processing.filter (· ≠ key) := by
  rw [done_frame]

theorem mem_processing_done (q : WorkQueue) (key k : String) :
    k ∈ (q.done key).2.processing ↔ k ∈ q.processing ∧ k ≠ key := by
  simp [done_processing]

/-- A key that became dirty meanwhile goes to the end of the line. -/
theorem done_waiting (q : WorkQueue) (key : String) :
    (q.done key).2.waiting =
      if key ∈ q.dirty ∧ q.isDown = false then q.waiting ++ [key] else q.waiting := by
  unfold done
  cases hd : q.isDown <;> by_cases hk : key ∈ q.dirty <;> simp [hk]

/-- Only a key that is being processed may be given back. -/
theorem Sound.done (s : Sound q) (held : key ∈ q.processing) : Sound (q.done key).2 := by
  have hw := done_waiting q key
  have hnew : key ∉ q.waiting := fun hm => s.idle_of_waiting key hm held
  have hproc := mem_processing_done q key
  constructor
  · rw [hw]
    split
    · exact nodup_snoc s.waiting_nodup hnew
    · exact s.waiting_nodup
  · rw [done_processing]
    exact s.processing_nodup.filter _
  · intro k hk
    rw [done_dirty]
    rw [hw] at hk
    split at hk
    · rename_i hdirty
      rcases List.mem_append.1 hk with hk | hk
      · exact s.dirty_of_waiting k hk
      · exact List.mem_singleton.1 hk ▸ hdirty.1
    · exact s.dirty_of_waiting k hk
  · intro k hk hp
    obtain ⟨hp, hne⟩ := (hproc k).1 hp
    rw [hw] at hk
    split at hk
    · rcases List.mem_append.1 hk with hk | hk
      · exact s.idle_of_waiting k hk hp
      · exact hne (List.mem_singleton.1 hk)
    · exact s.idle_of_waiting k hk hp
  · intro hd k hk
    rw [done_isDown] at hd
    rw [done_dirty] at hk
    rw [hw, hproc k]
    by_cases hkk : k = key
    · subst hkk
      rw [if_pos ⟨hk, hd⟩]
      exact Or.inl (by simp)
    · rcases s.placed_of_dirty hd k hk with hkw | hkp
      · left
        split
        · exact List.mem_append.2 (Or.inl hkw)
        · exact hkw
      · exact Or.inr ⟨hkp, hkk⟩

/-! ## Failures and shutdown -/

/-- Soundness is about the lists of keys and the flag; the failure counts play no part. -/
theorem Sound.of_eq (s : Sound q) (hw : q'.waiting = q.waiting) (hd : q'.dirty = q.dirty)
    (hp : q'.processing = q.processing) (hdown : q'.isDown = q.isDown) : Sound q' := by
  constructor
  · exact hw ▸ s.waiting_nodup
  · exact hp ▸ s.processing_nodup
  · rw [hw, hd]
    exact s.dirty_of_waiting
  · rw [hw, hp]
    exact s.idle_of_waiting
  · rw [hdown, hd, hw, hp]
    exact s.placed_of_dirty

theorem Sound.forget (s : Sound q) (key : String) : Sound (q.forget key) :=
  s.of_eq rfl rfl rfl rfl

theorem Sound.fail (s : Sound q) (key : String) : Sound (q.fail key).2 :=
  s.of_eq rfl rfl rfl rfl

theorem Sound.shutDown (s : Sound q) : Sound q.shutDown := by
  refine ⟨s.waiting_nodup, s.processing_nodup, s.dirty_of_waiting, s.idle_of_waiting, ?_⟩
  intro h
  cases h

theorem lookup_forget (q : WorkQueue) (key k : String) :
    (q.forget key).failures.lookup k = if k = key then none else q.failures.lookup k :=
  lookup_filter_ne q.failures k key

theorem lookup_fail (q : WorkQueue) (key k : String) : (q.fail key).2.failures.lookup k =
    if k = key then some (q.requeues key + 1) else q.failures.lookup k :=
  lookup_replace q.failures k key _

theorem requeues_forget (q : WorkQueue) (key k : String) :
    (q.forget key).requeues k = if k = key then 0 else q.requeues k := by
  simp only [requeues, lookup_forget]
  split <;> rfl

theorem requeues_fail (q : WorkQueue) (key k : String) :
    (q.fail key).2.requeues k = if k = key then q.requeues key + 1 else q.requeues k := by
  rw [requeues, lookup_fail]
  split <;> rfl

theorem requeues_add (q : WorkQueue) (key k : String) :
    (q.add key).2.requeues k = q.requeues k := by
  rw [add_frame]
  rfl

theorem requeues_done (q : WorkQueue) (key k : String) :
    (q.done key).2.requeues k = q.requeues k := by
  rw [done_frame]
  rfl

theorem requeues_take (h : q.take? = some (key, q')) (k : String) :
    q'.requeues k = q.requeues k := by
  obtain ⟨_, rest, _, rfl⟩ := take?_eq_some h
  rfl

/-- A key without failures has no entry. -/
def Counted (q : WorkQueue) : Prop := ∀ k, q.failures.lookup k ≠ some 0

theorem Counted.lookup (h : Counted q) (zero : q.requeues k = 0) : q.failures.lookup k = none := by
  rcases Option.eq_none_or_eq_some (q.failures.lookup k) with hl | ⟨n, hl⟩
  · exact hl
  · rw [requeues, hl, Option.getD_some] at zero
    exact absurd (zero ▸ hl) (h k)

theorem Counted.forget (h : Counted q) (key : String) : Counted (q.forget key) := by
  intro k
  rw [lookup_forget]
  split
  · simp
  · exact h k

theorem Counted.fail (h : Counted q) (key : String) : Counted (q.fail key).2 := by
  intro k
  rw [lookup_fail]
  split
  · simp
  · exact h k

end RoleOperator.WorkQueue
