import RoleOperator.Proofs.Store.Retrying

/-!
# Attempts of a patch

A run of a patch is a number of attempts that lost a race and one more attempt, which ends it. Each
attempt reads the object, and writes the change of what it has just read unless that would not show.
-/
namespace RoleOperator.Patch

variable {key : ObjectKey} {target : WriteTarget} {change : Role → Role} {n retries : Nat}
  {xs : List Exchange} {result : Except Fault Role}

/-- The attempt that ends a patch. -/
inductive Concludes (key : ObjectKey) (target : WriteTarget) (change : Role → Role) :
    List Exchange → Except Fault Role → Prop where
  | unread (e : Fault) : Concludes key target change [⟨.get key, .error e⟩] (.error e)
  | absent : Concludes key target change [⟨.get key, .ok none⟩] (.error (.notFound key.text))
  | unchanged {v : Role} (same : (change v).toJson = v.toJson) :
      Concludes key target change [⟨.get key, .ok (some v)⟩] (.ok (change v))
  | answered {v : Role} (shows : (change v).toJson ≠ v.toJson) (answer : Except Fault Role) :
      Concludes key target change
        [⟨.get key, .ok (some v)⟩, ⟨.write (change v) target, answer⟩] answer

/-- A run, by the number of races that it has lost. -/
inductive Tries (key : ObjectKey) (target : WriteTarget) (change : Role → Role) :
    Nat → List Exchange → Except Fault Role → Prop where
  | last {xs : List Exchange} {result : Except Fault Role}
      (concluded : Concludes key target change xs result) : Tries key target change 0 xs result
  | again {n : Nat} {xs : List Exchange} {result : Except Fault Role} {v : Role} {e : Fault}
      (shows : (change v).toJson ≠ v.toJson) (conflict : e.isConflict)
      (rest : Tries key target change n xs result) :
      Tries key target change (n + 1)
        (⟨.get key, .ok (some v)⟩ :: ⟨.write (change v) target, .error e⟩ :: xs) result

/-- The attempts of a change that remembers nothing. -/
theorem tries_of_goes {memory : Unit}
    (goes : Goes key target (fun memory v => (change v, memory)) retries memory xs result) :
    ∃ n ≤ retries, Tries key target change n xs result := by
  induction goes with
  | unread e => exact ⟨0, Nat.zero_le _, .last (.unread e)⟩
  | absent => exact ⟨0, Nat.zero_le _, .last .absent⟩
  | unchanged same => exact ⟨0, Nat.zero_le _, .last (.unchanged same)⟩
  | written shows | refused shows => exact ⟨0, Nat.zero_le _, .last (.answered shows _)⟩
  | again shows conflict _ ih =>
    obtain ⟨n, few, tries⟩ := ih
    exact ⟨n + 1, Nat.succ_le_succ few, .again shows conflict tries⟩

theorem loop_tries (run : (Patch.loop key target change retries).Yields xs result) :
    ∃ n ≤ retries, Tries key target change n xs result := by
  rw [← loopWith_forgetful change retries ()] at run
  exact tries_of_goes (loopWith_goes run)

theorem tries_of_yields (run : (patch key target change).Yields xs result) :
    ∃ n < Patch.attempts, Tries key target change n xs result := by
  obtain ⟨n, few, tries⟩ := loop_tries run
  exact ⟨n, Nat.lt_of_le_pred (by decide) few, tries⟩

/-! ## How it ends -/

theorem Concludes.length_le (h : Concludes key target change xs result) : xs.length ≤ 2 := by
  cases h <;> simp

theorem Tries.length_le (h : Tries key target change n xs result) : xs.length ≤ 2 * (n + 1) := by
  induction h with
  | last concluded => exact concluded.length_le
  | again shows conflict rest ih =>
    rw [List.length_cons, List.length_cons]
    omega

/-- What a request fails with. What is not there is not found. -/
def fault? : Exchange → Option Fault
  | ⟨.get key, .ok none⟩ => some (.notFound key.text)
  | ⟨.get _, .error e⟩ => some e
  | ⟨.write _ _, .error e⟩ => some e
  | _ => none

/-- The last attempt gives a run its result. -/
theorem Tries.concludes (h : Tries key target change n xs result) :
    ∃ lost ending, xs = lost ++ ending ∧ Concludes key target change ending result := by
  induction h with
  | @last xs result concluded => exact ⟨[], xs, rfl, concluded⟩
  | again shows conflict rest ih =>
    obtain ⟨lost, ending, rfl, concluded⟩ := ih
    exact ⟨_ :: _ :: lost, ending, rfl, concluded⟩

/-- A request that fails has lost a race, or its failure is the result. -/
theorem Tries.conflict_or_last (h : Tries key target change n xs result) {x : Exchange} {e : Fault}
    (hx : x ∈ xs) (fails : fault? x = some e) : e.isConflict ∨ result = .error e := by
  induction h with
  | @last xs result concluded =>
    -- A read of what is there does not fail, so it is the last request that does.
    right
    cases concluded with
    | unread | absent | unchanged => simp_all [fault?]
    | answered =>
      rcases List.mem_cons.1 hx with rfl | hx
      · cases fails
      · obtain rfl := List.mem_singleton.1 hx
        cases result <;> simp_all [fault?]
  | again shows conflict rest ih =>
    rcases List.mem_cons.1 hx with rfl | hx
    · cases fails
    rcases List.mem_cons.1 hx with rfl | hx
    · cases fails
      exact Or.inl conflict
    · exact ih hx

/-! ## What is written -/

/-- Every version that a run writes is the change of one that it has read and that needed it. -/
theorem Tries.writes (h : Tries key target change n xs result) {w : Role} {t : WriteTarget}
    {answer : Except Fault Role} (hx : ⟨.write w t, answer⟩ ∈ xs) :
    t = target ∧ ∃ v, ⟨.get key, .ok (some v)⟩ ∈ xs ∧ (change v).toJson ≠ v.toJson ∧
      w = change v := by
  induction h with
  | last concluded => cases concluded <;> simp_all
  | @again n xs result v e shows conflict rest ih =>
    rcases List.mem_cons.1 hx with hx | hx
    · cases hx
    rcases List.mem_cons.1 hx with hx | hx
    · cases hx
      exact ⟨rfl, v, by simp, shows, rfl⟩
    · obtain ⟨ht, v', read, shows', hw⟩ := ih hx
      exact ⟨ht, v', by simp [read], shows', hw⟩

/-- Every version that a run reads needs the change and is written with it, or it is the last one. -/
theorem Tries.reads (h : Tries key target change n xs result) {v : Role}
    (hx : ⟨.get key, .ok (some v)⟩ ∈ xs) :
    ((change v).toJson ≠ v.toJson ∧ ∃ answer, ⟨.write (change v) target, answer⟩ ∈ xs) ∨
      (change v).toJson = v.toJson ∧ result = .ok (change v) := by
  induction h with
  | last concluded => cases concluded <;> simp_all
  | @again n xs result v' e shows conflict rest ih =>
    rcases List.mem_cons.1 hx with hx | hx
    · cases hx
      exact Or.inl ⟨shows, .error e, by simp⟩
    rcases List.mem_cons.1 hx with hx | hx
    · cases hx
    refine (ih hx).imp_left ?_
    rintro ⟨needed, answer, written⟩
    exact ⟨needed, answer, by simp [written]⟩

/-- What a run returns is a version that it has read, or that a write was answered with. -/
theorem Tries.returns {u : Role} (h : Tries key target change n xs (.ok u)) :
    (∃ v, ⟨.get key, .ok (some v)⟩ ∈ xs ∧ (change v).toJson = v.toJson ∧ u = change v) ∨
      ∃ v, ⟨.get key, .ok (some v)⟩ ∈ xs ∧ (change v).toJson ≠ v.toJson ∧
        ⟨.write (change v) target, .ok u⟩ ∈ xs := by
  generalize hr : (Except.ok u : Except Fault Role) = result at h
  induction h with
  | last concluded => cases concluded <;> simp_all
  | again shows conflict rest ih =>
    rcases ih hr with ⟨v, read, same, hu⟩ | ⟨v, read, needed, written⟩
    · exact Or.inl ⟨v, by simp [read], same, hu⟩
    · exact Or.inr ⟨v, by simp [read], needed, by simp [written]⟩

end RoleOperator.Patch
