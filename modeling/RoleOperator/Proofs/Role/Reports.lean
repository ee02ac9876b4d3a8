import RoleOperator.Proofs.Role.Finalizers

/-!
# Reports in the status of a role

What a report changes of a status, and that all of it shows in the JSON form: a report that changes
nothing in the JSON form changes nothing at all.
-/
namespace RoleOperator

theorem Phase.text_inj {a b : Phase} : a.text = b.text ↔ a = b := by
  cases a <;> cases b <;> simp [text]

theorem ConditionStatus.text_inj {a b : ConditionStatus} : a.text = b.text ↔ a = b := by
  cases a <;> cases b <;> simp [text]

theorem Json.ofInt_inj {m n : Int} : Json.ofInt m = Json.ofInt n ↔ m = n := by
  simp [Json.ofInt]

/-- The time at which a condition was seen apart, all of it shows. -/
theorem Condition.sameObservation_of_toJson {a b : Condition} (h : a.toJson = b.toJson) :
    a.sameObservation b := by
  have hm : a.type = b.type ∧ a.status = b.status ∧ a.reason = b.reason ∧ a.message = b.message := by
    cases hr : a.reason <;> cases hr' : b.reason <;> cases hs : a.message <;>
      cases hs' : b.message <;>
      simp_all [toJson, Json.optEntry, ConditionStatus.text_inj]
  simp [sameObservation, hm]

/-- The condition says that the role could not be created, and with which text. -/
structure Condition.SaysFailed (c : Condition) (text : String) : Prop where
  type : c.type = "Failure"
  status : c.status = .true
  reason : c.reason = some "FailedToCreateRole"
  message : c.message = some text

theorem Condition.sameObservation_failure {c : Condition} {now : Timestamp} {text : String} :
    c.sameObservation (failure now failedToCreateRole text) ↔ c.SaysFailed text := by
  simp only [sameObservation, Bool.and_eq_true, decide_eq_true_eq]
  constructor
  · rintro ⟨⟨⟨type, status⟩, reason⟩, message⟩
    exact ⟨type, status, reason, message⟩
  · rintro ⟨type, status, reason, message⟩
    exact ⟨⟨⟨type, status⟩, reason⟩, message⟩

namespace RoleStatus

variable {s t : RoleStatus} {c : Condition} {generation : Option Int} {text : String}
  {now later : Timestamp}

/-- Of the conditions, the JSON form shows a list of their forms. -/
theorem toJson_eq_iff : s.toJson = t.toJson ↔ s.phase = t.phase ∧
    s.observedGeneration = t.observedGeneration ∧
      s.conditions.map Condition.toJson = t.conditions.map Condition.toJson := by
  cases hg : s.observedGeneration <;> cases hg' : t.observedGeneration <;>
    cases hc : s.conditions <;> cases hc' : t.conditions <;>
    simp [toJson, hg, hg', hc, hc', Json.optEntry, Phase.text_inj, Json.ofInt_inj]

theorem eq_of_setSuccess_toJson (h : (s.setSuccess generation).toJson = s.toJson) :
    s.setSuccess generation = s := by
  obtain ⟨phase, observed, conditions⟩ := toJson_eq_iff.1 h
  have none_left : s.conditions = [] := List.map_eq_nil_iff.1 conditions.symm
  cases s
  simp_all [setSuccess]

theorem setFailure_phase : (s.setFailure c).phase = .failure := rfl

theorem setFailure_observedGeneration :
    (s.setFailure c).observedGeneration = s.observedGeneration := rfl

/-- After a failure there is one condition: the one that was there, if it says the same, or the new
one. -/
theorem setFailure_conditions : ∃ kept, (s.setFailure c).conditions = [kept] ∧
    (s.conditions = [kept] ∧ kept.sameObservation c ∨
      kept = c ∧ ∀ old, s.conditions = [old] → ¬ old.sameObservation c) := by
  unfold setFailure
  rcases hs : s.conditions with _ | ⟨old, _ | ⟨other, rest⟩⟩
  · exact ⟨c, rfl, Or.inr ⟨rfl, by simp⟩⟩
  · by_cases same : old.sameObservation c
    · exact ⟨old, by simp [same], Or.inl ⟨rfl, same⟩⟩
    · refine ⟨c, by simp [same], Or.inr ⟨rfl, ?_⟩⟩
      rintro _ ⟨⟩
      exact same
  · exact ⟨c, rfl, Or.inr ⟨rfl, by simp⟩⟩

/-- What a status `s` says, and has kept of the status before it, when a failure is reported at the
time `now`. -/
structure ReportsFailure (text : String) (now : Timestamp) (old s : RoleStatus) : Prop where
  phase : s.phase = .failure
  observedGeneration : s.observedGeneration = old.observedGeneration
  condition : ∃ c, s.conditions = [c] ∧ c.SaysFailed text ∧ (old.conditions = [c] ∨
    c.lastTransitionTime = now ∧ ∀ earlier, old.conditions = [earlier] → ¬ earlier.SaysFailed text)

theorem setFailure_reports (text : String) (now : Timestamp) (old : RoleStatus) :
    ReportsFailure text now old
      (old.setFailure (Condition.failure now Condition.failedToCreateRole text)) := by
  refine ⟨setFailure_phase, setFailure_observedGeneration, ?_⟩
  obtain ⟨kept, only, ⟨before, same⟩ | ⟨rfl, differs⟩⟩ := setFailure_conditions (s := old)
    (c := Condition.failure now Condition.failedToCreateRole text)
  · exact ⟨kept, only, Condition.sameObservation_failure.1 same, Or.inl before⟩
  · refine ⟨_, only, ⟨rfl, rfl, rfl, rfl⟩, Or.inr ⟨rfl, fun earlier h same => ?_⟩⟩
    exact differs earlier h (Condition.sameObservation_failure.2 same)

/-- A failure that has been reported already stays as it was. -/
theorem ReportsFailure.setFailure_eq {old : RoleStatus} (h : ReportsFailure text now old s) :
    s.setFailure (Condition.failure later Condition.failedToCreateRole text) = s := by
  obtain ⟨c, only, failed, -⟩ := h.condition
  have same : c.sameObservation (Condition.failure later Condition.failedToCreateRole text) :=
    Condition.sameObservation_failure.2 failed
  have phase := h.phase
  simp only [setFailure, only, same, if_true]
  cases s
  simp_all

theorem eq_of_setFailure_toJson (h : (s.setFailure c).toJson = s.toJson) : s.setFailure c = s := by
  obtain ⟨phase, -, conditions⟩ := toJson_eq_iff.1 h
  obtain ⟨kept, only, ⟨before, -⟩ | ⟨rfl, differs⟩⟩ := setFailure_conditions (s := s) (c := c)
  · have same : (s.setFailure c).conditions = s.conditions := only.trans before.symm
    rw [setFailure_phase] at phase
    have frame : s.setFailure c =
        { s with phase := .failure, conditions := (s.setFailure c).conditions } := rfl
    rw [frame, same, phase]
  · -- A condition with the same JSON form would have been kept.
    rw [only, List.map_singleton, eq_comm, List.map_eq_singleton_iff] at conditions
    obtain ⟨old, hs, shown⟩ := conditions
    exact absurd (Condition.sameObservation_of_toJson shown) (differs old hs)

end RoleStatus

/-- Whatever the change does to a role shows in the JSON form. -/
def Shows (change : Role → Role) : Prop := ∀ r, (change r).toJson = r.toJson → change r = r

namespace Role

theorem mapStatus_toJson_eq {r : Role} {f : RoleStatus → RoleStatus} :
    (r.mapStatus f).toJson = r.toJson ↔ ∃ s, r.status = some s ∧ (f s).toJson = s.toJson := by
  cases hs : r.status <;> simp [toJson, mapStatus, kind, hs, Json.optEntry]

theorem shows_mapStatus {f : RoleStatus → RoleStatus}
    (h : ∀ s, (f s).toJson = s.toJson → f s = s) : Shows (mapStatus f) := by
  intro r same
  obtain ⟨s, hs, shown⟩ := mapStatus_toJson_eq.1 same
  rw [mapStatus, hs, Option.getD_some, h s shown, ← hs]

theorem shows_setSuccess (generation : Option Int) :
    Shows (mapStatus fun s => s.setSuccess generation) :=
  shows_mapStatus fun _ => RoleStatus.eq_of_setSuccess_toJson

theorem shows_setFailure (c : Condition) : Shows (mapStatus fun s => s.setFailure c) :=
  shows_mapStatus fun _ => RoleStatus.eq_of_setFailure_toJson

theorem shows_addFinalizer : Shows addFinalizer := by
  intro r same
  unfold addFinalizer at same ⊢
  split at same
  · next h => rw [if_pos h]
  · next h =>
    have kept := withFinalizers_toJson_eq.1 same
    rw [if_neg h, withFinalizers, ← kept]

theorem addFinalizer_toJson_eq {r : Role} : r.addFinalizer.toJson = r.toJson ↔ r.hasFinalizer := by
  constructor
  · intro same
    rw [← shows_addFinalizer r same]
    exact hasFinalizer_addFinalizer r
  · intro held
    rw [addFinalizer, if_pos held]

end Role
end RoleOperator
