import RoleOperator.Proofs.Finalization.Teardown

/-!
# What a finalization clears

A finalization deletes the role of the object as it was handed over, where that object says it is, and
nothing else; it creates nothing. Once it is completed, this one role has been deleted.
-/
namespace RoleOperator.Finalization

variable {role : Role} {key : ObjectKey} {past : List Exchange}

/-- Of the roles in Vault, only that of the object is touched, and only to delete it. -/
def Spares (role : Role) : Call → Prop
  | .create _ => False
  | .delete r name => r = role ∧ name = role.vaultName
  | _ => True

/-- Each call spares other roles, whatever has been answered before. -/
def Sparing {α : Type} (role : Role) (p : Program α) (past : List Exchange) : Prop :=
  p.Abides (fun _ => Spares role) (fun _ _ => True) past

theorem unregister_sparing : Sparing role (unregister key) past := by
  have rule : Patch.Rule (fun _ => True) (fun _ => Spares role) (fun _ _ => True) key .object
      Role.removeFinalizer := by
    constructor <;> intros <;> trivial
  refine Program.abides_bind.2 ((rule.patch trivial).mono ?_)
  rintro past (e | w) _
  · exact Program.abides_pure.2 trivial
  · exact Program.abides_pure.2 trivial

theorem deleteRole_sparing : Sparing role (deleteRole role) past := by
  rw [Sparing, deleteRole, Program.abides_bind, Program.abides_perform]
  refine ⟨trivial, ?_⟩
  rintro (e | ⟨⟩)
  · exact Program.abides_pure.2 trivial
  · exact ⟨⟨rfl, rfl⟩, fun _ => trivial⟩

theorem attempt_sparing {roleDeleted : Bool} :
    Sparing role (attempt role key roleDeleted) past :=
  attempt_abides_of (fun _ _ => True) (fun _ => trivial) deleteRole_sparing (fun _ _ => trivial)
    fun _ _ => unregister_sparing

/-- Whatever program the finalization is at spares other roles. -/
def StageSparing (role : Role) (past : List Exchange) : Stage → Prop
  | .attempting p => Sparing role p past
  | .removing _ p => Sparing role p past
  | .pausing _ | .ended _ => True

structure Course.Clearing (role : Role) (deadline : Nat) (c : Course) : Prop where
  safe : c.Safe role deadline
  sparing : StageSparing role (exchanges c.marks) c.machine.stage
  spared : ∀ x ∈ exchanges c.marks, Spares role x.1
  cleared : c.machine.outcome? = some .completed → Deleted role (exchanges c.marks)

theorem stageSparing_enterLoop {f : Finalization} {now : Nat} :
    StageSparing f.role past (f.enterLoop now).stage := by
  unfold enterLoop
  split
  · exact unregister_sparing
  · exact attempt_sparing

theorem outcome?_enterLoop (f : Finalization) (now : Nat) : (f.enterLoop now).outcome? = none := by
  unfold enterLoop
  split <;> rfl

namespace Course.Clearing

variable {c c' : Course} {deadline : Nat}

theorem advance (h : c.Clearing role deadline) (a : c.Advance c') :
    c'.Clearing role deadline := by
  have safe := h.safe.advance a
  have sparing := h.sparing
  cases a with
  | idle => exact ⟨safe, sparing, h.spared, h.cleared⟩
  | issue => exact ⟨safe, by simpa using sparing, by simpa using h.spared, by simpa using h.cleared⟩
  | @answer call next x _ pending =>
    have spares : Spares role call → ∀ y ∈ exchanges c.marks ++ [⟨call, x⟩], Spares role y.1 := by
      intro now y hy
      rcases List.mem_append.1 hy with hy | hy
      · exact h.spared y hy
      · rw [List.mem_singleton.1 hy]
        exact now
    rcases call?_eq_some pending with ⟨rest, stage, rfl⟩ | ⟨o, rest, stage, rfl⟩
    · rw [stage] at sparing
      refine ⟨safe, ?_, by simpa using spares sparing.1, by rintro ⟨⟩⟩
      rw [exchanges_returned]
      exact sparing.2 x
    · rw [stage] at sparing
      refine ⟨safe, ?_, by simpa using spares sparing.1, by rintro ⟨⟩⟩
      rw [exchanges_returned]
      exact sparing.2 x
  | settle _ stage =>
    refine ⟨safe, ?_, h.spared, ?_⟩ <;> unfold afterAttempt <;> dsimp only <;> split
    · exact unregister_sparing
    · split <;> trivial
    · rintro ⟨⟩
    · split <;> rintro ⟨⟩
  | @close o r stage =>
    refine ⟨safe, trivial, h.spared, ?_⟩
    rintro ⟨⟩
    have hs := h.safe.stands
    rw [Stands, stage] at hs
    rcases hs with ⟨_, deleted⟩ | ⟨timedOut, _⟩
    · exact deleted
    · cases timedOut
  | resume =>
    refine ⟨safe, h.safe.role_eq ▸ stageSparing_enterLoop, h.spared, ?_⟩
    intro ended
    rw [outcome?_enterLoop] at ended
    cases ended
  | giveUp => exact ⟨safe, trivial, h.spared, by rintro ⟨⟩⟩

end Course.Clearing

theorem clearing_beginning {settings : FinalizationSettings} {begin : Nat} :
    (Course.beginning settings begin role key).Clearing role (begin + settings.timeout.nanos) where
  safe := safe_beginning
  sparing := stageSparing_enterLoop
  spared := by
    intro x hx
    cases hx
  cleared ended := by
    rw [Course.beginning, outcome?_enterLoop] at ended
    cases ended

theorem start_eq_error {settings : FinalizationSettings} {begin : Nat} {registry : Registry}
    {o : Outcome} (h : (start settings begin registry role).1 = .error o) : o ≠ .completed := by
  unfold start at h
  split at h
  · cases h
    decide
  · split at h
    · cases h
      decide
    · cases h

/-- A completed finalization has deleted the role of its object, and has touched no other. -/
theorem clears_of_completed {settings : FinalizationSettings} {begin : Nat} {registry : Registry}
    {actions : List Action} {r : Report}
    (h : conduct settings begin registry role actions = some r)
    (completed : r.outcome = some .completed) :
    Deleted role (exchanges r.marks) ∧ ∀ x ∈ exchanges r.marks, Spares role x.1 := by
  unfold conduct at h
  split at h
  · next o turnedAway =>
    cases h
    exact absurd (Option.some.inj completed) (start_eq_error turnedAway)
  · next f ok =>
    obtain ⟨c, hr, rfl⟩ := Option.map_eq_some_iff.1 h
    obtain ⟨key, _, rfl⟩ := start_eq_ok ok
    have start : (Course.beginning settings begin role key).Clearing role
        (begin + settings.timeout.nanos) := clearing_beginning
    have clearing := Course.run_induction (fun a h => h.advance a) start hr
    exact ⟨clearing.cleared completed, clearing.spared⟩

end RoleOperator.Finalization
