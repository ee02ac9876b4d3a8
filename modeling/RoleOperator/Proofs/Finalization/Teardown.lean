import RoleOperator.Proofs.Finalization.Course

/-!
# Safe teardown

The finalizer is the only thing that keeps a deleted object until its role in Vault is gone. So it is
taken off only after the role has been deleted, or once the deadline has passed; and a finalization
that gives up, or does not even begin, has written nothing.
-/
namespace RoleOperator.Finalization

variable {role : Role} {key : ObjectKey} {past : List Exchange}

/-! ## Attempts -/

def Deleted (role : Role) (past : List Exchange) : Prop :=
  ⟨.delete role role.vaultName, .ok ()⟩ ∈ past

/-- Whether a write has been accepted. -/
def accepts : Exchange → Bool
  | ⟨.write _ _, .ok _⟩ => true
  | _ => false

def Written (past : List Exchange) : Prop := ∃ x ∈ past, accepts x

/-- Writes are held back until the role has been deleted. -/
def HeldBack (role : Role) (past : List Exchange) (call : Call) : Prop :=
  ∀ w target, call = .write w target → Deleted role past

theorem Deleted.append (h : Deleted role past) (more : List Exchange) :
    Deleted role (past ++ more) := List.mem_append_left more h

theorem unwritten_append {more : List Exchange} (unwritten : ¬ Written past)
    (quiet : more.any accepts = false) : ¬ Written (past ++ more) := by
  rintro ⟨x, hx, ha⟩
  rcases List.mem_append.1 hx with hx | hx
  · exact unwritten ⟨x, hx, ha⟩
  · exact Bool.false_ne_true (quiet.symm.trans (List.any_eq_true.2 ⟨x, hx, ha⟩))

theorem heldBack_of_deleted {call : Call} (h : Deleted role past) : HeldBack role past call :=
  fun _ _ _ => h

/-- Once the role has been deleted, a removal that has written reports success. -/
theorem rule_of_deleted :
    Patch.Rule (fun past => Deleted role past ∧ ¬ Written past) (HeldBack role)
      (fun past r => Deleted role past ∧ (Written past → r.isOk)) key .object
      Role.removeFinalizer where
  read h := heldBack_of_deleted h.1
  unread h := ⟨h.1.append _, fun hw => absurd hw (unwritten_append h.2 rfl)⟩
  absent h := ⟨h.1.append _, fun hw => absurd hw (unwritten_append h.2 rfl)⟩
  unchanged h _ := ⟨h.1.append _, fun _ => rfl⟩
  write h _ := heldBack_of_deleted (h.1.append _)
  written h _ := ⟨h.1.append _, fun _ => rfl⟩
  refused h _ := ⟨h.1.append _, fun hw => absurd hw (unwritten_append h.2 rfl)⟩
  again h _ _ := ⟨h.1.append _, unwritten_append h.2 rfl⟩

theorem unregister_abides (deleted : Deleted role past) (unwritten : ¬ Written past) :
    (unregister key).Abides (HeldBack role)
      (fun past r => Deleted role past ∧ (Written past → r.isOk)) past := by
  refine Program.abides_bind.2 ((rule_of_deleted.patch ⟨deleted, unwritten⟩).mono ?_)
  rintro past (e | w) ⟨hd, hw⟩
  · exact Program.abides_pure.2 ⟨hd, fun h => absurd (hw h) Bool.false_ne_true⟩
  · exact Program.abides_pure.2 ⟨hd, fun _ => rfl⟩

theorem deleteRole_abides (unwritten : ¬ Written past) :
    (deleteRole role).Abides (HeldBack role)
      (fun past r => (r.isOk → Deleted role past) ∧ ¬ Written past) past := by
  rw [deleteRole, Program.abides_bind, Program.abides_perform]
  refine ⟨by rintro w target ⟨⟩, ?_⟩
  rintro (e | _)
  · refine Program.abides_pure.2 ⟨fun h => absurd h Bool.false_ne_true, ?_⟩
    exact unwritten_append unwritten rfl
  refine Program.abides_perform.2 ⟨by rintro w target ⟨⟩, fun deleted => ⟨fun h => ?_, ?_⟩⟩
  · cases deleted with
    | error e => exact absurd h Bool.false_ne_true
    | ok => exact List.mem_append_right _ (List.mem_singleton.2 rfl)
  · exact unwritten_append (unwritten_append unwritten rfl) rfl

/-- An attempt that reports a deletion has made it or found it made. One that has written reports the
removal. -/
def Attempted (role : Role) (past : List Exchange) (a : Attempt) : Prop :=
  (a.roleDeleted ∨ a.removed → Deleted role past) ∧ (Written past → a.removed)

theorem attempt_abides {roleDeleted : Bool} (deleted : roleDeleted → Deleted role past)
    (unwritten : ¬ Written past) :
    (attempt role key roleDeleted).Abides (HeldBack role) (Attempted role) past := by
  refine attempt_abides_of (fun past r => (r → Deleted role past) ∧ ¬ Written past)
    (fun h => ⟨fun _ => deleted h, unwritten⟩) (deleteRole_abides unwritten) ?_ ?_
  · rintro past ⟨_, hw⟩
    exact ⟨by simp, fun h => absurd h hw⟩
  · rintro past ⟨hd, hw⟩
    exact (unregister_abides (hd rfl) hw).mono fun past r h => ⟨fun _ => h.1, h.2⟩

/-! ## Courses -/

/-- What has been achieved at each stage, by the deadline or by a deletion. -/
def Stands (role : Role) (deadline : Nat) (past : List Exchange) (f : Finalization) (now : Nat) :
    Prop :=
  match f.stage with
  | .attempting p => p.Abides (HeldBack role) (Attempted role) past
  | .pausing _ => (f.roleDeleted → Deleted role past) ∧ ¬ Written past
  | .removing o _ => (o = .completed ∧ Deleted role past) ∨ (o = .timedOut ∧ deadline ≤ now)
  | .ended o => o = .completed ∨ o = .timedOut ∨ (o = .abandoned ∧ ¬ Written past)

/-- A write may be issued after the deletion of the role, or from the deadline on. -/
def Licensed (role : Role) (deadline : Nat) (before : List Mark) (time : Nat) (call : Call) : Prop :=
  HeldBack role (exchanges before) call ∨ deadline ≤ time

structure Course.Safe (role : Role) (deadline : Nat) (c : Course) : Prop where
  role_eq : c.machine.role = role
  deadline_eq : c.machine.deadline = deadline
  stands : Stands role deadline (exchanges c.marks) c.machine c.now
  licensed : Issues (Licensed role deadline) c.marks

variable {deadline now now' : Nat} {f : Finalization}

theorem Stands.later (h : Stands role deadline past f now) (hn : now ≤ now') :
    Stands role deadline past f now' := by
  unfold Stands at h ⊢
  split at h
  · exact h
  · exact h
  · exact h.imp_right fun ⟨ho, hd⟩ => ⟨ho, Nat.le_trans hd hn⟩
  · exact h

theorem stands_enterLoop (role_eq : f.role = role) (deadline_eq : f.deadline = deadline)
    (deleted : f.roleDeleted → Deleted role past) (unwritten : ¬ Written past) :
    Stands role deadline past (f.enterLoop now) now := by
  unfold enterLoop
  split
  · next h => exact Or.inr ⟨rfl, deadline_eq ▸ h⟩
  · exact role_eq ▸ attempt_abides (role_eq ▸ deleted) unwritten

theorem stands_afterAttempt {a : Attempt} {noticed : Bool} (h : Attempted role past a) :
    Stands role deadline past (f.afterAttempt now noticed a) now := by
  unfold afterAttempt
  dsimp only
  split
  · next removed => exact Or.inl ⟨rfl, h.1 (Or.inr removed)⟩
  · next left =>
    -- Whatever has been written would have been reported as a removal.
    have unwritten : ¬ Written past := fun hw => left (h.2 hw)
    split
    · exact Or.inr (Or.inr ⟨rfl, unwritten⟩)
    · exact ⟨fun deleted => h.1 (Or.inl deleted), unwritten⟩

namespace Course.Safe

variable {c c' : Course}

theorem issue {call : Call} {next : call.Answer → Finalization} (h : c.Safe role deadline)
    (pending : c.machine.call? = some ⟨call, next⟩) :
    Licensed role deadline c.marks c.now call := by
  have hs := h.stands
  rcases call?_eq_some pending with ⟨rest, stage, _⟩ | ⟨o, rest, stage, _⟩ <;>
    rw [Stands, stage] at hs
  · exact Or.inl hs.1
  · exact hs.imp (fun ⟨_, deleted⟩ => heldBack_of_deleted deleted) And.right

theorem answer {call : Call} {next : call.Answer → Finalization} {x : call.Answer}
    (h : c.Safe role deadline) (pending : c.machine.call? = some ⟨call, next⟩) :
    Stands role deadline (exchanges c.marks ++ [⟨call, x⟩]) (next x) c.now := by
  have hs := h.stands
  rcases call?_eq_some pending with ⟨rest, stage, rfl⟩ | ⟨o, rest, stage, rfl⟩ <;>
    rw [Stands, stage] at hs
  · exact hs.2 x
  · exact hs.imp_left fun ⟨ho, deleted⟩ => ⟨ho, deleted.append _⟩

theorem advance (h : c.Safe role deadline) (a : c.Advance c') : c'.Safe role deadline := by
  have hr : c'.machine.role = role := (congrArg (·.1) a.setup).trans h.role_eq
  have hd : c'.machine.deadline = deadline := (congrArg (·.2.2.1) a.setup).trans h.deadline_eq
  have hs := h.stands
  cases a with
  | idle later => exact ⟨hr, hd, hs.later later, h.licensed⟩
  | issue _ pending => exact ⟨hr, hd, by simpa using hs, h.licensed.issued (h.issue pending)⟩
  | answer x _ pending => exact ⟨hr, hd, by simpa using h.answer pending, h.licensed.returned⟩
  | settle _ stage =>
    rw [Stands, stage] at hs
    exact ⟨hr, hd, stands_afterAttempt hs, h.licensed⟩
  | close stage =>
    rw [Stands, stage] at hs
    exact ⟨hr, hd, hs.imp And.left fun h => Or.inl h.1, h.licensed⟩
  | resume stage =>
    rw [Stands, stage] at hs
    exact ⟨hr, hd, stands_enterLoop h.role_eq h.deadline_eq hs.1 hs.2, h.licensed⟩
  | giveUp stage =>
    rw [Stands, stage] at hs
    exact ⟨hr, hd, Or.inr (Or.inr ⟨rfl, hs.2⟩), h.licensed⟩

end Course.Safe

theorem safe_beginning {settings : FinalizationSettings} {begin : Nat} :
    (Course.beginning settings begin role key).Safe role (begin + settings.timeout.nanos) where
  role_eq := congrArg (·.1) enterLoop_setup
  deadline_eq := congrArg (·.2.2.1) enterLoop_setup
  stands := stands_enterLoop rfl rfl (fun h => absurd h Bool.false_ne_true)
    (by rintro ⟨x, hx, _⟩; cases hx)
  licensed := issues_nil

/-- A finalization issues no write before it has deleted the role or reached its deadline. If it is
abandoned or turned away, none of its writes has succeeded. -/
theorem teardown_safe {settings : FinalizationSettings} {begin : Nat} {registry : Registry}
    {actions : List Action} {r : Report}
    (h : conduct settings begin registry role actions = some r) :
    (∀ before time w target after, r.marks = before ++ .issued time (.write w target) :: after →
      (∃ t, .returned t (.delete role role.vaultName) (.ok ()) ∈ before) ∨
        begin + settings.timeout.nanos ≤ time) ∧
    (r.outcome = some .abandoned ∨ r.outcome = some .alreadyProcessing ∨
        r.outcome = some .invalid →
      ∀ t w target x, .returned t (.write w target) (.ok x) ∉ r.marks) := by
  rcases conduct_induction h (fun _ => safe_beginning) (fun safe a => safe.advance a) with
    ⟨o, rfl⟩ | ⟨_, c, _, safe, rfl⟩
  · refine ⟨fun before time w target after he => ?_, fun _ t w target x => List.not_mem_nil⟩
    simp at he
  constructor
  · intro before time w target after he
    refine (safe.licensed before time _ after he).imp_left fun held => ?_
    exact mem_exchanges.1 (held w target rfl)
  · intro ended t w target x written
    have hs := safe.stands
    have hw : Written (exchanges c.marks) := ⟨_, mem_exchanges.2 ⟨t, written⟩, rfl⟩
    obtain ⟨o, ho, early⟩ : ∃ o, c.machine.outcome? = some o ∧ o ≠ .completed ∧ o ≠ .timedOut := by
      rcases ended with ho | ho | ho
      · exact ⟨_, ho, by decide⟩
      · exact ⟨_, ho, by decide⟩
      · exact ⟨_, ho, by decide⟩
    rw [Stands, outcome?_eq_some.1 ho] at hs
    rcases hs with completed | timedOut | ⟨_, unwritten⟩
    · exact early.1 completed
    · exact early.2 timedOut
    · exact unwritten hw

/-- Everything succeeds. -/
def willing : (c : Call) → c.Answer := answering departing (.ok departing)

/-- The marks of a first attempt up to its write. -/
def beforeWrite : List Mark :=
  [.issued 0 (.bind departing), .returned 0 (.bind departing) (.ok ()),
    .issued 0 (.delete departing departing.vaultName),
    .returned 0 (.delete departing departing.vaultName) (.ok ()),
    .issued 0 (.get ⟨some "demo", "reader"⟩),
    .returned 0 (.get ⟨some "demo", "reader"⟩) (.ok (some departing))]

theorem teardown_safe_at_once :
    ∃ r, conduct {} 0 {} departing
        [.issue, .answer willing, .issue, .answer willing, .issue, .answer willing, .issue] =
          some r ∧
      r.marks = beforeWrite ++ [.issued 0 (.write departing.removeFinalizer .object)] ∧
      ((∃ t, .returned t (.delete departing departing.vaultName) (.ok ()) ∈ beforeWrite) ∨
        0 + ({} : FinalizationSettings).timeout.nanos ≤ 0) := by
  refine ⟨⟨none, beforeWrite ++ [.issued 0 (.write departing.removeFinalizer .object)]⟩, rfl, rfl, ?_⟩
  have h : conduct {} 0 {} departing
      [.issue, .answer willing, .issue, .answer willing, .issue, .answer willing, .issue] =
        some ⟨none, beforeWrite ++ [.issued 0 (.write departing.removeFinalizer .object)]⟩ := rfl
  exact (teardown_safe h).1 beforeWrite 0 _ .object [] rfl

end RoleOperator.Finalization
