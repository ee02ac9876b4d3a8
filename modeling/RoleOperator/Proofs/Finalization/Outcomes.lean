import RoleOperator.Proofs.Finalization.Removal
import RoleOperator.Proofs.Finalization.Story

/-!
# Outcomes

What the outcome of a finalization says of its attempts. The role is deleted once, and from then on every
attempt tries to take the finalizer off; whether one of them succeeds, the deadline is found passed or
the token ends a wait decides how the loop is left. The last removal comes after that.
-/
namespace RoleOperator.Finalization

variable {role : Role} {key : ObjectKey} {xs : List Exchange}

/-! ## Attempts -/

/-- The calls of an attempt and what it achieves, by whether the role has been deleted before. -/
inductive Effort (role : Role) (key : ObjectKey) : Bool → List Exchange → Attempt → Prop where
  | unbound (e : Fault) : Effort role key false [⟨.bind role, .error e⟩] ⟨false, false⟩
  | refused (e : Fault) :
      Effort role key false
        [⟨.bind role, .ok ()⟩, ⟨.delete role role.vaultName, .error e⟩] ⟨false, false⟩
  | deleted {xs : List Exchange} {removed : Bool} (removal : Removal key xs removed) :
      Effort role key false
        (⟨.bind role, .ok ()⟩ :: ⟨.delete role role.vaultName, .ok ()⟩ :: xs) ⟨true, removed⟩
  | again {xs : List Exchange} {removed : Bool} (removal : Removal key xs removed) :
      Effort role key true xs ⟨true, removed⟩

theorem deleteRole_yields {result : Except Fault Unit}
    (run : (deleteRole role).Yields xs result) :
    (∃ e, xs = [⟨.bind role, .error e⟩] ∧ result = .error e) ∨
      xs = [⟨.bind role, .ok ()⟩, ⟨.delete role role.vaultName, result⟩] := by
  obtain ⟨bound, rest, rfl, deletion⟩ := Program.yields_perform_bind.1 run
  rcases bound with e | ⟨⟩
  · obtain ⟨rfl, rfl⟩ := Program.yields_pure.1 deletion
    exact Or.inl ⟨e, rfl, rfl⟩
  · rw [Program.yields_perform.1 deletion]
    exact Or.inr rfl

theorem release_yields {deleted : Bool} {r : Attempt} (run : (release key deleted).Yields xs r) :
    (deleted = false ∧ xs = [] ∧ r = ⟨false, false⟩) ∨
      ∃ removed, deleted ∧ Removal key xs removed ∧ r = ⟨true, removed⟩ := by
  cases deleted with
  | false =>
    obtain ⟨rfl, rfl⟩ := Program.yields_pure.1 run
    exact Or.inl ⟨rfl, rfl, rfl⟩
  | true =>
    obtain ⟨result, removal, rfl⟩ := Program.yields_map.1 run
    exact Or.inr ⟨_, rfl, removal_of_yields removal, rfl⟩

theorem effort_of_yields {deleted : Bool} {r : Attempt}
    (run : (attempt role key deleted).Yields xs r) : Effort role key deleted xs r := by
  rw [attempt_eq] at run
  obtain ⟨ys, zs, now, rfl, first, rest⟩ := Program.yields_bind.1 run
  cases deleted with
  | true =>
    obtain ⟨rfl, rfl⟩ := Program.yields_pure.1 first
    obtain ⟨⟨⟩, -⟩ | ⟨removed, -, removal, rfl⟩ := release_yields rest
    exact .again removal
  | false =>
    obtain ⟨result, deletion, rfl⟩ := Program.yields_map.1 first
    rcases deleteRole_yields deletion with ⟨e, rfl, rfl⟩ | rfl
    · obtain ⟨-, rfl, rfl⟩ | ⟨removed, ⟨⟩, -⟩ := release_yields rest
      exact .unbound e
    · cases result with
      | error e =>
        obtain ⟨-, rfl, rfl⟩ | ⟨removed, ⟨⟩, -⟩ := release_yields rest
        exact .refused e
      | ok =>
        obtain ⟨⟨⟩, -⟩ | ⟨removed, -, removal, rfl⟩ := release_yields rest
        exact .deleted removal

theorem Effort.roleDeleted {deleted : Bool} {r : Attempt} (h : Effort role key deleted xs r) :
    (deleted || r.roleDeleted) = r.roleDeleted := by
  cases h <;> rfl

theorem Effort.length_le {deleted : Bool} {r : Attempt} (h : Effort role key deleted xs r) :
    xs.length ≤ 12 := by
  cases h with
  | unbound | refused => simp
  | deleted removal =>
    have length := removal.length_le
    rw [List.length_cons, List.length_cons]
    omega
  | again removal => exact Nat.le_trans removal.length_le (by decide)

/-! ## Stories -/

namespace Story

variable {deadline : Nat} {timed : Bool} {s s' : Story} {a : Action} {o : Outcome}

/-- Each round goes on where those before it have left off, none of which has removed the finalizer. -/
def Consistent (role : Role) (key : ObjectKey) (rounds : List Round) : Prop :=
  ∀ before r after, rounds = before ++ r :: after →
    (∀ b ∈ before, b.result.removed = false) ∧
      Effort role key (before.any (·.result.roleDeleted)) r.calls r.result

/-- After a round that has removed the finalizer there is none. -/
theorem Consistent.last {rounds : List Round} (h : Consistent role key rounds)
    (before : List Round) (r : Round) (after : List Round) (he : rounds = before ++ r :: after)
    (removed : r.result.removed) : after = [] := by
  cases after with
  | nil => rfl
  | cons next rest =>
    have kept := (h (before ++ [r]) next rest (by simp [he])).1 r (by simp)
    exact absurd (kept.symm.trans removed) Bool.false_ne_true

theorem Consistent.effort {rounds : List Round} (h : Consistent role key rounds) {r : Round}
    (hr : r ∈ rounds) : ∃ deleted, Effort role key deleted r.calls r.result := by
  obtain ⟨before, after, he⟩ := List.append_of_mem hr
  exact ⟨_, (h before r after he).2⟩

/-- Nothing has happened that ends the loop. -/
structure Going (deadline : Nat) (l : Log) : Prop where
  kept : ∀ r ∈ l.rounds, r.result.removed = false
  early : ∀ t ∈ l.passes, t < deadline
  patient : l.gaveUp = none

/-- What has ended the loop. -/
inductive Left (deadline : Nat) (l : Log) : Outcome → Prop where
  | completed {r : Round} (hr : r ∈ l.rounds) (removed : r.result.removed)
      (early : ∀ t ∈ l.passes, t < deadline) (patient : l.gaveUp = none) :
      Left deadline l .completed
  | timedOut {t : Nat} (kept : ∀ r ∈ l.rounds, r.result.removed = false) (ht : t ∈ l.passes)
      (late : deadline ≤ t) (patient : l.gaveUp = none) : Left deadline l .timedOut
  | abandoned {t : Nat} (kept : ∀ r ∈ l.rounds, r.result.removed = false)
      (early : ∀ t ∈ l.passes, t < deadline) (gaveUp : l.gaveUp = some t) :
      Left deadline l .abandoned

/-- How far the present stage has got with its calls, and how the loop was left if it was. -/
def Underway (role : Role) (key : ObjectKey) (deadline : Nat) (f : Finalization)
    (calls : List Exchange) (l : Log) : Prop :=
  match f.stage with
  | .attempting p => Going deadline l ∧ (attempt role key f.roleDeleted).Remains calls p
  | .pausing _ => Going deadline l ∧ calls = []
  | .removing o p => Left deadline l o ∧ o ≠ .abandoned ∧ (unregister key).Remains calls p
  | .ended o =>
    Left deadline l o ∧
      if o = .abandoned then calls = [] else ∃ result, (unregister key).Yields calls result

structure Accounted (role : Role) (key : ObjectKey) (deadline : Nat) (s : Story) : Prop where
  role_eq : s.machine.role = role
  key_eq : s.machine.key = key
  deadline_eq : s.machine.deadline = deadline
  roleDeleted : s.machine.roleDeleted = s.rounds.any (·.result.roleDeleted)
  consistent : Consistent role key s.rounds
  calls : exchanges s.marks = s.rounds.flatMap (·.calls) ++ s.calls
  stage : Underway role key deadline s.machine s.calls s.toLog

namespace Accounted

theorem attempting (h : s.Accounted role key deadline) {p : Program Attempt}
    (stage : s.machine.stage = .attempting p) :
    Going deadline s.toLog ∧ (attempt role key s.machine.roleDeleted).Remains s.calls p := by
  have hs := h.stage
  rwa [Underway, stage] at hs

theorem pausing (h : s.Accounted role key deadline) {wakeAt : Nat}
    (stage : s.machine.stage = .pausing wakeAt) :
    Going deadline s.toLog ∧ exchanges s.marks = s.rounds.flatMap (·.calls) ++ [] := by
  have hs := h.stage
  rw [Underway, stage] at hs
  rw [← hs.2]
  exact ⟨hs.1, h.calls⟩

theorem removing (h : s.Accounted role key deadline) {p : Program (Except Fault Unit)}
    (stage : s.machine.stage = .removing o p) :
    Left deadline s.toLog o ∧ o ≠ .abandoned ∧ (unregister key).Remains s.calls p := by
  have hs := h.stage
  rwa [Underway, stage] at hs

/-- What an attempt at its end adds to the story. -/
structure Concludes (role : Role) (key : ObjectKey) (deadline : Nat) (s : Story) (r : Attempt) :
    Prop where
  going : Going deadline s.toLog
  roleDeleted : r.roleDeleted = (s.conclude r).rounds.any (·.result.roleDeleted)
  consistent : Consistent role key (s.conclude r).rounds
  calls : exchanges s.marks = (s.conclude r).rounds.flatMap (·.calls) ++ []

theorem concludes (h : s.Accounted role key deadline) {r : Attempt}
    (stage : s.machine.stage = .attempting (.done r)) : Concludes role key deadline s r := by
  obtain ⟨going, remains⟩ := h.attempting stage
  have effort := effort_of_yields remains.done
  rw [h.roleDeleted] at effort
  refine ⟨going, ?_, forall_split_snoc h.consistent ⟨going.kept, effort⟩, ?_⟩
  · simp [conclude, effort.roleDeleted]
  · simp [conclude, h.calls]

theorem Concludes.kept {r : Attempt} (h : Concludes role key deadline s r)
    (kept : r.removed = false) : ∀ r' ∈ (s.conclude r).rounds, r'.result.removed = false := by
  intro r' hr
  rcases List.mem_append.1 hr with hr | hr
  · exact h.going.kept r' hr
  · rw [List.mem_singleton.1 hr]
    exact kept

theorem turn (h : s.Accounted role key deadline) (t : Turn timed s a s') :
    s'.Accounted role key deadline := by
  have hr : s'.machine.role = role := (congrArg (·.1) t.setup).trans h.role_eq
  have hk : s'.machine.key = key := (congrArg (·.2.1) t.setup).trans h.key_eq
  have hd : s'.machine.deadline = deadline := (congrArg (·.2.2.1) t.setup).trans h.deadline_eq
  cases t with
  | pass => exact ⟨hr, hk, hd, h.roleDeleted, h.consistent, h.calls, h.stage⟩
  | fire => exact ⟨hr, hk, hd, h.roleDeleted, h.consistent, h.calls, h.stage⟩
  | issue => exact ⟨hr, hk, hd, h.roleDeleted, h.consistent, by simpa using h.calls, h.stage⟩
  | answer waits pending =>
    rcases call?_eq_some pending with ⟨rest, stage, rfl⟩ | ⟨o, rest, stage, rfl⟩
    · obtain ⟨going, remains⟩ := h.attempting stage
      exact ⟨hr, hk, hd, h.roleDeleted, h.consistent, by simp [h.calls], going, remains.answer _⟩
    · obtain ⟨left, unlike, remains⟩ := h.removing stage
      exact ⟨hr, hk, hd, h.roleDeleted, h.consistent, by simp [h.calls], left, unlike,
        remains.answer _⟩
  | complete stage removed =>
    have c := h.concludes stage
    have left : Left deadline (s.conclude _).toLog .completed :=
      .completed (List.mem_append_right _ (List.mem_singleton_self _)) removed c.going.early
        c.going.patient
    exact ⟨hr, hk, hd, c.roleDeleted, c.consistent, c.calls, left, by decide, hk ▸ .all _⟩
  | desist stage kept fired =>
    have c := h.concludes stage
    exact ⟨hr, hk, hd, c.roleDeleted, c.consistent, c.calls,
      .abandoned (c.kept kept) c.going.early rfl, rfl⟩
  | pause stage kept =>
    have c := h.concludes stage
    exact ⟨hr, hk, hd, c.roleDeleted, c.consistent, c.calls,
      ⟨c.kept kept, c.going.early, c.going.patient⟩, rfl⟩
  | close stage =>
    obtain ⟨left, unlike, remains⟩ := h.removing stage
    refine ⟨hr, hk, hd, h.roleDeleted, h.consistent, h.calls, left, ?_⟩
    rw [if_neg unlike]
    exact ⟨_, remains.done⟩
  | expire stage due late =>
    obtain ⟨going, calls⟩ := h.pausing stage
    have left : Left deadline { s.toLog with passes := s.passes ++ [s.now] } .timedOut :=
      .timedOut going.kept (List.mem_append_right _ (List.mem_singleton_self _))
        (h.deadline_eq ▸ late) going.patient
    exact ⟨hr, hk, hd, h.roleDeleted, h.consistent, calls, left, by decide, hk ▸ .all _⟩
  | again stage due early =>
    obtain ⟨going, calls⟩ := h.pausing stage
    have still : Going deadline { s.toLog with passes := s.passes ++ [s.now] } := by
      refine ⟨going.kept, fun t ht => ?_, going.patient⟩
      rcases List.mem_append.1 ht with ht | ht
      · exact going.early t ht
      · rw [List.mem_singleton.1 ht]
        exact h.deadline_eq ▸ early
    have whole : (attempt role key s.machine.roleDeleted).Remains []
        (attempt s.machine.role s.machine.key s.machine.roleDeleted) := by
      rw [h.role_eq, h.key_eq]
      exact .all _
    exact ⟨hr, hk, hd, h.roleDeleted, h.consistent, calls, still, whole⟩
  | giveUp stage fired =>
    obtain ⟨going, calls⟩ := h.pausing stage
    exact ⟨hr, hk, hd, h.roleDeleted, h.consistent, calls, .abandoned going.kept going.early rfl, rfl⟩

end Accounted

variable {settings : FinalizationSettings} {begin : Nat} {registry : Registry} {f : Finalization}
  {actions : List Action}

theorem accounted_opening :
    (opening ((initial settings begin role key).enterLoop begin) begin).Accounted role key
      (begin + settings.timeout.nanos) := by
  have consistent : Consistent role key [] := by
    intro before r after he
    simp at he
  unfold enterLoop
  split
  · next late =>
    have left : Left (begin + settings.timeout.nanos) { passes := [begin] } .timedOut :=
      .timedOut (by simp) (List.mem_singleton_self _) late rfl
    exact ⟨rfl, rfl, rfl, rfl, consistent, rfl, left, by decide, .all _⟩
  · next early =>
    have going : Going (begin + settings.timeout.nanos) { passes := [begin] } := by
      refine ⟨by simp, fun t ht => ?_, rfl⟩
      rw [List.mem_singleton.1 ht]
      exact Nat.lt_of_not_le early
    exact ⟨rfl, rfl, rfl, rfl, consistent, rfl, going, .all _⟩

theorem accounted_of_run (started : (start settings begin registry role).1 = .ok f)
    (told : run timed (opening f begin) actions = some s) :
    ∃ key, role.metadata.key? = some key ∧
      s.Accounted role key (begin + settings.timeout.nanos) := by
  obtain ⟨key, named, rfl⟩ := start_eq_ok started
  have kept := (stepwise timed).keeps (fun h hs => Accounted.turn h (turn_of_step hs))
    accounted_opening told
  exact ⟨key, named, kept⟩

/-- What the outcome says, and what has been done for it. -/
structure Explains (role : Role) (key : ObjectKey) (deadline : Nat) (s : Story) (o : Outcome) :
    Prop where
  /-- The attempts: the role is deleted until that succeeds, and the finalizer is tried from then on. -/
  consistent : Consistent role key s.rounds
  completed : o = .completed ↔ ∃ r ∈ s.rounds, r.result.removed
  last : ∀ before r after, s.rounds = before ++ r :: after → r.result.removed → after = []
  timedOut : o = .timedOut ↔ ∃ t ∈ s.passes, deadline ≤ t
  abandoned : o = .abandoned ↔ ∃ t, s.gaveUp = some t
  any : o = .completed ∨ o = .timedOut ∨ o = .abandoned
  /-- The last removal. -/
  farewell : if o = .abandoned then s.calls = [] else ∃ removed, Removal key s.calls removed
  /-- Nothing else is done. -/
  exchanges : exchanges s.marks = s.rounds.flatMap (·.calls) ++ s.calls

/-- What the outcome of a finalization that was not turned away means, whatever its calls were answered. -/
theorem outcome_explained (started : (start settings begin registry role).1 = .ok f)
    (told : run timed (opening f begin) actions = some s) (ends : s.machine.outcome? = some o) :
    ∃ key, role.metadata.key? = some key ∧
      Explains role key (begin + settings.timeout.nanos) s o := by
  obtain ⟨key, named, h⟩ := accounted_of_run started told
  have hs := h.stage
  rw [Underway, outcome?_eq_some.1 ends] at hs
  obtain ⟨left, calls⟩ := hs
  have farewell : if o = .abandoned then s.calls = [] else ∃ removed, Removal key s.calls removed := by
    split
    · next ho => rwa [if_pos ho] at calls
    · next ho =>
      rw [if_neg ho] at calls
      obtain ⟨result, removal⟩ := calls
      exact ⟨_, removal_of_yields removal⟩
  refine ⟨key, named, h.consistent, ?_, h.consistent.last, ?_, ?_, ?_, farewell, h.calls⟩
  · cases left with
    | completed hr removed => exact ⟨fun _ => ⟨_, hr, removed⟩, fun _ => rfl⟩
    | timedOut kept | abandoned kept => simpa using kept
  · cases left with
    | timedOut _ ht late => exact ⟨fun _ => ⟨_, ht, late⟩, fun _ => rfl⟩
    | completed _ _ early | abandoned _ early => simpa using early
  · cases left with
    | abandoned _ _ gaveUp => exact ⟨fun _ => ⟨_, gaveUp⟩, fun _ => rfl⟩
    | completed _ _ _ patient | timedOut _ _ _ patient => simp [patient]
  · cases left <;> simp

/-- The next calls, answered at once. -/
def calling (n : Nat) (reply : (c : Call) → c.Answer) : List Action :=
  (List.replicate n [.issue, .answer reply]).flatten

/-- Vault is sealed, and the store is not to be written to. -/
def sealed : (c : Call) → c.Answer
  | .delete _ _ => .error (.vault 503 "sealed")
  | c => answering departing (.error (.config "injected write failure")) c

/-- Vault is open, but the store still fails. -/
def unsealed : (c : Call) → c.Answer := answering departing (.error (.config "injected write failure"))

/-- Three attempts: the first deletes nothing, the second cannot write, and the third succeeds. Then the
last removal fails. -/
def troubled : List Action :=
  calling 2 sealed ++ [.proceed false, .pass 5000000000, .wake] ++
    calling 4 unsealed ++ [.proceed false, .pass 5000000000, .wake] ++
    calling 2 (answering departing (.ok departing)) ++ [.proceed false] ++
    calling 2 unsealed ++ [.proceed false]

theorem troubled_explained :
    ∃ f s, (start {} 0 {} departing).1 = .ok f ∧
      run true (opening f 0) troubled = some s ∧ s.machine.outcome? = some .completed ∧
      s.rounds.map (·.result) = [⟨false, false⟩, ⟨true, false⟩, ⟨true, true⟩] ∧
      Explains departing ⟨some "demo", "reader"⟩ 30000000000 s .completed := by
  let f := (initial {} 0 departing ⟨some "demo", "reader"⟩).enterLoop 0
  have started : (start {} 0 {} departing).1 = .ok f := rfl
  have played : (run true (opening f 0) troubled).map
      (fun s => (s.machine.outcome?, s.rounds.map (·.result))) =
        some (some .completed, [⟨false, false⟩, ⟨true, false⟩, ⟨true, true⟩]) := by
    decide +kernel
  obtain ⟨s, told, he⟩ := Option.map_eq_some_iff.1 played
  obtain ⟨ends, results⟩ := Prod.mk.inj he
  obtain ⟨key, named, explained⟩ := outcome_explained started told ends
  obtain rfl : (⟨some "demo", "reader"⟩ : ObjectKey) = key := Option.some.inj named
  exact ⟨f, s, started, told, ends, results, explained⟩

end Story
end RoleOperator.Finalization
