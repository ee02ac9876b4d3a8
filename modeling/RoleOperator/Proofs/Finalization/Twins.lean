import Mathlib.Data.List.Forall2
import RoleOperator.Proofs.Finalization.Story
import RoleOperator.Proofs.Vault.Payload

/-!
# Twin finalizations

Two roles of which only the payloads differ are finalized side by side. Vault answers both in the same
way, and so does the store, up to what its objects specify. Every step keeps the two in the same place:
they make the same calls at the same times, and end in the same way.
-/
namespace RoleOperator

/-! ## Calls -/

/-- A call made for `a` and the same call made for `b`. Objects that are written differ at most in what
they specify. -/
inductive Call.Twin (a b : Role) : Call → Call → Prop where
  | get (key : ObjectKey) : Twin a b (.get key) (.get key)
  | write {x y : Role} (heads : x.SameHead y) (target : WriteTarget) :
      Twin a b (.write x target) (.write y target)
  | bind : Twin a b (.bind a) (.bind b)
  | delete : Twin a b (.delete a a.vaultName) (.delete b b.vaultName)

/-- The same is read, up to what an object specifies. -/
inductive ReadAlike : Except Fault (Option Role) → Except Fault (Option Role) → Prop where
  | error (e : Fault) : ReadAlike (.error e) (.error e)
  | missing : ReadAlike (.ok none) (.ok none)
  | found {a b : Role} (heads : a.SameHead b) : ReadAlike (.ok (some a)) (.ok (some b))

/-- Both succeed, or both fail for the same reason. -/
inductive WriteAlike : Except Fault Role → Except Fault Role → Prop where
  | error (e : Fault) : WriteAlike (.error e) (.error e)
  | ok (a b : Role) : WriteAlike (.ok a) (.ok b)

def Call.AnswersAlike : (c d : Call) → c.Answer → d.Answer → Prop
  | .get _, .get _, x, y => ReadAlike x y
  | .write _ _, .write _ _, x, y => WriteAlike x y
  | .bind _, .bind _, x, y => x = y
  | .delete _ _, .delete _ _, x, y => x = y
  | _, _, _, _ => False

/-! ## Programs -/

namespace Program

variable {α β : Type} {a b : Role}

/-- Programs that make twin calls for as long as these are answered alike. -/
inductive Twin (a b : Role) (R : α → α → Prop) : Program α → Program α → Prop where
  | done {x y : α} (same : R x y) : Twin a b R (.done x) (.done y)
  | ask {c d : Call} {next : c.Answer → Program α} {next' : d.Answer → Program α}
      (calls : c.Twin a b d)
      (rest : ∀ x y, Call.AnswersAlike c d x y → Twin a b R (next x) (next' y)) :
      Twin a b R (.ask c next) (.ask d next')

theorem Twin.bind {R : α → α → Prop} {S : β → β → Prop} {p q : Program α} {f g : α → Program β}
    (h : p.Twin a b R q) (each : ∀ x y, R x y → (f x).Twin a b S (g y)) :
    (p >>= f).Twin a b S (q >>= g) := by
  induction h with
  | done same => exact each _ _ same
  | ask calls rest ih => exact .ask calls ih

theorem Twin.map {R : α → α → Prop} {p q : Program α} (h : p.Twin a b R q) {f : α → β}
    (same : ∀ x y, R x y → f x = f y) : (f <$> p).Twin a b Eq (f <$> q) :=
  h.bind fun x y hxy => .done (same x y hxy)

end Program

section Patches

variable {a b : Role}

theorem Patch.once_twin {key : ObjectKey} {target : WriteTarget} {change : Role → Role}
    {f g : Fault → Program (Except Fault Role)}
    (heads : ∀ x y : Role, x.SameHead y → (change x).SameHead (change y))
    (shows : ∀ x y : Role, x.SameHead y →
      ((change x).toJson = x.toJson ↔ (change y).toJson = y.toJson))
    (again : ∀ e, (f e).Twin a b WriteAlike (g e)) :
    (Patch.once key target change f).Twin a b WriteAlike (Patch.once key target change g) := by
  refine .ask (.get key) fun x y read => ?_
  cases read with
  | error e => exact .done (.error e)
  | missing => exact .done (.error _)
  | @found x y same =>
    have unchanged := shows x y same
    by_cases h : (change x).toJson = x.toJson
    · simp only [h, unchanged.1 h, if_true]
      exact .done (.ok _ _)
    -- The removal shows on both or on neither, so that either both are written or none is.
    · have h' : ¬ (change y).toJson = y.toJson := fun hy => h (unchanged.2 hy)
      simp only [h, h', if_false]
      refine .ask (.write (heads x y same) target) fun _ _ written => ?_
      cases written with
      | ok => exact .done (.ok _ _)
      | error e =>
        dsimp only
        split
        · exact again e
        · exact .done (.error e)

theorem patch_twin {key : ObjectKey} {target : WriteTarget} {change : Role → Role}
    (heads : ∀ x y : Role, x.SameHead y → (change x).SameHead (change y))
    (shows : ∀ x y : Role, x.SameHead y →
      ((change x).toJson = x.toJson ↔ (change y).toJson = y.toJson)) :
    (patch key target change).Twin a b WriteAlike (patch key target change) := by
  unfold patch
  induction Patch.attempts - 1 with
  | zero => exact Patch.once_twin heads shows fun e => .done (.error e)
  | succ n ih => exact Patch.once_twin heads shows fun _ => ih

end Patches

namespace Finalization

section Attempts

variable {a b : Role}

theorem unregister_twin (key : ObjectKey) : (unregister key).Twin a b Eq (unregister key) := by
  have removal : (patch key .object Role.removeFinalizer).Twin a b WriteAlike
      (patch key .object Role.removeFinalizer) :=
    patch_twin (fun _ _ h => h.removeFinalizer) fun _ _ h => h.removeFinalizer_toJson
  refine removal.bind fun x y same => ?_
  cases same <;> exact .done rfl

theorem deleteRole_twin : (deleteRole a).Twin a b Eq (deleteRole b) := by
  refine .ask .bind fun x y same => ?_
  obtain rfl : x = y := same
  cases x with
  | error e => exact .done rfl
  | ok => exact .ask .delete fun x y same => .done same

theorem attempt_twin (key : ObjectKey) (roleDeleted : Bool) :
    (attempt a key roleDeleted).Twin a b Eq (attempt b key roleDeleted) := by
  have deletion : (if roleDeleted then pure true else Except.isOk <$> deleteRole a).Twin a b Eq
      (if roleDeleted then pure true else Except.isOk <$> deleteRole b) := by
    cases roleDeleted with
    | true => exact .done rfl
    | false => exact deleteRole_twin.map fun x y same => by rw [same]
  rw [attempt_eq, attempt_eq]
  refine deletion.bind fun x y same => ?_
  obtain rfl := same
  unfold release
  split
  · exact (unregister_twin key).map fun x y same => by rw [same]
  · exact .done rfl

end Attempts

/-! ## Machines -/

inductive Stage.Twin (a b : Role) : Stage → Stage → Prop where
  | attempting {p q : Program Attempt} (programs : p.Twin a b Eq q) :
      Twin a b (.attempting p) (.attempting q)
  | pausing (wakeAt : Nat) : Twin a b (.pausing wakeAt) (.pausing wakeAt)
  | removing (o : Outcome) {p q : Program (Except Fault Unit)} (programs : p.Twin a b Eq q) :
      Twin a b (.removing o p) (.removing o q)
  | ended (o : Outcome) : Twin a b (.ended o) (.ended o)

/-- A finalization of `a` and one of `b` that are in the same place. -/
inductive Twin (a b : Role) : Finalization → Finalization → Prop where
  | intro (key : ObjectKey) (deadline interval : Nat) (roleDeleted : Bool) (attempts : Nat)
      {p q : Stage} (stages : p.Twin a b q) :
      Twin a b ⟨a, key, deadline, interval, roleDeleted, attempts, p⟩
        ⟨b, key, deadline, interval, roleDeleted, attempts, q⟩

namespace Twin

variable {a b : Role} {f g : Finalization}

theorem outcome?_eq (h : f.Twin a b g) : f.outcome? = g.outcome? := by
  cases h with
  | intro _ _ _ _ _ stages => cases stages <;> rfl

theorem enterLoop (h : f.Twin a b g) (now : Nat) :
    (f.enterLoop now).Twin a b (g.enterLoop now) := by
  cases h with
  | intro key deadline interval roleDeleted attempts stages =>
    unfold Finalization.enterLoop
    dsimp only
    split
    · exact .intro _ _ _ _ _ (.removing _ (unregister_twin key))
    · exact .intro _ _ _ _ _ (.attempting (attempt_twin key roleDeleted))

theorem afterAttempt (h : f.Twin a b g) (now : Nat) (noticed : Bool) (r : Attempt) :
    (f.afterAttempt now noticed r).Twin a b (g.afterAttempt now noticed r) := by
  cases h with
  | intro key deadline interval roleDeleted attempts stages =>
    unfold Finalization.afterAttempt
    dsimp only
    split
    · exact .intro _ _ _ _ _ (.removing _ (unregister_twin key))
    · split
      · exact .intro _ _ _ _ _ (.ended _)
      · exact .intro _ _ _ _ _ (.pausing _)

theorem proceed (h : f.Twin a b g) (now : Nat) (noticed : Bool) :
    (f.proceed now noticed).Twin a b (g.proceed now noticed) := by
  have settled := h.afterAttempt now noticed
  have still := h
  cases h with
  | intro key deadline interval roleDeleted attempts stages =>
    cases stages with
    | attempting programs =>
      cases programs with
      | done same =>
        obtain rfl := same
        exact settled _
      | ask => exact still
    | removing o programs =>
      cases programs with
      | done => exact .intro _ _ _ _ _ (.ended o)
      | ask => exact still
    | pausing | ended => exact still

theorem wake (h : f.Twin a b g) (now : Nat) : (f.wake now).Twin a b (g.wake now) := by
  have again := h.enterLoop now
  have still := h
  cases h with
  | intro key deadline interval roleDeleted attempts stages =>
    cases stages with
    | pausing wakeAt =>
      unfold Finalization.wake
      dsimp only
      split
      · exact again
      · exact still
    | attempting | removing | ended => exact still

theorem abandon (h : f.Twin a b g) : f.abandon.Twin a b g.abandon := by
  have still := h
  cases h with
  | intro key deadline interval roleDeleted attempts stages =>
    cases stages with
    | pausing => exact .intro _ _ _ _ _ (.ended _)
    | attempting | removing | ended => exact still

/-- Neither has a call to make, or twin calls, and twin machines go on from answers that are alike. -/
theorem call? (h : f.Twin a b g) :
    f.call? = none ∧ g.call? = none ∨
      ∃ c d next next', f.call? = some ⟨c, next⟩ ∧ g.call? = some ⟨d, next'⟩ ∧ c.Twin a b d ∧
        ∀ x y, Call.AnswersAlike c d x y → (next x).Twin a b (next' y) := by
  cases h with
  | intro key deadline interval roleDeleted attempts stages =>
    cases stages with
    | attempting programs =>
      cases programs with
      | done => exact .inl ⟨rfl, rfl⟩
      | ask calls rest =>
        exact .inr ⟨_, _, _, _, rfl, rfl, calls, fun x y same =>
          .intro _ _ _ _ _ (.attempting (rest x y same))⟩
    | removing o programs =>
      cases programs with
      | done => exact .inl ⟨rfl, rfl⟩
      | ask calls rest =>
        exact .inr ⟨_, _, _, _, rfl, rfl, calls, fun x y same =>
          .intro _ _ _ _ _ (.removing o (rest x y same))⟩
    | pausing | ended => exact .inl ⟨rfl, rfl⟩

end Twin

/-! ## Surroundings -/

/-- Calls to an adapter go to Vault through `client`, the others to a store. Binding always succeeds. -/
def throughVault (client : Vault.Client) (vault : Vault.Client.Transport Id)
    (store : (c : Call) → c.Answer) : (c : Call) → c.Answer
  | .bind _ => .ok ()
  | .create role => (Vault.Adapter.ofRole client role).create vault
  | .delete role name => (Vault.Adapter.ofRole client role).delete vault name
  | c => store c

/-- Stores that answer twin calls alike. -/
structure SameStore (store store' : (c : Call) → c.Answer) : Prop where
  get (key : ObjectKey) : ReadAlike (store (.get key)) (store' (.get key))
  write {a b : Role} (heads : a.SameHead b) (target : WriteTarget) :
    WriteAlike (store (.write a target)) (store' (.write b target))

theorem throughVault_alike {a b : Role} (roles : a.SameButPayload b)
    {store store' : (c : Call) → c.Answer} (same : SameStore store store') (client : Vault.Client)
    (vault : Vault.Client.Transport Id) {c d : Call} (h : c.Twin a b d) :
    Call.AnswersAlike c d (throughVault client vault store c)
      (throughVault client vault store' d) := by
  cases h with
  | get key => exact same.get key
  | write heads target => exact same.write heads target
  | bind => rfl
  | delete =>
    change (Vault.Adapter.ofRole client a).delete vault a.vaultName =
      (Vault.Adapter.ofRole client b).delete vault b.vaultName
    rw [roles.vaultName, Vault.Adapter.delete_eq roles]

/-- The same happens, or calls are answered by the same Vault and by stores that answer alike. -/
inductive Action.Twin (client : Vault.Client) : Action → Action → Prop where
  | pass (nanos : Nat) : Twin client (.pass nanos) (.pass nanos)
  | cancel : Twin client .cancel .cancel
  | issue : Twin client .issue .issue
  | answer (vault : Vault.Client.Transport Id) {store store' : (c : Call) → c.Answer}
      (stores : SameStore store store') :
      Twin client (.answer (throughVault client vault store))
        (.answer (throughVault client vault store'))
  | proceed (noticed : Bool) : Twin client (.proceed noticed) (.proceed noticed)
  | wake : Twin client .wake .wake
  | abandon : Twin client .abandon .abandon

/-! ## What is done -/

/-- What a finalization does to its surroundings. -/
inductive Deed where
  | request (request : Vault.Request)
  | read (key : ObjectKey)
  | write (target : WriteTarget) (metadata : Metadata)
  deriving DecidableEq, Repr

/-- Requests are noted as they are sent, and all answered in the same way. -/
def noting (response : Except HttpFault Vault.Response) :
    Vault.Client.Transport (StateM (List Vault.Request)) := fun request sent =>
  (response, sent ++ [request])

theorem run_noting (response : Except HttpFault Vault.Response) (request : Vault.Request)
    (sent : List Vault.Request) :
    (noting response request).run sent = pure (response, sent ++ [request]) := rfl

/-- The requests that a call to an adapter sends. -/
def sent (client : Vault.Client) (response : Except HttpFault Vault.Response) :
    Call → List Vault.Request
  | .create role =>
    (Id.run (((Vault.Adapter.ofRole client role).create (noting response)).run [])).2
  | .delete role name =>
    (Id.run (((Vault.Adapter.ofRole client role).delete (noting response) name).run [])).2
  | _ => []

/-- What a call does. The answer to a request does not matter: there is no second one. -/
def deeds (client : Vault.Client) : Call → List Deed
  | .get key => [.read key]
  | .write role target => [.write target role.metadata]
  | c => (sent client (.error (.builder none)) c).map .request

/-- The deeds of a finalization and their times. -/
def timedDeeds (client : Vault.Client) (marks : List Mark) : List (Nat × Deed) :=
  marks.flatMap fun
    | .issued time call => (deeds client call).map (time, ·)
    | .returned _ _ _ => []

variable {client : Vault.Client} {marks : List Mark} {time : Nat} {call : Call}

theorem timedDeeds_issued :
    timedDeeds client (marks ++ [.issued time call]) =
      timedDeeds client marks ++ (deeds client call).map (time, ·) := by
  simp [timedDeeds]

theorem timedDeeds_returned {x : call.Answer} :
    timedDeeds client (marks ++ [.returned time call x]) = timedDeeds client marks := by
  simp [timedDeeds]

/-- Deleting a role sends one request, if it can be built, whatever Vault answers. -/
theorem sent_delete (role : Role) (name : String) (response : Except HttpFault Vault.Response) :
    sent client response (.delete role name) =
      (client.prepare .delete ((Vault.Adapter.ofRole client role).path name) none).toOption.toList := by
  have paths : (Vault.Adapter.ofRole client role).client = client := rfl
  simp only [sent, Vault.Adapter.delete, Vault.Client.delete, Vault.Client.call, paths]
  cases client.prepare .delete ((Vault.Adapter.ofRole client role).path name) none with
  | error e => rfl
  | ok request =>
    cases response with
    | error e => rfl
    | ok answer =>
      rw [StateT.run_bind, StateT.run_bind, run_noting]
      cases checked : Vault.Client.check request.url.text answer with
      | ok => simp [checked, Except.toOption]
      | error e => cases e <;> simp [checked, Except.toOption]

section Twins

variable {a b : Role} {c d : Call}

theorem deeds_eq (roles : a.SameButPayload b) (h : c.Twin a b d) : deeds client c = deeds client d := by
  cases h with
  | get | bind => rfl
  | write heads => simp only [deeds, heads.metadata]
  | delete => simp only [deeds, sent, roles.vaultName, Vault.Adapter.delete_eq roles]

/-- All that a finalization asks of Vault is to delete its role. -/
theorem prepare_of_request {request : Vault.Request} (h : c.Twin a b d)
    (asked : .request request ∈ deeds client c) :
    client.prepare .delete a.vaultPath none = .ok request := by
  cases h with
  | get | write | bind => simp [deeds, sent] at asked
  | delete =>
    have paths : (Vault.Adapter.ofRole client a).path a.vaultName = a.vaultPath := rfl
    simp only [deeds, sent_delete, paths] at asked
    cases built : client.prepare .delete a.vaultPath none with
    | error e => simp [built, Except.toOption] at asked
    | ok r =>
      obtain rfl : r = request := by simpa [built, Except.toOption, eq_comm] using asked
      rfl

end Twins

theorem rel_bind {α β γ δ : Type} {R : α → β → Prop} {S : γ → δ → Prop} {x : Option α}
    {y : Option β} {f : α → Option γ} {g : β → Option δ} (h : Option.Rel R x y)
    (each : ∀ a b, x = some a → y = some b → R a b → Option.Rel S (f a) (g b)) :
    Option.Rel S (x.bind f) (y.bind g) := by
  cases h with
  | none => exact .none
  | some same => exact each _ _ rfl rfl same

/-! ## Courses -/

/-- Courses of twin finalizations that have done the same at the same times, and have asked nothing of
Vault but to delete the role. -/
inductive Course.Twin (client : Vault.Client) (a b : Role) : Course → Course → Prop where
  | intro {f g : Finalization} (machines : f.Twin a b g) (now : Nat) (abandoned waiting : Bool)
      {marks marks' : List Mark} (same : timedDeeds client marks = timedDeeds client marks')
      (proper : ∀ time request, (time, .request request) ∈ timedDeeds client marks →
        client.prepare .delete a.vaultPath none = .ok request) :
      Twin client a b ⟨f, now, abandoned, waiting, marks⟩ ⟨g, now, abandoned, waiting, marks'⟩

/-- What twins do next they do both, or neither can. -/
theorem Course.Twin.step {a b : Role} (roles : a.SameButPayload b) {c d : Course} {x y : Action}
    (h : Course.Twin client a b c d) (actions : Action.Twin client x y) :
    Option.Rel (Course.Twin client a b) (c.step x) (d.step y) := by
  cases h with
  | @intro f g machines now abandoned waiting marks marks' same proper =>
    cases actions with
    | pass nanos => exact .some (.intro machines _ _ _ same proper)
    | cancel => exact .some (.intro machines _ _ _ same proper)
    | issue =>
      cases waiting with
      | true => exact .none
      | false =>
        simp only [Course.step]
        obtain ⟨hf, hg⟩ | ⟨call, call', next, next', hf, hg, calls, -⟩ := machines.call?
        · rw [hf, hg]
          exact .none
        · rw [hf, hg]
          refine .some (.intro machines _ _ _ ?_ fun time request asked => ?_)
          · rw [timedDeeds_issued, timedDeeds_issued, same, deeds_eq roles calls]
          · rw [timedDeeds_issued] at asked
            rcases List.mem_append.1 asked with before | now
            · exact proper time request before
            · obtain ⟨deed, done, stamped⟩ := List.mem_map.1 now
              obtain ⟨-, rfl⟩ := Prod.mk.inj stamped
              exact prepare_of_request calls done
    | answer vault stores =>
      cases waiting with
      | false => exact .none
      | true =>
        simp only [Course.step]
        obtain ⟨hf, hg⟩ | ⟨call, call', next, next', hf, hg, calls, rest⟩ := machines.call?
        · rw [hf, hg]
          exact .none
        · rw [hf, hg]
          have after := rest _ _ (throughVault_alike roles stores client vault calls)
          refine .some (.intro after _ _ _ ?_ ?_)
          · rw [timedDeeds_returned, timedDeeds_returned, same]
          · rwa [timedDeeds_returned]
    | proceed noticed =>
      simp only [Course.step]
      split
      · exact .none
      · exact .some (.intro (machines.proceed now noticed) _ _ _ same proper)
    | wake => exact .some (.intro (machines.wake now) _ _ _ same proper)
    | abandon =>
      simp only [Course.step]
      split
      · exact .some (.intro machines.abandon _ _ _ same proper)
      · exact .none

/-! ## Stories -/

namespace Story

variable {a b : Role} {timed : Bool} {s t : Story} {x y : Action} {actions actions' : List Action}

theorem may_eq (h : Course.Twin client a b s.toCourse t.toCourse) (twins : Action.Twin client x y) :
    s.may timed x = t.may timed y := by
  obtain ⟨c, _, _, _, _, _⟩ := s
  obtain ⟨d, _, _, _, _, _⟩ := t
  cases h with
  | intro machines now abandoned waiting same proper =>
    cases machines with
    | intro key deadline interval roleDeleted attempts stages =>
      cases twins with
      | cancel | issue | answer => rfl
      | pass | wake | abandon => cases stages <;> rfl
      | proceed noticed =>
        cases stages with
        | attempting programs => cases programs <;> rfl
        | removing o programs => cases programs <;> rfl
        | pausing | ended => rfl

theorem step_twin (roles : a.SameButPayload b) (h : Course.Twin client a b s.toCourse t.toCourse)
    (twins : Action.Twin client x y) :
    Option.Rel (fun s t : Story => Course.Twin client a b s.toCourse t.toCourse) (s.step timed x)
      (t.step timed y) := by
  unfold step
  rw [may_eq h twins]
  split
  · rw [Option.map_eq_bind, Option.map_eq_bind]
    refine rel_bind (h.step roles twins) fun c d hc hd courses => .some ?_
    change Course.Twin client a b (s.record c x).toCourse (t.record d y).toCourse
    rwa [record_toCourse hc, record_toCourse hd]
  · exact .none

/-- Twins stay twins for as long as what happens to them is the same. -/
theorem run_twin (roles : a.SameButPayload b) (timed : Bool)
    (h : Course.Twin client a b s.toCourse t.toCourse)
    (twins : List.Forall₂ (Action.Twin client) actions actions') :
    Option.Rel (fun s t : Story => Course.Twin client a b s.toCourse t.toCourse)
      (s.run timed actions) (t.run timed actions') := by
  induction twins generalizing s t with
  | nil => exact .some h
  | cons first rest ih =>
    exact rel_bind (step_twin roles h first) fun _ _ _ _ courses => ih courses

end Story

/-! ## Finalizations from their beginning -/

/-- What can be seen of a finalization: how it ended, when, and what it has done. -/
structure Observation where
  outcome : Option Outcome
  now : Nat
  deeds : List (Nat × Deed)
  deriving DecidableEq, Repr

/-- A finalization from its beginning on. One that is turned away does nothing. -/
def observe (client : Vault.Client) (timed : Bool) (settings : FinalizationSettings) (begin : Nat)
    (registry : Registry) (role : Role) (actions : List Action) : Option Observation :=
  match (start settings begin registry role).1 with
  | .error o => some ⟨some o, begin, []⟩
  | .ok f => (Story.run timed (Story.opening f begin) actions).map fun s =>
      ⟨s.machine.outcome?, s.now, timedDeeds client s.marks⟩

theorem start_twin {a b : Role} (h : a.SameButPayload b) (settings : FinalizationSettings)
    (begin : Nat) (registry : Registry) :
    (start settings begin registry a).2 = (start settings begin registry b).2 ∧
      ((∃ o, (start settings begin registry a).1 = .error o ∧
          (start settings begin registry b).1 = .error o) ∨
        ∃ f g, (start settings begin registry a).1 = .ok f ∧
          (start settings begin registry b).1 = .ok g ∧ f.Twin a b g) := by
  unfold start
  rw [← h.finalizationId, ← h.metadata]
  split
  · exact ⟨rfl, .inl ⟨_, rfl, rfl⟩⟩
  · next key named =>
    split
    · exact ⟨rfl, .inl ⟨_, rfl, rfl⟩⟩
    · refine ⟨rfl, .inr ⟨_, _, rfl, rfl, ?_⟩⟩
      exact Twin.enterLoop (.intro _ _ _ _ _ (.ended _)) begin

/-- What can be seen of a finalization does not depend on the payload, and neither does what it leaves in
the registry; all that it asks of Vault is to delete the role. A role whose payload cannot be built is not
written: nothing is sent for it. -/
theorem payload_unseen {a b : Role} (same : a.SameButPayload b) (client : Vault.Client) :
    (∀ settings begin registry,
      (start settings begin registry a).2 = (start settings begin registry b).2 ∧
      ∀ timed actions actions', List.Forall₂ (Action.Twin client) actions actions' →
        observe client timed settings begin registry a actions =
          observe client timed settings begin registry b actions' ∧
        ∀ o, observe client timed settings begin registry a actions = some o →
          ∀ time request, (time, .request request) ∈ o.deeds →
            client.prepare .delete a.vaultPath none = .ok request) ∧
    ((∃ e, b.spec.payload = .error e) ↔
      ∃ aws document flaw, b.spec = .aws aws ∧ aws.policyDocument = some document ∧
        Json.read document = .error flaw) ∧
    ∀ e, b.spec.payload = .error e →
      ∀ (m : Type → Type) [Monad m] (send : Vault.Client.Transport m),
        (Vault.Adapter.ofRole client b).create send = pure (.error (.config e.message)) := by
  refine ⟨fun settings begin registry => ?_, RoleSpec.payload_error_iff, fun e h m _ send =>
    Vault.Adapter.create_of_error h client send⟩
  obtain ⟨registries, ⟨o, ha, hb⟩ | ⟨f, g, ha, hb, twins⟩⟩ :=
    start_twin same settings begin registry
  · refine ⟨registries, fun timed actions actions' _ => ?_⟩
    simp [observe, ha, hb]
  · refine ⟨registries, fun timed actions actions' alike => ?_⟩
    have opened : Course.Twin client a b (Story.opening f begin).toCourse
        (Story.opening g begin).toCourse :=
      .intro twins begin false false rfl fun _ _ asked => absurd asked List.not_mem_nil
    have ran := Story.run_twin same timed opened alike
    simp only [observe, ha, hb]
    generalize Story.run timed (Story.opening f begin) actions = s at ran ⊢
    generalize Story.run timed (Story.opening g begin) actions' = t at ran ⊢
    cases ran with
    | none => simp
    | @some s t courses =>
      obtain ⟨c, _, _, _, _, _⟩ := s
      obtain ⟨d, _, _, _, _, _⟩ := t
      cases courses with
      | intro machines now abandoned waiting deeds proper =>
        refine ⟨by simp only [Option.map_some, machines.outcome?_eq, deeds], ?_⟩
        intro o seen
        obtain rfl := Option.some.inj seen
        exact proper

/-- A role that is being deleted, with a policy document. -/
def withDocument (document : String) : Role where
  metadata := {
    name := some "reader", ns := some "demo", generation := some 1
    deletionTimestamp := some ⟨0, 0⟩, finalizers := some [Kind.aws.finalizer] }
  spec := .aws { credentialType := "iam_user", policyDocument := some document }

def nearby : Vault.Client where
  addr := "http://[::1]:8200"
  token := "t"

/-- Vault is down at the first attempt. At the second one it deletes the role, and the store takes every
write. -/
def outage (role : Role) : List Action :=
  let answer (status : Nat) : Action :=
    .answer (throughVault nearby (fun _ => .ok ⟨status, []⟩) (answering role (.ok role)))
  [.issue, answer 503, .issue, answer 503, .proceed false, .pass 5000000000, .wake,
    .issue, answer 204, .issue, answer 204, .issue, answer 204, .issue, answer 204, .proceed false,
    .issue, answer 204, .issue, answer 204, .proceed false]

/-- The request that deletes the role. -/
def deletion : Vault.Request where
  method := .delete
  url := {
    scheme := "http", authority := some { host := "[::1]", port := some 8200 }
    path := "/v1/aws/roles/k8s.demo.reader" }
  token := "t"
  body := none

theorem withDocument_unseen :
    (withDocument "[]").SameButPayload (withDocument "nothing") ∧
      observe nearby true {} 0 {} (withDocument "nothing") (outage (withDocument "nothing")) =
        some ⟨some .completed, 5000000000,
          [(0, .request deletion), (5000000000, .request deletion),
            (5000000000, .read ⟨some "demo", "reader"⟩),
            (5000000000, .write .object (withDocument "[]").removeFinalizer.metadata),
            (5000000000, .read ⟨some "demo", "reader"⟩),
            (5000000000, .write .object (withDocument "[]").removeFinalizer.metadata)]⟩ ∧
      ∃ e, (withDocument "nothing").spec.payload = .error e ∧
        ∀ send : Vault.Client.Transport Id,
          (Vault.Adapter.ofRole nearby (withDocument "nothing")).create send =
            .error (.config e.message) := by
  have same : (withDocument "[]").SameButPayload (withDocument "nothing") :=
    ⟨⟨rfl, rfl⟩, Text.sameInside_iff.2 rfl⟩
  have stores : SameStore (answering (withDocument "[]") (.ok (withDocument "[]")))
      (answering (withDocument "nothing") (.ok (withDocument "nothing"))) :=
    ⟨fun _ => .found same.toSameHead, fun _ _ => .ok _ _⟩
  have twins : List.Forall₂ (Action.Twin nearby) (outage (withDocument "[]"))
      (outage (withDocument "nothing")) := by
    unfold outage
    repeat' first
      | exact .answer _ stores
      | constructor
  obtain ⟨unseen, unreadable, unsent⟩ := payload_unseen same nearby
  refine ⟨same, ?_, ?_⟩
  · rw [← ((unseen {} 0 {}).2 true _ _ twins).1]
    decide +kernel
  · obtain ⟨e, invalid⟩ := unreadable.2 ⟨_, "nothing", _, rfl, rfl, rfl⟩
    exact ⟨e, invalid, unsent e invalid Id⟩

end Finalization
end RoleOperator
