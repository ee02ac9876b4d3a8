import RoleOperator.Reconcile
import RoleOperator.Proofs.Program.Runs
import RoleOperator.Proofs.Role.Identity
import RoleOperator.Proofs.Role.Reports

/-!
# What a reconcile reports

A reconcile may work with a stale object while others change it, and any of its calls may fail. What
it reports in the status is still what it has done: the generation that it reports is that of the
version it created the role from, and a failure is reported as such, with its text.
-/
namespace RoleOperator.Reconcile

variable {key : ObjectKey} {role : Role} {xs ys : List Exchange} {result : Except Fault Unit}

/-! ## Parts of a run -/

/-- The exchanges of a creation, up to the status patch. The time is that of a failure. -/
inductive Begun (role : Role) : List Exchange → Except Fault Unit → Timestamp → Prop where
  | unbound (e : Fault) (now : Timestamp) :
      Begun role [⟨.bind role, .error e⟩, ⟨.clock, now⟩] (.error e) now
  | refused (e : Fault) (now : Timestamp) :
      Begun role [⟨.bind role, .ok ()⟩, ⟨.create role, .error e⟩, ⟨.clock, now⟩] (.error e) now
  | created (now : Timestamp) :
      Begun role [⟨.bind role, .ok ()⟩, ⟨.create role, .ok ()⟩] (.ok ()) now

/-- What is reported of a creation. -/
def reportOf (role : Role) (now : Timestamp) : Except Fault Unit → RoleStatus → RoleStatus
  | .ok () => fun s => s.setSuccess role.metadata.generation
  | .error e => fun s => s.setFailure (Condition.failure now Condition.failedToCreateRole e.message)

/-- The result of a reconcile, from its creation and its status patch. -/
def conclude : Except Fault Unit → Except Fault Role → Except Fault Unit
  | .ok (), .ok _ => .ok ()
  | .ok (), .error e => .error e
  | .error e, .ok _ => .error e
  | .error e, .error e' => .error (.aggregate [e, e'])

theorem createRole_yields {created : Except Fault Unit} (run : (createRole role).Yields ys created) :
    (∃ e, ys = [⟨.bind role, .error e⟩] ∧ created = .error e) ∨
      ys = [⟨.bind role, .ok ()⟩, ⟨.create role, created⟩] := by
  obtain ⟨bound, rest, rfl, creation⟩ := Program.yields_perform_bind.1 run
  rcases bound with e | ⟨⟩
  · obtain ⟨rfl, rfl⟩ := Program.yields_pure.1 creation
    exact Or.inl ⟨e, rfl, rfl⟩
  · rw [Program.yields_perform.1 creation]
    exact Or.inr rfl

theorem reportFailure_yields (role : Role) {e : Fault} (run : (reportFailure key e).Yields ys result) :
    ∃ now report reported, ys = ⟨.clock, now⟩ :: report ∧
      (patch key .status (Role.mapStatus (reportOf role now (.error e)))).Yields report reported ∧
      result = conclude (.error e) reported := by
  obtain ⟨now, rest, rfl, reporting⟩ := Program.yields_perform_bind.1 run
  obtain ⟨report, after, reported, rfl, patched, ending⟩ := Program.yields_bind.1 reporting
  rcases reported with e' | u <;>
    · obtain ⟨rfl, rfl⟩ := Program.yields_pure.1 ending
      exact ⟨now, report, _, by rw [List.append_nil], patched, rfl⟩

theorem sync_yields (run : (sync role key).Yields xs result) :
    ∃ begun report created now reported, xs = begun ++ report ∧ Begun role begun created now ∧
      (patch key .status (Role.mapStatus (reportOf role now created))).Yields report reported ∧
      result = conclude created reported := by
  obtain ⟨begun, rest, created, rfl, creation, reporting⟩ := Program.yields_bind.1 run
  rcases created with e | ⟨⟩
  · obtain ⟨now, report, reported, rfl, patched, rfl⟩ := reportFailure_yields role reporting
    rcases createRole_yields creation with ⟨_, rfl, ⟨⟩⟩ | rfl
    · exact ⟨_, report, .error e, now, reported, rfl, .unbound e now, patched, rfl⟩
    · exact ⟨_, report, .error e, now, reported, rfl, .refused e now, patched, rfl⟩
  · obtain ⟨report, after, reported, rfl, patched, ending⟩ := Program.yields_bind.1 reporting
    rcases createRole_yields creation with ⟨_, _, ⟨⟩⟩ | rfl
    rcases reported with e | u <;>
      · obtain ⟨rfl, rfl⟩ := Program.yields_pure.1 ending
        exact ⟨_, report, .ok (), ⟨0, 0⟩, _, by rw [List.append_nil], .created _, patched, rfl⟩

/-- The version has been seen in an answer. -/
def Shown (key : ObjectKey) (xs : List Exchange) (v : Role) : Prop :=
  ⟨.cached key, some v⟩ ∈ xs ∨ ⟨.get key, .ok (some v)⟩ ∈ xs ∨
    ∃ w target, ⟨.write w target, .ok v⟩ ∈ xs

/-- Calls that come before an adapter is bound. -/
def Preliminary : Call → Prop
  | .cached _ | .get _ | .write _ .object | .finalize _ => True
  | _ => False

/-- Calls of a creation, up to the status patch. -/
def Creating : Call → Prop
  | .bind _ | .create _ | .clock => True
  | _ => False

theorem Preliminary.not_creating {c : Call} (h : Preliminary c) : ¬ Creating c := by
  cases c <;> simp_all [Preliminary, Creating]

/-- The finalizer patch returns a version that has been seen. -/
theorem shown_of_hold {updated : Role}
    (run : (patch key .object Role.addFinalizer).Yields ys (.ok updated)) : Shown key ys updated := by
  have settled := (Patch.tried_of_yields run).2
  cases settled with
  | found last same =>
    rw [Role.shows_addFinalizer _ same]
    exact Or.inr (Or.inl (List.mem_of_getLast? last))
  | wrote _ last => exact Or.inr (Or.inr ⟨_, _, List.mem_of_getLast? last⟩)

theorem preliminary_of_hold {held : Except Fault Role}
    (run : (patch key .object Role.addFinalizer).Yields ys held) : ∀ x ∈ ys, Preliminary x.1 := by
  intro x hx
  rcases (Patch.tried_of_yields run).1 x hx with he | ⟨_, _, he⟩
  · rw [he]
    trivial
  · rw [he]
    trivial

theorem Shown.mono {v : Role} (h : Shown key xs v) (more : ∀ x ∈ xs, x ∈ ys) : Shown key ys v := by
  rcases h with h | h | ⟨w, target, h⟩
  · exact Or.inl (more _ h)
  · exact Or.inr (Or.inl (more _ h))
  · exact Or.inr (Or.inr ⟨w, target, more _ h⟩)

/-- A reconcile stops before it binds an adapter, or it synchronises a version that it has seen. -/
theorem program_yields (run : (program key).Yields xs result) :
    (∀ x ∈ xs, Preliminary x.1) ∨
      ∃ before rest role, xs = before ++ rest ∧ (∀ x ∈ before, Preliminary x.1) ∧
        Shown key before role ∧ (sync role key).Yields rest result := by
  obtain ⟨seen, rest, rfl, went⟩ := Program.yields_perform_bind.1 run
  clear run
  rcases seen with _ | role
  · obtain ⟨rfl, rfl⟩ := Program.yields_pure.1 went
    exact Or.inl (by simp [Preliminary])
  have first : ∀ x ∈ [(⟨.cached key, some role⟩ : Exchange)], Preliminary x.1 := by
    simp [Preliminary]
  dsimp only at went
  split at went
  · left
    split at went
    · obtain ⟨_, _, rfl, ending⟩ := Program.yields_perform_bind.1 went
      obtain ⟨rfl, rfl⟩ := Program.yields_pure.1 ending
      simp [Preliminary]
    · obtain ⟨rfl, rfl⟩ := Program.yields_pure.1 went
      exact first
  split at went
  · exact Or.inr ⟨[_], rest, role, rfl, first, Or.inl (by simp), went⟩
  · obtain ⟨ys, zs, held, rfl, patched, ending⟩ := Program.yields_bind.1 went
    have both : ∀ x ∈ (⟨.cached key, some role⟩ : Exchange) :: ys, Preliminary x.1 :=
      List.forall_mem_cons.2 ⟨trivial, preliminary_of_hold patched⟩
    rcases held with e | updated
    · obtain ⟨rfl, rfl⟩ := Program.yields_pure.1 ending
      rw [List.append_nil]
      exact Or.inl both
    · refine Or.inr ⟨_ :: ys, zs, updated, rfl, both, ?_, ending⟩
      exact (shown_of_hold patched).mono fun x hx => List.mem_cons_of_mem _ hx

/-! ## What is reported -/

/-- The version that a status patch has left behind: the one that it wrote, or the one that it read if
there was nothing to change. -/
def Leaves (key : ObjectKey) (report : List Exchange) (w : Role) : Prop :=
  report.getLast? = some ⟨.get key, .ok (some w)⟩ ∨
    ∃ stored, report.getLast? = some ⟨.write w .status, .ok stored⟩

/-- A successful report leaves a version that it has read, with the report as its status. -/
theorem leaves_of_yields {now : Timestamp} {u : Role}
    (run : (patch key .status (Role.mapStatus (reportOf role now (.ok ())))).Yields ys (.ok u)) :
    ∃ v, ⟨.get key, .ok (some v)⟩ ∈ ys ∧
      Leaves key ys { v with status := some ⟨.success, role.metadata.generation, []⟩ } := by
  have settled := (Patch.tried_of_yields run).2
  cases settled with
  | @found v last same =>
    have kept : { v with status := some ⟨.success, role.metadata.generation, []⟩ } = v :=
      Role.shows_setSuccess role.metadata.generation v same
    refine ⟨v, List.mem_of_getLast? last, Or.inl ?_⟩
    rw [kept, last]
  | @wrote v _ read last => exact ⟨v, read, Or.inr ⟨u, last⟩⟩

namespace Begun

variable {begun : List Exchange} {created : Except Fault Unit} {now : Timestamp} {other : Role}

theorem of_bind {bound : Except Fault Unit} (h : Begun role begun created now)
    (hx : ⟨.bind other, bound⟩ ∈ begun) :
    role = other ∧ ∀ e, bound = .error e → created = .error e := by
  cases h <;> simp_all

theorem of_create {answer : Except Fault Unit} (h : Begun role begun created now)
    (hx : ⟨.create other, answer⟩ ∈ begun) : created = answer := by
  cases h <;> simp_all

theorem create_mem (h : Begun role begun (.ok ()) now) : ⟨.create role, .ok ()⟩ ∈ begun := by
  cases h
  simp

theorem clock_mem {e : Fault} (h : Begun role begun (.error e) now) : ⟨.clock, now⟩ ∈ begun := by
  cases h <;> simp

theorem not_write {w : Role} {target : WriteTarget} {answer : Except Fault Role}
    (h : Begun role begun created now) : ⟨.write w target, answer⟩ ∉ begun := by
  cases h <;> simp

end Begun

/-- The versions of the object that a reconcile has seen are told apart by their generations. -/
structure Versioned (key : ObjectKey) (xs : List Exchange) : Prop where
  ofKey {v} : Shown key xs v → v.metadata.key? = some key
  numbered {v} : Shown key xs v → v.metadata.generation ≠ none
  specified {v w} : Shown key xs v → Shown key xs w →
    v.metadata.generation = w.metadata.generation → v.spec = w.spec

theorem conclude_eq_ok {created : Except Fault Unit} {reported : Except Fault Role} :
    conclude created reported = .ok () ↔ created = .ok () ∧ ∃ u, reported = .ok u := by
  rcases created with e | ⟨⟩ <;> rcases reported with e' | u <;> simp [conclude]

section Parts

variable {early begun report : List Exchange} {created : Except Fault Unit} {now : Timestamp}
  {change : Role → Role}

/-- Only the middle part binds, creates or looks at the clock. -/
theorem mem_begun (first : ∀ x ∈ early, Preliminary x.1)
    (tried : Patch.Tried key .status change report) {x : Exchange}
    (hx : x ∈ early ++ (begun ++ report)) (creating : Creating x.1) : x ∈ begun := by
  rcases List.mem_append.1 hx with hx | hx
  · exact absurd creating (first x hx).not_creating
  rcases List.mem_append.1 hx with hx | hx
  · exact hx
  have patching : x.1 = .get key ∨ ∃ v, x.1 = .write (change v) .status :=
    (tried x hx).imp_right fun ⟨v, _, he⟩ => ⟨v, he⟩
  rcases patching with he | ⟨v, he⟩
  · rw [he] at creating
    exact creating.elim
  · rw [he] at creating
    exact creating.elim

/-- Only the patch writes a status. -/
theorem mem_report (first : ∀ x ∈ early, Preliminary x.1) (creation : Begun role begun created now)
    {w : Role} {answer : Except Fault Role}
    (hx : ⟨.write w .status, answer⟩ ∈ early ++ (begun ++ report)) :
    ⟨.write w .status, answer⟩ ∈ report := by
  rcases List.mem_append.1 hx with hx | hx
  · exact (first _ hx).elim
  · exact (List.mem_append.1 hx).resolve_left creation.not_write

/-- A reconcile that has bound a role synchronises that one. -/
theorem parts_of_bound {bound : Except Fault Unit} (run : (program key).Yields xs result)
    (reached : ⟨.bind role, bound⟩ ∈ xs) :
    ∃ early begun report created now reported, xs = early ++ (begun ++ report) ∧
      (∀ x ∈ early, Preliminary x.1) ∧ Shown key early role ∧ Begun role begun created now ∧
      (∀ e, bound = .error e → created = .error e) ∧
      (patch key .status (Role.mapStatus (reportOf role now created))).Yields report reported ∧
      result = conclude created reported := by
  obtain unbound | ⟨early, rest, bare, rfl, first, shown, synced⟩ := program_yields run
  · exact (unbound _ reached).elim
  obtain ⟨begun, report, created, now, reported, rfl, creation, patched, concluded⟩ :=
    sync_yields synced
  have inBegun := mem_begun first (Patch.tried_of_yields patched).1 reached trivial
  obtain ⟨rfl, failed⟩ := creation.of_bind inBegun
  exact ⟨early, begun, report, created, now, reported, rfl, first, shown, creation, failed, patched,
    concluded⟩

/-- A failure to create is all that any status says that has been written. -/
theorem reports_of_refused {e : Fault} {w : Role} {answer : Except Fault Role}
    (run : (program key).Yields xs result) (failed : ⟨.create role, .error e⟩ ∈ xs)
    (written : ⟨.write w .status, answer⟩ ∈ xs) :
    ∃ s now old, w.status = some s ∧ RoleStatus.ReportsFailure e.message now old s := by
  obtain uncreated | ⟨early, rest, seen, rfl, first, -, synced⟩ := program_yields run
  · exact (uncreated _ failed).elim
  obtain ⟨begun, report, created, now, reported, rfl, creation, patched, -⟩ := sync_yields synced
  have tried := (Patch.tried_of_yields patched).1
  obtain rfl : created = .error e := creation.of_create (mem_begun first tried failed trivial)
  rcases tried _ (mem_report first creation written) with he | ⟨v, -, he⟩
  · cases he
  · cases he
    exact ⟨_, now, _, rfl, RoleStatus.setFailure_reports _ _ _⟩

end Parts

/-- A reconcile that has bound a role ends with a status patch. It returns success exactly if the role
has been created and the patch has succeeded, and the status then says which generation was created.
A failure to bind or to create is returned, and it is all that any status says that it has written. -/
theorem status_truthful {bound : Except Fault Unit} (run : (program key).Yields xs result)
    (reached : ⟨.bind role, bound⟩ ∈ xs) :
    ∃ before report change reported, xs = before ++ report ∧
      (patch key .status change).Yields report reported ∧
      (result = .ok () ↔ ⟨.create role, .ok ()⟩ ∈ before ∧ ∃ u, reported = .ok u) ∧
      (result = .ok () → ∃ w s, Leaves key report w ∧ w.status = some s ∧ s.phase = .success ∧
        s.conditions = [] ∧ s.observedGeneration = role.metadata.generation ∧
        (Versioned key xs → s.observedGeneration = w.metadata.generation →
          ∀ client, Vault.Adapter.ofRole client role = Vault.Adapter.ofRole client w)) ∧
      ∀ e, (bound = .error e ∨ ⟨.create role, .error e⟩ ∈ xs) →
        (∀ u, reported = .ok u → result = .error e) ∧
        (∀ e', reported = .error e' → result = .error (.aggregate [e, e'])) ∧
        ∃ now, ⟨.clock, now⟩ ∈ before ∧ ∀ w answer, ⟨.write w .status, answer⟩ ∈ xs →
          ∃ v s, ⟨.get key, .ok (some v)⟩ ∈ report ∧ w = { v with status := some s } ∧
            RoleStatus.ReportsFailure e.message now (v.status.getD {}) s := by
  obtain ⟨early, begun, report, created, now, reported, rfl, first, shown, creation, failed, patched,
    rfl⟩ := parts_of_bound run reached
  have tried := (Patch.tried_of_yields patched).1
  have createdOk : ⟨.create role, .ok ()⟩ ∈ early ++ begun ↔ created = .ok () := by
    constructor
    · intro hx
      refine creation.of_create ((List.mem_append.1 hx).resolve_left fun hx => ?_)
      exact first _ hx
    · rintro rfl
      exact List.mem_append_right _ creation.create_mem
  refine ⟨early ++ begun, report, _, reported, (List.append_assoc _ _ _).symm, patched, ?_, ?_, ?_⟩
  · rw [conclude_eq_ok, createdOk]
  · intro ok
    obtain ⟨rfl, u, rfl⟩ := conclude_eq_ok.1 ok
    obtain ⟨v, read, left⟩ := leaves_of_yields patched
    refine ⟨_, _, left, rfl, rfl, rfl, rfl, fun versions same => ?_⟩
    have seen : Shown key (early ++ (begun ++ report)) v := Or.inr (Or.inl (by simp [read]))
    have used := shown.mono fun x hx => List.mem_append_left (begun ++ report) hx
    have keyed := versions.ofKey seen
    have specified := versions.specified used seen same
    exact Role.adapter_of_key (versions.ofKey used) keyed specified
  · intro e he
    have hc : created = .error e := by
      rcases he with he | he
      · exact failed e he
      · exact creation.of_create (mem_begun first tried he trivial)
    subst hc
    refine ⟨?_, ?_, now, List.mem_append_right _ creation.clock_mem, fun w answer hx => ?_⟩
    · rintro u rfl
      rfl
    · rintro e' rfl
      rfl
    · rcases tried _ (mem_report first creation hx) with he | ⟨v, read, he⟩
      · cases he
      · cases he
        exact ⟨v, _, read, rfl, RoleStatus.setFailure_reports _ _ _⟩

def auditorKey : ObjectKey := ⟨some "demo", "auditor"⟩

def auditor (generation : Int) (bindings version : String) : Role where
  metadata := { name := some "auditor", ns := some "demo", generation := some generation,
                resourceVersion := some version }
  spec := .gcp { secretType := "access_token", project := "ackube", bindings }

/-- The edited object, with the finalizer. -/
def heldAuditor : Role := (auditor 2 "write" "2").addFinalizer.withVersion "3"

def syncedAuditor (version : String) : Role :=
  (heldAuditor.withVersion version).mapStatus fun s => s.setSuccess (some 2)

/-- The cache does not know of an edit yet, and the first status write loses a race. -/
def auditorRun : List Exchange :=
  [⟨.cached auditorKey, some (auditor 1 "read" "1")⟩,
    ⟨.get auditorKey, .ok (some (auditor 2 "write" "2"))⟩,
    ⟨.write (auditor 2 "write" "2").addFinalizer .object, .ok heldAuditor⟩,
    ⟨.bind heldAuditor, .ok ()⟩, ⟨.create heldAuditor, .ok ()⟩,
    ⟨.get auditorKey, .ok (some heldAuditor)⟩,
    ⟨.write (syncedAuditor "3") .status, .error (.conflict "demo/auditor was modified")⟩,
    ⟨.get auditorKey, .ok (some (heldAuditor.withVersion "4"))⟩,
    ⟨.write (syncedAuditor "4") .status, .ok (syncedAuditor "5")⟩]

theorem auditorRun_yields : (program auditorKey).Yields auditorRun (.ok ()) := by
  repeat apply Program.yields_ask.2
  exact ⟨rfl, rfl⟩

theorem auditorRun_versioned : Versioned auditorKey auditorRun := by
  have seen : ∀ v, Shown auditorKey auditorRun v → v = auditor 1 "read" "1" ∨
      v.metadata.key? = some auditorKey ∧ v.metadata.generation = some 2 ∧
        v.spec = heldAuditor.spec := by
    rintro v (h | h | ⟨w, target, h⟩)
    · simp [auditorRun] at h
      exact Or.inl h
    · simp [auditorRun] at h
      rcases h with rfl | rfl | rfl <;> exact Or.inr ⟨rfl, rfl, rfl⟩
    · simp [auditorRun] at h
      rcases h with ⟨-, rfl⟩ | ⟨-, rfl⟩ <;> exact Or.inr ⟨rfl, rfl, rfl⟩
  constructor
  · intro v hv
    rcases seen v hv with rfl | ⟨keyed, -, -⟩
    · rfl
    · exact keyed
  · intro v hv
    rcases seen v hv with rfl | ⟨-, generation, -⟩
    · simp [auditor]
    · simp [generation]
  · intro v w hv hw same
    rcases seen v hv with rfl | ⟨-, generation, spec⟩ <;>
      rcases seen w hw with rfl | ⟨-, generation', spec'⟩
    · rfl
    · simp [auditor, generation'] at same
    · simp [auditor, generation] at same
    · rw [spec, spec']

theorem auditor_reported : (program auditorKey).Yields auditorRun (.ok ()) ∧
    ⟨.bind heldAuditor, .ok ()⟩ ∈ auditorRun ∧
    ∃ report, report <:+ auditorRun ∧ Leaves auditorKey report (syncedAuditor "4") ∧
      ∀ client, Vault.Adapter.ofRole client heldAuditor =
        Vault.Adapter.ofRole client (syncedAuditor "4") := by
  have bound : ⟨.bind heldAuditor, .ok ()⟩ ∈ auditorRun := by simp [auditorRun]
  refine ⟨auditorRun_yields, bound, ?_⟩
  obtain ⟨before, report, _, _, split, _, _, success, _⟩ := status_truthful auditorRun_yields bound
  obtain ⟨w, s, left, status, _, _, observed, sameAdapter⟩ := success rfl
  -- The last exchange of the run is the one that has left the version behind.
  have last : ∀ x, report.getLast? = some x →
      x = ⟨.write (syncedAuditor "4") .status, .ok (syncedAuditor "5")⟩ := by
    intro x hx
    have whole : auditorRun.getLast? = some x := by
      rw [split, List.getLast?_append, hx]
      rfl
    exact (Option.some.inj whole).symm
  have written : w = syncedAuditor "4" := by
    rcases left with h | ⟨stored, h⟩
    · cases last _ h
    · cases last _ h
      rfl
  subst written
  exact ⟨report, ⟨before, split.symm⟩, left, sameAdapter auditorRun_versioned observed⟩

end RoleOperator.Reconcile
