import RoleOperator.Proofs.Reconcile.Reporting
import RoleOperator.Proofs.Store.Versions

/-!
# Convergence of reconciles

Over a table that nobody disturbs one reconcile brings an object into its final form. As long as the
adapter answers as it did, all further reconciles create the role again and write nothing.
-/
namespace RoleOperator

namespace ObjectTable

variable {t : ObjectTable} {key : ObjectKey} {v role : Role}

/-- No write is going to fail or be rejected. -/
structure Calm (t : ObjectTable) : Prop where
  failures : t.failuresLeft = 0
  conflicts : t.conflictsLeft = 0

theorem Calm.count (calm : t.Calm) (target : WriteTarget) : (t.count target).Calm := by
  cases target <;> exact ⟨calm.failures, calm.conflicts⟩

/-- A write made from the stored object is accepted. -/
theorem write_ok (calm : t.Calm) (target : WriteTarget) (stored : t.get? key = some v)
    (named : role.metadata.key? = some key)
    (version : role.metadata.resourceVersion = v.metadata.resourceVersion) :
    ∃ t', t.write role target = (.ok (role.withVersion t.fresh), t') := by
  have keyed : role.key = .ok key := by simp only [Role.key, Metadata.key, named]
  simp only [write, keyed, calm.failures, calm.conflicts, gt_iff_lt, Nat.lt_irrefl, if_false,
    stored, version, ne_eq, not_true_eq_false, stamp]
  split <;> exact ⟨_, rfl⟩

/-- One that keeps the object alive leaves it under its key. -/
theorem write_calm (calm : t.Calm) (target : WriteTarget) (stored : t.get? key = some v)
    (named : role.metadata.key? = some key)
    (version : role.metadata.resourceVersion = v.metadata.resourceVersion)
    (alive : role.isDeleting = false) :
    ∃ t', t.write role target = (.ok (role.withVersion t.fresh), t') ∧ t'.Calm ∧
      ∀ k, t'.get? k = if k = key then some (role.withVersion t.fresh) else t.get? k := by
  have keyed : role.key = .ok key := by simp only [Role.key, Metadata.key, named]
  have lives : (role.withVersion (toString t.nextVersion)).isDeleting = false := alive
  have stamped : ({ t with nextVersion := t.nextVersion + 1 } : ObjectTable).Calm :=
    ⟨calm.failures, calm.conflicts⟩
  refine ⟨(({ t with nextVersion := t.nextVersion + 1 } : ObjectTable).count target).put key
    (role.withVersion t.fresh), ?_, ?_, fun k => ?_⟩
  · simp only [write, keyed, calm.failures, calm.conflicts, gt_iff_lt, Nat.lt_irrefl, if_false,
      stored, version, ne_eq, not_true_eq_false, stamp, lives, Bool.false_and, Bool.false_eq_true]
    rfl
  · have counted := stamped.count target
    exact ⟨counted.failures, counted.conflicts⟩
  · rw [get?_put, count_get?]
    rfl

end ObjectTable

/-- A table that only the operator works on, with the exchanges so far. -/
structure Quiet where
  table : ObjectTable
  past : List Exchange := []

/-- The roles that have been created, one for each call. -/
def creations (past : List Exchange) : List Role :=
  past.filterMap fun
    | ⟨.create role, _⟩ => some role
    | _ => none

def writes (past : List Exchange) : List (Role × WriteTarget) :=
  past.filterMap fun
    | ⟨.write role target, _⟩ => some (role, target)
    | _ => none

/-- An answer from the table, which the cache agrees with, or else from `reply`. -/
def ObjectTable.respond (t : ObjectTable) (reply : (c : Call) → c.Answer) :
    (c : Call) → c.Answer × ObjectTable
  | .cached key => (t.get? key, t)
  | .get key => (.ok (t.get? key), t)
  | .write role target => t.write role target
  | .bind role => (reply (.bind role), t)
  | .create role => (reply (.create role), t)
  | .delete role name => (reply (.delete role name), t)
  | .clock => (reply .clock, t)
  | .finalize _ => ((), t)

namespace Quiet

variable {α β : Type} {reply : (c : Call) → c.Answer} {key : ObjectKey} {target : WriteTarget}
  {change : Role → Role} {v r : Role} {w : Quiet} {outcome : Option String}

def answer (reply : (c : Call) → c.Answer) (c : Call) : StateM Quiet c.Answer := fun w =>
  let (x, table) := w.table.respond reply c
  (x, { table, past := w.past ++ [⟨c, x⟩] })

def exec (reply : (c : Call) → c.Answer) (p : Program α) (w : Quiet) : α × Quiet :=
  p.run (answer reply) w

theorem exec_ask {c : Call} {next : c.Answer → Program α} :
    exec reply (.ask c next) w = exec reply (next (answer reply c w).1) (answer reply c w).2 := rfl

theorem exec_perform {c : Call} : exec reply (Program.perform c) w = answer reply c w := rfl

theorem exec_bind {p : Program α} {f : α → Program β} :
    exec reply (p >>= f) w = exec reply (f (exec reply p w).1) (exec reply p w).2 := by
  rw [exec, Program.run_bind]
  rfl

/-! ## Patches -/

theorem exec_patch_same (stored : w.table.get? key = some v)
    (same : (change v).toJson = v.toJson) :
    exec reply (patch key target change) w =
      (.ok (change v), { w with past := w.past ++ [⟨.get key, .ok (some v)⟩] }) := by
  have first : patch key target change =
      Patch.once key target change fun _ => Patch.loop key target change 3 := rfl
  rw [first, Patch.once, exec_ask]
  simp only [answer, ObjectTable.respond, stored, if_pos same]
  rfl

theorem exec_patch_shows {u : Role} {t : ObjectTable} (stored : w.table.get? key = some v)
    (shows : (change v).toJson ≠ v.toJson)
    (accepted : w.table.write (change v) target = (.ok u, t)) :
    exec reply (patch key target change) w =
      (.ok u, { table := t, past := w.past ++
        [⟨.get key, .ok (some v)⟩] ++ [⟨.write (change v) target, .ok u⟩] }) := by
  have first : patch key target change =
      Patch.once key target change fun _ => Patch.loop key target change 3 := rfl
  rw [first, Patch.once, exec_ask]
  simp only [answer, ObjectTable.respond, stored, if_neg shows]
  rw [exec_ask]
  simp only [answer, ObjectTable.respond, accepted]
  rfl

/-- `u` is stored under `key`, and nothing else has changed in the table. No role was created. -/
structure Updated (key : ObjectKey) (u : Role) (w w' : Quiet) : Prop where
  calm : w'.table.Calm
  objects : ∀ k, w'.table.get? k = if k = key then some u else w.table.get? k
  created : creations w'.past = creations w.past

/-- A patch stores what it was meant to. Where there is nothing to change, it writes nothing. -/
theorem patched (reply : (c : Call) → c.Answer) (target : WriteTarget) (w : Quiet)
    (calm : w.table.Calm) (stored : w.table.get? key = some v) (shows : Shows change)
    (named : (change v).metadata.key? = some key)
    (version : (change v).metadata.resourceVersion = v.metadata.resourceVersion)
    (alive : (change v).isDeleting = false) :
    ∃ u w', exec reply (patch key target change) w = (.ok u, w') ∧ Updated key u w w' ∧
      u.Alike (change v) ∧
      (change v = v → w'.table = w.table ∧ writes w'.past = writes w.past) := by
  by_cases same : (change v).toJson = v.toJson
  · have kept : change v = v := shows v same
    rw [exec_patch_same stored same]
    refine ⟨change v, _, rfl, ⟨calm, fun k => ?_, ?_⟩, .refl _, fun _ => ⟨rfl, ?_⟩⟩
    · split
      · next hk => rw [hk, kept, stored]
      · rfl
    · simp [creations]
    · simp [writes]
  · obtain ⟨t, accepted, calm', objects⟩ :=
      ObjectTable.write_calm calm target stored named version alive
    rw [exec_patch_shows stored same accepted]
    refine ⟨_, _, rfl, ⟨calm', objects, ?_⟩, .withVersion _ _, fun kept => absurd ?_ same⟩
    · simp [creations]
    · rw [kept]

/-! ## Reconciles -/

/-- An adapter can be bound, and creations end well or with a fault of the given text. -/
structure Answers (outcome : Option String) (reply : (c : Call) → c.Answer) : Prop where
  bind : ∀ role, reply (.bind role) = .ok ()
  create : ∀ role, match outcome with
    | none => reply (.create role) = .ok ()
    | some text => ∃ e : Fault, reply (.create role) = .error e ∧ e.message = text

/-- What a status that was `old` has to be after that. -/
def Reports (outcome : Option String) (generation : Option Int) (now : Timestamp)
    (old s : RoleStatus) : Prop :=
  match outcome with
  | none => s = ⟨.success, generation, []⟩
  | some text => RoleStatus.ReportsFailure text now old s

/-- The change of the status that a reconcile makes. -/
def report (reply : (c : Call) → c.Answer) (r : Role) : RoleStatus → RoleStatus :=
  Reconcile.reportOf r (reply .clock) (reply (.create r))

theorem shows_report (r : Role) : Shows (Role.mapStatus (report reply r)) := by
  rw [report]
  cases reply (.create r) with
  | ok => exact Role.shows_setSuccess r.metadata.generation
  | error e => exact Role.shows_setFailure _

theorem Answers.reports (adapter : Answers outcome reply) (r : Role) (old : RoleStatus) :
    Reports outcome r.metadata.generation (reply .clock) old (report reply r old) := by
  have created := adapter.create r
  cases outcome with
  | none =>
    rw [report, created]
    rfl
  | some text =>
    obtain ⟨e, failed, rfl⟩ := created
    rw [report, failed]
    exact RoleStatus.setFailure_reports _ _ _

/-- What has been reported once is not changed by reporting it again. -/
theorem Answers.report_eq (adapter : Answers outcome reply) {now : Timestamp}
    {old s : RoleStatus} (h : Reports outcome r.metadata.generation now old s) :
    report reply r s = s := by
  have created := adapter.create r
  cases outcome with
  | none =>
    rw [report, created, show s = _ from h]
    rfl
  | some text =>
    obtain ⟨e, failed, rfl⟩ := created
    rw [report, failed]
    exact RoleStatus.ReportsFailure.setFailure_eq h

theorem exec_createRole (adapter : Answers outcome reply) (r : Role) (w : Quiet) :
    exec reply (Reconcile.createRole r) w = (reply (.create r),
      { w with past := w.past ++ [⟨.bind r, .ok ()⟩] ++ [⟨.create r, reply (.create r)⟩] }) := by
  rw [Reconcile.createRole, exec_bind, exec_perform]
  simp only [answer, ObjectTable.respond, adapter.bind]
  rfl

theorem exec_sync (adapter : Answers outcome reply) (r : Role) (key : ObjectKey) (w : Quiet) :
    ∃ past,
    (exec reply (Reconcile.sync r key) w).2 =
      (exec reply (patch key .status (Role.mapStatus (report reply r)))
        { w with past := w.past ++ past }).2 ∧
      creations past = [r] ∧ writes past = [] := by
  rw [Reconcile.sync, exec_bind, exec_createRole adapter]
  dsimp only
  cases created : reply (.create r) with
  | ok =>
    refine ⟨[⟨.bind r, .ok ()⟩, ⟨.create r, .ok ()⟩], ?_, rfl, rfl⟩
    rw [exec_bind, report, created, List.append_assoc]
    split <;> rfl
  | error e =>
    refine ⟨[⟨.bind r, .ok ()⟩, ⟨.create r, .error e⟩, ⟨.clock, reply .clock⟩], ?_, rfl, rfl⟩
    change (exec reply (Reconcile.reportFailure key e) _).2 = _
    rw [Reconcile.reportFailure, exec_bind]
    change (exec reply (patch key .status _ >>= _)
      { w with past := w.past ++ _ ++ _ ++ [⟨.clock, reply .clock⟩] }).2 = _
    rw [exec_bind, report, created, List.append_assoc, List.append_assoc]
    split <;> rfl

theorem creations_append (xs ys : List Exchange) :
    creations (xs ++ ys) = creations xs ++ creations ys := List.filterMap_append

theorem writes_append (xs ys : List Exchange) : writes (xs ++ ys) = writes xs ++ writes ys :=
  List.filterMap_append

/-- The object has its finalizer, and its status says what it would be changed to. -/
structure Final (outcome : Option String) (v : Role) : Prop where
  held : v.hasFinalizer
  reported : ∃ s now old, v.status = some s ∧ Reports outcome v.metadata.generation now old s

theorem synced (adapter : Answers outcome reply) (calm : w.table.Calm)
    (stored : w.table.get? key = some v) (named : v.metadata.key? = some key)
    (alive : v.isDeleting = false) (generation : r.metadata.generation = v.metadata.generation) :
    ∃ u w' s, (exec reply (Reconcile.sync r key) w).2 = w' ∧ w'.table.Calm ∧
      (∀ k, w'.table.get? k = if k = key then some u else w.table.get? k) ∧
      u.Alike { v with status := some s } ∧
      Reports outcome v.metadata.generation (reply .clock) (v.status.getD {}) s ∧
      creations w'.past = creations w.past ++ [r] ∧
      (Final outcome v → w'.table = w.table ∧ writes w'.past = writes w.past) := by
  obtain ⟨past, sync_eq, created, wrote⟩ := exec_sync adapter r key w
  obtain ⟨u, w', patch_eq, updated, alike, kept⟩ :=
    patched reply .status { w with past := w.past ++ past } calm stored (shows_report r) named rfl
      alive
  have reports := adapter.reports r (v.status.getD {})
  rw [generation] at reports
  refine ⟨u, w', _, ?_, updated.calm, updated.objects, alike, reports, ?_, fun final => ?_⟩
  · rw [sync_eq, patch_eq]
  · rw [updated.created, creations_append, created]
  · obtain ⟨s, now, old, status, reported⟩ := final.reported
    rw [← generation] at reported
    have unchanged : v.mapStatus (report reply r) = v := by
      rw [Role.mapStatus, status, Option.getD_some, adapter.report_eq reported, ← status]
    obtain ⟨table_eq, writes_eq⟩ := kept unchanged
    exact ⟨table_eq, by rw [writes_eq, writes_append, wrote, List.append_nil]⟩

/-- One reconcile of the table's object under `key`. -/
def reconcile (key : ObjectKey) (reply : (c : Call) → c.Answer) (t : ObjectTable) : Quiet :=
  (exec reply (Reconcile.program key) { table := t }).2

variable {t : ObjectTable}

/-- A reconcile takes hold of the object and synchronises it. -/
theorem reconcile_eq (reply : (c : Call) → c.Answer) (calm : t.Calm) (stored : t.get? key = some v)
    (named : v.metadata.key? = some key) (alive : v.isDeleting = false) :
    ∃ r w, reconcile key reply t = (exec reply (Reconcile.sync r key) w).2 ∧ w.table.Calm ∧
      (∀ k, w.table.get? k = if k = key then some r else t.get? k) ∧ creations w.past = [] ∧
      r.Alike v.addFinalizer ∧ (v.hasFinalizer → r = v ∧ w.table = t ∧ writes w.past = []) := by
  by_cases held : v.hasFinalizer
  · have same : v.addFinalizer = v := by rw [Role.addFinalizer, if_pos held]
    refine ⟨v, { table := t, past := [⟨.cached key, some v⟩] }, ?_, calm, fun k => ?_, rfl, ?_,
      fun _ => ⟨rfl, rfl, rfl⟩⟩
    · rw [reconcile, Reconcile.program, exec_bind, exec_perform]
      simp only [answer, ObjectTable.respond, stored, alive, held, Bool.false_eq_true, if_false,
        if_true, List.nil_append]
    · split
      · next hk => rw [hk, stored]
      · rfl
    · rw [same]
      exact .refl v
  · have fits : v.addFinalizer.metadata.key? = some key ∧
        v.addFinalizer.metadata.resourceVersion = v.metadata.resourceVersion ∧
        v.addFinalizer.isDeleting = false := by
      rw [Role.addFinalizer_eq]
      exact ⟨named, rfl, alive⟩
    obtain ⟨r, w, patch_eq, updated, alike, -⟩ :=
      patched reply .object { table := t, past := [⟨.cached key, some v⟩] } calm stored
        Role.shows_addFinalizer fits.1 fits.2.1 fits.2.2
    refine ⟨r, w, ?_, updated.calm, updated.objects, updated.created, alike,
      fun h => absurd h held⟩
    rw [reconcile, Reconcile.program, exec_bind, exec_perform]
    simp only [answer, ObjectTable.respond, stored, alive, held, Bool.false_eq_true, if_false,
      List.nil_append]
    rw [exec_bind, patch_eq]

theorem reconciled (adapter : Answers outcome reply) (calm : t.Calm) (stored : t.get? key = some v)
    (named : v.metadata.key? = some key) (alive : v.isDeleting = false) :
    ∃ u s r, (reconcile key reply t).table.Calm ∧
      (∀ k, (reconcile key reply t).table.get? k = if k = key then some u else t.get? k) ∧
      u.Alike { v.addFinalizer with status := some s } ∧
      Reports outcome v.metadata.generation (reply .clock) (v.status.getD {}) s ∧
      creations (reconcile key reply t).past = [r] ∧ r.Alike v.addFinalizer ∧
      (Final outcome v → r = v ∧ (reconcile key reply t).table = t ∧
        writes (reconcile key reply t).past = []) := by
  obtain ⟨r, w, run_eq, calm', objects, created, alike, still⟩ :=
    reconcile_eq reply calm stored named alive
  have kept : v.addFinalizer.metadata.key? = some key ∧ v.addFinalizer.isDeleting = false ∧
      v.addFinalizer.metadata.generation = v.metadata.generation ∧
      v.addFinalizer.status = v.status := by
    rw [Role.addFinalizer_eq]
    exact ⟨named, alive, rfl, rfl⟩
  have stored' : w.table.get? key = some r := by rw [objects, if_pos rfl]
  have named' : r.metadata.key? = some key := alike.key?.trans kept.1
  have alive' : r.isDeleting = false := alike.isDeleting.trans kept.2.1
  have generation : r.metadata.generation = v.metadata.generation :=
    alike.generation.trans kept.2.2.1
  have status : r.status = v.status := alike.status.trans kept.2.2.2
  obtain ⟨u, w', s, sync_eq, settled, objects', left, reports, made, final⟩ :=
    synced adapter calm' stored' named' alive' (r := r) rfl
  rw [run_eq, sync_eq]
  rw [generation, status] at reports
  refine ⟨u, s, r, settled, fun k => ?_, left.trans (alike.withStatus s), reports, ?_, alike,
    fun h => ?_⟩
  · rw [objects', objects]
    split <;> rfl
  · rw [made, created]
    rfl
  · obtain ⟨rfl, table_eq, wrote⟩ := still h.held
    obtain ⟨table_eq', wrote'⟩ := final h
    exact ⟨rfl, table_eq'.trans table_eq, wrote'.trans wrote⟩

/-- Reconciles one after another, each with answers of its own. Gives the exchanges of each. -/
def rounds (key : ObjectKey) : List ((c : Call) → c.Answer) → ObjectTable →
    List (List Exchange) × ObjectTable
  | [], t => ([], t)
  | reply :: rest, t =>
    let first := reconcile key reply t
    let (logs, last) := rounds key rest first.table
    (first.past :: logs, last)

/-- An object in its final form stays as it is. -/
theorem rounds_of_final {replies : List ((c : Call) → c.Answer)} (calm : t.Calm)
    (stored : t.get? key = some v) (named : v.metadata.key? = some key)
    (alive : v.isDeleting = false) (final : Final outcome v)
    (adapters : ∀ reply ∈ replies, Answers outcome reply) :
    (rounds key replies t).2 = t ∧
      (rounds key replies t).1.map creations = List.replicate replies.length [v] ∧
      (rounds key replies t).1.map writes = List.replicate replies.length [] := by
  induction replies with
  | nil => exact ⟨rfl, rfl, rfl⟩
  | cons reply rest ih =>
    obtain ⟨adapter, adapters⟩ := List.forall_mem_cons.1 adapters
    obtain ⟨_, _, r, _, _, _, _, created, _, still⟩ := reconciled adapter calm stored named alive
    obtain ⟨rfl, table_eq, wrote⟩ := still final
    obtain ⟨last_eq, created', wrote'⟩ := ih adapters
    simp only [rounds, table_eq, last_eq, List.map_cons, List.length_cons, List.replicate_succ,
      created, created', wrote, wrote', and_self]

/-- One reconcile brings the object into its final form: nothing but the finalizer, the status and the
version has changed, and the role was created once. All further reconciles with the same outcome
create the same role, once each, and write nothing. -/
theorem reconciles_converge (adapter : Answers outcome reply) (calm : t.Calm)
    (stored : t.get? key = some v) (named : v.metadata.key? = some key)
    (alive : v.isDeleting = false) {later : List ((c : Call) → c.Answer)}
    (adapters : ∀ reply ∈ later, Answers outcome reply) :
    ∃ u s r,
      (∀ k, (reconcile key reply t).table.get? k = if k = key then some u else t.get? k) ∧
      u.Alike { v with
        metadata := { v.metadata with
          finalizers := some (if v.kind.finalizer ∈ v.metadata.finalizerList
            then v.metadata.finalizerList else v.metadata.finalizerList ++ [v.kind.finalizer]) }
        status := some s } ∧
      Reports outcome v.metadata.generation (reply .clock) (v.status.getD {}) s ∧
      creations (reconcile key reply t).past = [r] ∧
      (∀ client, Vault.Adapter.ofRole client r = Vault.Adapter.ofRole client v) ∧
      (∀ client, Vault.Adapter.ofRole client u = Vault.Adapter.ofRole client v) ∧
      (rounds key later (reconcile key reply t).table).2 = (reconcile key reply t).table ∧
      (rounds key later (reconcile key reply t).table).1.map creations =
        List.replicate later.length [u] ∧
      (rounds key later (reconcile key reply t).table).1.map writes =
        List.replicate later.length [] := by
  obtain ⟨u, s, r, calm', objects, alike, reports, created, origin, -⟩ :=
    reconciled adapter calm stored named alive
  have held := alike.hasFinalizer.trans (Role.hasFinalizer_addFinalizer v)
  rw [Role.addFinalizer_eq] at alike origin
  have stored' : (reconcile key reply t).table.get? key = some u := by rw [objects, if_pos rfl]
  have named' : u.metadata.key? = some key := alike.key?.trans named
  have final : Final outcome u := by
    refine ⟨held, s, reply .clock, v.status.getD {}, alike.status, ?_⟩
    rw [alike.generation]
    exact reports
  refine ⟨u, s, r, objects, alike, reports, created, fun client => ?_, fun client => ?_, ?_⟩
  · exact Role.adapter_of_key (origin.key?.trans named) named origin.spec client
  · exact Role.adapter_of_key named' named alike.spec client
  · exact rounds_of_final calm' stored' named' (alike.isDeleting.trans alive) final adapters

def auditTable : ObjectTable := ObjectTable.insert {} (Reconcile.auditor 1 "read" "1")

/-- An adapter before a Vault that refuses, at the given second. -/
def refusal (second : Int) : (c : Call) → c.Answer
  | .bind _ | .delete _ _ => .ok ()
  | .create _ => .error (.config "permission denied")
  | .clock => ⟨second, 0⟩
  | .cached _ => none
  | .get _ => .ok none
  | .write role _ => .ok role
  | .finalize _ => ()

theorem answers_refusal (second : Int) :
    Answers (some (Fault.config "permission denied").message) (refusal second) :=
  ⟨fun _ => rfl, fun _ => ⟨_, rfl, rfl⟩⟩

/-- A failure that is seen again at 20 and at 30 keeps the time 10. -/
theorem refusal_seen_once :
    auditTable.Calm ∧ auditTable.get? Reconcile.auditorKey = some (Reconcile.auditor 1 "read" "1") ∧
      ∃ u s c,
        (rounds Reconcile.auditorKey [refusal 20, refusal 30]
          (reconcile Reconcile.auditorKey (refusal 10) auditTable).table).2.get?
            Reconcile.auditorKey = some u ∧
        u.metadata.finalizers = some ["gcprole.engine.kubevault.com"] ∧ u.status = some s ∧
        s.conditions = [c] ∧ c.lastTransitionTime = ⟨10, 0⟩ := by
  have calm : auditTable.Calm := ⟨rfl, rfl⟩
  have stored : auditTable.get? Reconcile.auditorKey = some (Reconcile.auditor 1 "read" "1") := rfl
  have again : ∀ reply ∈ [refusal 20, refusal 30],
      Answers (some (Fault.config "permission denied").message) reply := by
    intro reply h
    rcases List.mem_cons.1 h with rfl | h
    · exact answers_refusal 20
    · rw [List.mem_singleton.1 h]
      exact answers_refusal 30
  refine ⟨calm, stored, ?_⟩
  obtain ⟨u, s, _, objects, alike, reports, _, _, _, still, _⟩ :=
    reconciles_converge (answers_refusal 10) calm stored rfl rfl again
  obtain ⟨c, only, _, old | ⟨seen, _⟩⟩ := RoleStatus.ReportsFailure.condition reports
  · cases old
  · refine ⟨u, s, c, ?_, ?_, alike.status, only, seen⟩
    · rw [still, objects, if_pos rfl]
    · exact alike.finalizers.trans rfl

end Quiet
end RoleOperator
