import RoleOperator.Reconcile
import RoleOperator.Proofs.Program.Runs
import RoleOperator.Proofs.Store.Versions

/-!
# Reconciling in its surroundings

A reconcile with a table of objects that the cache agrees with, and with Vault as a map from paths to
what was written there. How calls to the adapter end is left open.
-/
namespace RoleOperator

/-- The roles in Vault by path. -/
abbrev VaultRoles := List (String × Json)

/-- What an exchange does to them. -/
def VaultRoles.after (v : VaultRoles) : Exchange → VaultRoles
  | ⟨.create role, .ok ()⟩ =>
    match role.spec.payload with
    | .ok body => (role.vaultPath, body) :: v.filter (·.1 ≠ role.vaultPath)
    | .error _ => v
  | ⟨.delete role name, .ok ()⟩ => v.filter (·.1 ≠ role.spec.rolesPath ++ "/" ++ name)
  | _ => v

/-- `created` lists the versions with which a role was created, and `handed` is the one that was last
handed over to a finalization. -/
structure Scene where
  table : ObjectTable := {}
  vault : VaultRoles := []
  created : List Role := []
  handed : Option Role := none

namespace Scene

/-- A role without a payload is not created, whatever the adapter would say. -/
def create (s : Scene) (reply : (c : Call) → c.Answer) (role : Role) : Except Fault Unit × Scene :=
  match role.spec.payload with
  | .error e => (.error (.config e.message), s)
  | .ok _ =>
    match reply (.create role) with
    | .error e => (.error e, s)
    | .ok () => (.ok (), { s with
        vault := s.vault.after ⟨.create role, .ok ()⟩, created := s.created ++ [role] })

def answer (reply : (c : Call) → c.Answer) : (c : Call) → StateM Scene c.Answer
  | .cached key => fun s => (s.table.get? key, s)
  | .get key => fun s => (.ok (s.table.get? key), s)
  | .write role target => fun s =>
    ((s.table.write role target).1, { s with table := (s.table.write role target).2 })
  | .create role => fun s => s.create reply role
  | .delete role name => fun s => (reply (.delete role name),
      { s with vault := s.vault.after ⟨.delete role name, reply (.delete role name)⟩ })
  | .finalize role => fun s => ((), { s with handed := some role })
  | .bind role => fun s => (reply (.bind role), s)
  | .clock => fun s => (reply .clock, s)

variable {α β : Type} {reply : (c : Call) → c.Answer} {s s' s₀ : Scene} {key : ObjectKey} {v : Role}
  {spec : RoleSpec}

def exec (reply : (c : Call) → c.Answer) (p : Program α) (s : Scene) : α × Scene :=
  p.run (answer reply) s

theorem exec_ask {c : Call} {next : c.Answer → Program α} :
    exec reply (.ask c next) s =
      exec reply (next (answer reply c s).1) (answer reply c s).2 := rfl

theorem exec_perform {c : Call} : exec reply (Program.perform c) s = answer reply c s := rfl

theorem exec_bind {p : Program α} {f : α → Program β} :
    exec reply (p >>= f) s = exec reply (f (exec reply p s).1) (exec reply p s).2 := by
  rw [exec, Program.run_bind]
  rfl

/-! ## Patches -/

/-- The object is still stored, alive, and asks for the same; nothing else has happened. -/
structure Same (key : ObjectKey) (spec : RoleSpec) (s s' : Scene) : Prop where
  sound : s'.table.Sound
  stored : ∃ w, s'.table.get? key = some w ∧ w.spec = spec ∧ w.isDeleting = false
  vault : s'.vault = s.vault
  created : s'.created = s.created
  handed : s'.handed = s.handed

/-- A change that concerns neither what is asked for nor the life of the object. -/
structure Harmless (change : Role → Role) : Prop where
  spec : ∀ r, (change r).spec = r.spec
  key : ∀ r, (change r).metadata.key? = r.metadata.key?
  deleting : ∀ r, (change r).isDeleting = r.isDeleting

theorem harmless_addFinalizer : Harmless Role.addFinalizer := by
  constructor <;> intro r <;> unfold Role.addFinalizer <;> split <;> rfl

theorem harmless_mapStatus (f : RoleStatus → RoleStatus) : Harmless (Role.mapStatus f) := by
  constructor <;> intro r <;> rfl

/-- What a patch leaves behind, and what it returns. -/
structure Patched (key : ObjectKey) (spec : RoleSpec) (s : Scene)
    (out : Except Fault Role × Scene) : Prop where
  same : Same key spec s out.2
  result : ∀ u, out.1 = .ok u → u.spec = spec ∧ u.metadata.key? = some key

variable {target : WriteTarget} {change : Role → Role}

theorem patched_once (harmless : Harmless change)
    {onConflict : Fault → Program (Except Fault Role)}
    (conflict : ∀ e s, Same key spec s₀ s → Patched key spec s₀ (exec reply (onConflict e) s))
    (same : Same key spec s₀ s) :
    Patched key spec s₀ (exec reply (Patch.once key target change onConflict) s) := by
  obtain ⟨v, stored, spec_eq, alive⟩ := same.stored
  have named := same.sound.named key v stored
  have kept : (change v).spec = spec ∧ (change v).metadata.key? = some key :=
    ⟨(harmless.spec v).trans spec_eq, (harmless.key v).trans named⟩
  simp only [Patch.once, exec_ask, answer, stored]
  split
  · refine ⟨same, ?_⟩
    rintro u ⟨⟩
    exact kept
  · rw [exec_ask]
    simp only [answer]
    have evolves := ObjectTable.write_evolves s.table (change v) target
    rcases hw : s.table.write (change v) target with ⟨e | u, t⟩ <;>
      rw [hw] at evolves <;>
      dsimp only
    · -- A refused write leaves the objects as they are.
      have refused : Same key spec s₀ { s with table := t } := by
        refine ⟨same.sound.evolves evolves, ⟨v, ?_, spec_eq, alive⟩, same.vault, same.created,
          same.handed⟩
        rw [ObjectTable.write_refused hw]
        exact stored
      split
      · exact conflict e _ refused
      · refine ⟨refused, ?_⟩
        rintro u ⟨⟩
    · obtain ⟨key', current, named', _, _, rfl, _, objects⟩ := ObjectTable.write_accepted hw
      cases kept.2.symm.trans named'
      have lives : ((change v).withVersion s.table.fresh).isDeleting = false :=
        (harmless.deleting v).trans alive
      have stored' : t.get? key = some ((change v).withVersion s.table.fresh) := by
        rw [objects, if_pos rfl, lives]
        rfl
      refine ⟨⟨same.sound.evolves evolves, ⟨_, stored', kept.1, lives⟩, same.vault, same.created,
        same.handed⟩, ?_⟩
      rintro u ⟨⟩
      exact kept

theorem patched_loop (harmless : Harmless change) (retries : Nat) (same : Same key spec s₀ s) :
    Patched key spec s₀ (exec reply (Patch.loop key target change retries) s) := by
  induction retries generalizing s with
  | zero =>
    refine patched_once harmless (fun e s same => ⟨same, ?_⟩) same
    rintro u ⟨⟩
  | succ retries ih => exact patched_once harmless (fun _ s same => ih same) same

theorem patched (harmless : Harmless change) (same : Same key spec s₀ s) :
    Patched key spec s₀ (exec reply (patch key target change) s) :=
  patched_loop harmless _ same

/-! ## Reconciles -/

/-- A reconcile of an object that stays: it creates no role, or one as it is asked for. -/
structure Synced (key : ObjectKey) (spec : RoleSpec) (s s' : Scene) : Prop where
  sound : s'.table.Sound
  stored : ∃ w, s'.table.get? key = some w ∧ w.spec = spec ∧ w.isDeleting = false
  handed : s'.handed = s.handed
  effect : s'.vault = s.vault ∧ s'.created = s.created ∨
    ∃ r body, r.spec = spec ∧ r.metadata.key? = some key ∧ spec.payload = .ok body ∧
      s'.vault = (r.vaultPath, body) :: s.vault.filter (·.1 ≠ r.vaultPath) ∧
      s'.created = s.created ++ [r]

theorem Same.synced (h : Same key spec s s') : Synced key spec s s' :=
  ⟨h.sound, h.stored, h.handed, Or.inl ⟨h.vault, h.created⟩⟩

theorem Synced.same (h : Synced key spec s s₀) (same : Same key spec s₀ s') :
    Synced key spec s s' := by
  refine ⟨same.sound, same.stored, same.handed.trans h.handed, ?_⟩
  rw [same.vault, same.created]
  exact h.effect

theorem Synced.refl_of (h : Synced key spec s s') : Same key spec s' s' :=
  ⟨h.sound, h.stored, rfl, rfl, rfl⟩

theorem synced_createRole (same : Same key spec s₀ s) (spec_eq : v.spec = spec)
    (named : v.metadata.key? = some key) :
    Synced key spec s₀ (exec reply (Reconcile.createRole v) s).2 := by
  rw [Reconcile.createRole, exec_bind, exec_perform]
  dsimp only [answer]
  split
  · exact same.synced
  · rw [exec_perform]
    dsimp only [answer, create]
    split
    · exact same.synced
    · next body payload =>
      split
      · exact same.synced
      · refine ⟨same.sound, same.stored, same.handed, Or.inr ⟨v, body, spec_eq, named, ?_, ?_, ?_⟩⟩
        · rw [← spec_eq, payload]
        · simp only [VaultRoles.after, payload, same.vault]
        · simp only [same.created]

theorem synced_sync (same : Same key spec s₀ s) (spec_eq : v.spec = spec)
    (named : v.metadata.key? = some key) :
    Synced key spec s₀ (exec reply (Reconcile.sync v key) s).2 := by
  have created : Synced key spec s₀ (exec reply (Reconcile.createRole v) s).2 :=
    synced_createRole same spec_eq named
  rw [Reconcile.sync, exec_bind]
  generalize exec reply (Reconcile.createRole v) s = out at created ⊢
  obtain ⟨e | ⟨⟩, s'⟩ := out
  · simp only [Reconcile.reportFailure, exec_bind]
    split <;> exact created.same (patched (harmless_mapStatus _) created.refl_of).same
  · rw [exec_bind]
    split <;> exact created.same (patched (harmless_mapStatus _) created.refl_of).same

/-- What a reconcile does to an object that is not being deleted. -/
theorem reconcile_synced (sound : s.table.Sound) (stored : s.table.get? key = some v)
    (alive : v.isDeleting = false) :
    Synced key v.spec s (exec reply (Reconcile.program key) s).2 := by
  have named := sound.named key v stored
  have same : Same key v.spec s s := ⟨sound, ⟨v, stored, rfl, alive⟩, rfl, rfl, rfl⟩
  rw [Reconcile.program, exec_bind, exec_perform]
  simp only [answer, stored, alive, Bool.false_eq_true, if_false]
  split
  · exact synced_sync same rfl named
  · have taken : Patched key v.spec s (exec reply (patch key .object Role.addFinalizer) s) :=
      patched harmless_addFinalizer same
    rw [exec_bind]
    generalize exec reply (patch key .object Role.addFinalizer) s = out at taken ⊢
    obtain ⟨e | u, s'⟩ := out
    · exact taken.same.synced
    · obtain ⟨spec_eq, named'⟩ := taken.result u rfl
      exact synced_sync taken.same spec_eq named'

end Scene
end RoleOperator
