import RoleOperator.Store.Patch

/-!
# Reconciling

Brings one role into line with what its object asks for: the finalizer first, then the role in
Vault, then the status. An object that is marked for deletion is handed over to a finalization.
-/
namespace RoleOperator.Reconcile

/-- Report in the status that the role could not be created; the fault is passed on, together with
one of the report itself. -/
def reportFailure (key : ObjectKey) (e : Fault) : Program (Except Fault Unit) := do
  let now ← Program.perform .clock
  let condition := Condition.failure now Condition.failedToCreateRole e.message
  match ← patch key .status (Role.mapStatus fun s => s.setFailure condition) with
  | .ok _ => pure (.error e)
  | .error e' => pure (.error (.aggregate [e, e']))

/-- Create the role through an adapter bound to it now. -/
def createRole (role : Role) : Program (Except Fault Unit) := do
  match ← Program.perform (.bind role) with
  | .error e => pure (.error e)
  | .ok () => Program.perform (.create role)

/-- Create the role and report how that went. -/
def sync (role : Role) (key : ObjectKey) : Program (Except Fault Unit) := do
  match ← createRole role with
  | .error e => reportFailure key e
  | .ok () =>
    match ← patch key .status (Role.mapStatus fun s => s.setSuccess role.metadata.generation) with
    | .ok _ => pure (.ok ())
    | .error e => pure (.error e)

/-- Reconcile the object under `key`, as it was last seen. -/
def program (key : ObjectKey) : Program (Except Fault Unit) := do
  match ← Program.perform (.cached key) with
  | none => pure (.ok ())
  | some role =>
    if role.isDeleting then
      if role.hasFinalizer then Program.perform (.finalize role)
      pure (.ok ())
    else if role.hasFinalizer then sync role key
    else
      match ← patch key .object Role.addFinalizer with
      | .ok updated => sync updated key
      | .error e => pure (if e.isNotFound then .ok () else .error e)

end RoleOperator.Reconcile
