import RoleOperator.Proofs.Role.Finalizers
import RoleOperator.Proofs.Role.Location

/-!
# Payloads

The adapter of a role deletes by the path and the name alone. A payload that cannot be built matters to it
only when the role is to be written, and then nothing is sent.
-/
namespace RoleOperator

namespace Role

variable {a b : Role}

/-- The kind and the metadata are the same. What is specified and the status may differ. -/
structure SameHead (a b : Role) : Prop where
  kind : a.kind = b.kind
  metadata : a.metadata = b.metadata

/-- The roles are kept in the same mount, too. Slashes around it do not count. -/
structure SameButPayload (a b : Role) : Prop extends SameHead a b where
  path : Text.SameInside '/' a.spec.path.toList b.spec.path.toList

theorem SameHead.vaultName (h : a.SameHead b) : a.vaultName = b.vaultName := by
  simp only [Role.vaultName, h.metadata]

theorem SameHead.finalizationId (h : a.SameHead b) : a.finalizationId = b.finalizationId := by
  simp only [Role.finalizationId, h.kind, h.metadata]

theorem SameHead.removeFinalizer (h : a.SameHead b) : a.removeFinalizer.SameHead b.removeFinalizer where
  kind := h.kind
  metadata := by simp only [Role.removeFinalizer, withFinalizers, h.kind, h.metadata]

/-- Whether the removal of the finalizer shows depends on the metadata only. -/
theorem SameHead.removeFinalizer_toJson (h : a.SameHead b) :
    a.removeFinalizer.toJson = a.toJson ↔ b.removeFinalizer.toJson = b.toJson := by
  rw [Role.removeFinalizer, Role.removeFinalizer, withFinalizers_toJson_eq, withFinalizers_toJson_eq,
    h.kind, h.metadata]

theorem SameButPayload.rolesPath (h : a.SameButPayload b) : a.spec.rolesPath = b.spec.rolesPath :=
  RoleSpec.rolesPath_congr h.kind h.path

end Role

/-- The payload cannot be built exactly if it has a policy document that is no JSON. -/
theorem RoleSpec.payload_error_iff {s : RoleSpec} :
    (∃ e, s.payload = .error e) ↔
      ∃ aws document flaw, s = .aws aws ∧ aws.policyDocument = some document ∧
        Json.read document = .error flaw := by
  cases s with
  | gcp s => simp [payload]
  | aws s =>
    cases hd : s.policyDocument with
    | none => simp [payload, AwsSpec.payload, hd]
    | some document => cases hr : Json.read document <;> simp [payload, AwsSpec.payload, hd, hr]

namespace Vault.Adapter

variable {m : Type → Type} [Monad m] {a b r : Role}

theorem delete_eq (h : a.SameButPayload b) (client : Client) (send : Client.Transport m)
    (name : String) : (ofRole client a).delete send name = (ofRole client b).delete send name := by
  have paths : (ofRole client a).path name = (ofRole client b).path name := by
    simp only [path, ofRole, h.rolesPath]
  simp only [delete, paths]
  rfl

/-- Nothing is sent for a payload that cannot be built. -/
theorem create_of_error {e : Fault} (h : r.spec.payload = .error e) (client : Client)
    (send : Client.Transport m) :
    (ofRole client r).create send = pure (.error (.config e.message)) := by
  simp only [create, ofRole, h]

end Vault.Adapter

end RoleOperator
