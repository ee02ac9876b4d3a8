import RoleOperator.Vault.Adapter

/-!
# Identity of a role

What depends on the key of an object and on nothing else in its metadata, and objects that are the
same but for their versions.
-/
namespace RoleOperator.Role

variable {a b : Role} {key : ObjectKey}

theorem names_of_key (h : a.metadata.key? = some key) :
    a.metadata.ns = key.ns ∧ a.metadata.anyName = key.name := by
  unfold Metadata.key? at h
  split at h
  · next name named =>
    split at h
    · cases h
    · cases h
      simp [Metadata.anyName, named]
  · cases h

theorem vaultName_of_key (ha : a.metadata.key? = some key) (hb : b.metadata.key? = some key) :
    a.vaultName = b.vaultName := by
  simp only [vaultName, names_of_key ha, names_of_key hb]

theorem finalizationId_of_key (ha : a.metadata.key? = some key) (hb : b.metadata.key? = some key)
    (kind : a.kind = b.kind) : a.finalizationId = b.finalizationId := by
  simp only [finalizationId, names_of_key ha, names_of_key hb, kind]

/-- What is written to Vault for an object depends on its key and on what is specified. -/
theorem adapter_of_key (ha : a.metadata.key? = some key) (hb : b.metadata.key? = some key)
    (spec : a.spec = b.spec) (client : Vault.Client) :
    Vault.Adapter.ofRole client a = Vault.Adapter.ofRole client b := by
  simp only [Vault.Adapter.ofRole, vaultName_of_key ha hb, spec]

/-- The two differ in their versions at most. -/
def Alike (a b : Role) : Prop := a.withVersion "" = b.withVersion ""

namespace Alike

variable {c : Role}

theorem refl (a : Role) : a.Alike a := rfl

theorem trans (h : a.Alike b) (h' : b.Alike c) : a.Alike c := Eq.trans h h'

theorem withVersion (a : Role) (version : String) : (a.withVersion version).Alike a := rfl

theorem spec (h : a.Alike b) : a.spec = b.spec := congrArg (fun r => r.spec) h

theorem status (h : a.Alike b) : a.status = b.status := congrArg (fun r => r.status) h

theorem key? (h : a.Alike b) : a.metadata.key? = b.metadata.key? :=
  congrArg (fun r => r.metadata.key?) h

theorem generation (h : a.Alike b) : a.metadata.generation = b.metadata.generation :=
  congrArg (fun r => r.metadata.generation) h

theorem finalizers (h : a.Alike b) : a.metadata.finalizers = b.metadata.finalizers :=
  congrArg (fun r => r.metadata.finalizers) h

theorem isDeleting (h : a.Alike b) : a.isDeleting = b.isDeleting :=
  congrArg (fun r => r.isDeleting) h

theorem hasFinalizer (h : a.Alike b) : a.hasFinalizer = b.hasFinalizer :=
  congrArg (fun r => r.hasFinalizer) h

theorem withStatus (h : a.Alike b) (s : RoleStatus) :
    Alike { a with status := some s } { b with status := some s } :=
  congrArg (fun r : Role => ({ r with status := some s } : Role)) h

end Alike

end RoleOperator.Role
