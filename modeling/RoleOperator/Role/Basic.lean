import RoleOperator.Role.Spec
import RoleOperator.Role.Status

/-!
# Roles

A custom resource that asks for a role in Vault, and the operator's hold on it: the finalizer
token that keeps a deleted object until its role in Vault is gone.
-/
namespace RoleOperator

structure Role where
  metadata : Metadata
  spec : RoleSpec
  status : Option RoleStatus := none
  deriving DecidableEq, Repr

namespace Role

def kind (r : Role) : Kind := r.spec.kind

def key (r : Role) : Except Fault ObjectKey := r.metadata.key

def isDeleting (r : Role) : Bool := r.metadata.isDeleting

/-- Name of the role in Vault: `k8s.<namespace>.<name>`. -/
def vaultName (r : Role) : String :=
  "k8s." ++ r.metadata.ns.getD "default" ++ "." ++ r.metadata.anyName

/-- Where the role is kept in Vault. -/
def vaultPath (r : Role) : String := r.spec.rolesPath ++ "/" ++ r.vaultName

/-- The id under which a finalization of the object is registered. -/
def finalizationId (r : Role) : String :=
  r.kind.plural ++ "/" ++ r.metadata.ns.getD "" ++ "/" ++ r.metadata.anyName

def toJson (r : Role) : Json :=
  .object <| [("apiVersion", .string Kind.apiVersion), ("kind", .string r.kind.text),
      ("metadata", r.metadata.toJson), ("spec", r.spec.toJson)]
    ++ Json.optEntry "status" RoleStatus.toJson r.status

/-! ## Finalizers -/

def hasFinalizer (r : Role) : Bool := r.metadata.finalizerList.contains r.kind.finalizer

def withFinalizers (r : Role) (fs : List String) : Role :=
  { r with metadata := { r.metadata with finalizers := some fs } }

/-- Put the token at the end, unless it is there already. -/
def addFinalizer (r : Role) : Role :=
  if r.hasFinalizer then r else r.withFinalizers (r.metadata.finalizerList ++ [r.kind.finalizer])

/-- Take the token off, the others staying in their order. An absent list becomes an empty one. -/
def removeFinalizer (r : Role) : Role :=
  r.withFinalizers (r.metadata.finalizerList.filter (· ≠ r.kind.finalizer))

/-! ## Status -/

/-- Change the status; an absent one starts from the default. -/
def mapStatus (f : RoleStatus → RoleStatus) (r : Role) : Role :=
  { r with status := some (f (r.status.getD {})) }

def withVersion (r : Role) (version : String) : Role :=
  { r with metadata := { r.metadata with resourceVersion := some version } }

end Role

namespace Json.Decode

def role (kind : Kind) : Decoder Role :=
  record kind.text <|
    Role.mk <$> Fields.required "metadata" metadata
      <*> Fields.required "spec" (roleSpec kind)
      <*> Fields.opt "status" roleStatus

end Json.Decode
end RoleOperator
