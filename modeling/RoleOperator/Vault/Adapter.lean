import RoleOperator.Vault.Client
import RoleOperator.Role.Basic

/-!
# Roles in Vault

An adapter writes and deletes the role of one resource. A resource whose payload cannot be built has
an adapter too: deleting needs nothing but the path.
-/
namespace RoleOperator.Vault

structure Adapter where
  client : Client
  rolesPath : String
  roleName : String
  payload : Except String Json

namespace Adapter

/-- The adapter of a resource as it is specified now. -/
def ofRole (client : Client) (role : Role) : Adapter where
  client := client
  rolesPath := role.spec.rolesPath
  roleName := role.vaultName
  payload :=
    match role.spec.payload with
    | .ok body => .ok body
    | .error e => .error e.message

def path (a : Adapter) (name : String) : String := a.rolesPath ++ "/" ++ name

/-- Write the role, in place of an earlier one. -/
def create {m : Type → Type} [Monad m] (send : Client.Transport m) (a : Adapter) :
    m (Except Fault Unit) :=
  match a.payload with
  | .error reason => pure (.error (.config reason))
  | .ok body => a.client.write send (a.path a.roleName) body

/-- Delete the named role; one that is not there counts as deleted. -/
def delete {m : Type → Type} [Monad m] (send : Client.Transport m) (a : Adapter) (name : String) :
    m (Except Fault Unit) := do
  match ← a.client.delete send (a.path name) with
  | .error (.notFound _) => pure (.ok ())
  | other => pure other

end Adapter
end RoleOperator.Vault
