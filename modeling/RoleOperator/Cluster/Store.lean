import RoleOperator.Cluster.Request
import RoleOperator.Watch

/-!
# Objects in the cluster

Reads objects from the API server and writes them back. An object that the server says is not
found is absent, which is no failure of a read.
-/
namespace RoleOperator.Cluster

/-- The namespace that requests for a key go to. -/
def namespaceOf (key : ObjectKey) : Except Fault String :=
  match key.ns with
  | some ns => .ok ns
  | none => .error (.invalidKey (key.text ++ " has no namespace"))

/-- The object under the key, if there is one. -/
def get {m : Type → Type} [Monad m] (send : Transport m) (kind : Kind) (key : ObjectKey) :
    m (Except Fault (Option Role)) :=
  match namespaceOf key with
  | .error e => pure (.error e)
  | .ok ns => do
    let read := request "GET" (objectPath kind ns key.name) none
    match ← exchange send (Json.Decode.role kind) read with
    | .ok role => pure (.ok (some role))
    | .error (.refused s) =>
      if s.reason = "NotFound" then pure (.ok none) else pure (.error (.ofCluster (.refused s)))
    | .error e => pure (.error (.ofCluster e))

/-- Where a write goes. -/
def writePath (kind : Kind) (ns name : String) : WriteTarget → String
  | .object => objectPath kind ns name ++ "?"
  | .status => objectPath kind ns name ++ "/status?"

/-- Replace an object or its status; the answer is the object as it is stored then. -/
def write {m : Type → Type} [Monad m] (send : Transport m) (role : Role) (target : WriteTarget) :
    m (Except Fault Role) :=
  match role.key with
  | .error e => pure (.error e)
  | .ok key =>
    match namespaceOf key with
    | .error e => pure (.error e)
    | .ok ns => do
      let path := writePath role.kind ns key.name target
      let replace := request "PUT" path (some role.toJson)
      match ← exchange send (Json.Decode.role role.kind) replace with
      | .ok updated => pure (.ok updated)
      | .error e => pure (.error (.ofCluster e))

end RoleOperator.Cluster
