import RoleOperator.Program

/-!
# Table of objects

Objects by key, each with a version of its own. A write names the version it was made from and is
refused if another one is stored by then. An object that is marked for deletion goes when the last
finalizer is taken off. Writes can be made to fail a number of times.
-/
namespace RoleOperator

structure ObjectTable where
  objects : List (ObjectKey × Role) := []
  nextVersion : Nat := 1
  objectWrites : Nat := 0
  statusWrites : Nat := 0
  conflictsLeft : Nat := 0
  failuresLeft : Nat := 0
  deriving Repr

namespace ObjectTable

def get? (t : ObjectTable) (key : ObjectKey) : Option Role := t.objects.lookup key

def remove (t : ObjectTable) (key : ObjectKey) : ObjectTable :=
  { t with objects := t.objects.filter (·.1 ≠ key) }

def put (t : ObjectTable) (key : ObjectKey) (role : Role) : ObjectTable :=
  { t with objects := (key, role) :: t.objects.filter (·.1 ≠ key) }

/-- Give a role the next version. -/
def stamp (t : ObjectTable) (role : Role) : Role × ObjectTable :=
  (role.withVersion (toString t.nextVersion), { t with nextVersion := t.nextVersion + 1 })

/-- Add or overwrite an object, as another actor would. An object without a name is not taken. -/
def insert (t : ObjectTable) (role : Role) : ObjectTable :=
  match role.metadata.key? with
  | none => t
  | some key =>
    let (role, t) := t.stamp role
    t.put key role

def insertAll (t : ObjectTable) (roles : List Role) : ObjectTable := roles.foldl insert t

def modified (key : ObjectKey) : Fault := .conflict (key.text ++ " was modified")

def count (t : ObjectTable) : WriteTarget → ObjectTable
  | .object => { t with objectWrites := t.objectWrites + 1 }
  | .status => { t with statusWrites := t.statusWrites + 1 }

/-- Replace the object whose version the role carries. -/
def write (t : ObjectTable) (role : Role) (target : WriteTarget) :
    Except Fault Role × ObjectTable :=
  match role.key with
  | .error e => (.error e, t)
  | .ok key =>
    if t.failuresLeft > 0 then
      (.error (.config "injected write failure"), { t with failuresLeft := t.failuresLeft - 1 })
    else if t.conflictsLeft > 0 then
      (.error (modified key), { t with conflictsLeft := t.conflictsLeft - 1 })
    else
      match t.get? key with
      | none => (.error (.notFound key.text), t)
      | some current =>
        if current.metadata.resourceVersion ≠ role.metadata.resourceVersion then
          (.error (modified key), t)
        else
          let (updated, t) := t.stamp role
          let t := t.count target
          if updated.isDeleting && updated.metadata.finalizerList.isEmpty then
            (.ok updated, t.remove key)
          else (.ok updated, t.put key updated)

end ObjectTable
end RoleOperator
