import RoleOperator.Simulation.Script
import RoleOperator.Store.ObjectTable
import RoleOperator.Vault.Adapter

/-!
# Scripted surroundings

Who answers the operator's calls in a simulation: a table of objects that other actors may disturb,
and an adapter that follows a script or stands before a Vault that cannot be reached.
-/
namespace RoleOperator.Simulation

/-- A call that shows. A failed call names its fault. -/
inductive Note where
  | get (fault : Option Fault)
  | write (target : WriteTarget) (fault : Option Fault)
  | create (path : String) (payload : Except Fault Json)
  | delete (path : String)
  | bindFailed (fault : Fault)
  | reconciled (result : Except Fault Unit)
  | request (method path : String) (status : Nat)

/-- An answer, how long it takes, what shows of the call, and the surroundings afterwards. -/
structure Reply (σ α : Type) where
  answer : α
  world : σ
  delay : Nat := 0
  notes : List Note := []

/-- Somebody who answers calls. -/
abbrev Answering (σ : Type) := (c : Call) → σ → Reply σ c.Answer

def failureOf {α : Type} : Except Fault α → Option Fault
  | .ok _ => none
  | .error e => some e

/-- How adapter calls end. -/
inductive AdapterScript where
  | scripted (bind create delete : Script)
  | vault (client : Vault.Client) (send : Vault.Client.Transport Id)

/-- A table with what is going to disturb it. Pinned keys stand for a cache that does not follow. -/
structure ScriptedWorld where
  table : ObjectTable := {}
  getFaults : List (Option Fault) := []
  beforeWrites : List (Option Role) := []
  pins : List (ObjectKey × Option Role) := []
  adapter : AdapterScript
  clock : Timestamp

namespace ScriptedWorld

def cached (w : ScriptedWorld) (key : ObjectKey) : Option Role :=
  match w.pins.lookup key with
  | some pinned => pinned
  | none => w.table.get? key

def get (w : ScriptedWorld) (key : ObjectKey) :
    Reply ScriptedWorld (Except Fault (Option Role)) :=
  let w' := { w with getFaults := w.getFaults.drop 1 }
  match w.getFaults.head? with
  | some (some e) => { answer := .error e, world := w', notes := [.get (some e)] }
  | _ => { answer := .ok (w.table.get? key), world := w', notes := [.get none] }

def write (w : ScriptedWorld) (role : Role) (target : WriteTarget) :
    Reply ScriptedWorld (Except Fault Role) :=
  let table := match w.beforeWrites.head? with
    | some (some other) => w.table.insert other
    | _ => w.table
  let (r, table) := table.write role target
  { answer := r
    world := { w with table := table, beforeWrites := w.beforeWrites.drop 1 }
    notes := [.write target (failureOf r)] }

def bind (w : ScriptedWorld) : Reply ScriptedWorld (Except Fault Unit) :=
  match w.adapter with
  | .vault _ _ => { answer := .ok (), world := w }
  | .scripted b c d =>
    let (o, b) := b.next
    { answer := o.result
      world := { w with adapter := .scripted b c d }
      notes := o.fault.toList.map .bindFailed }

def create (w : ScriptedWorld) (role : Role) : Reply ScriptedWorld (Except Fault Unit) :=
  match w.adapter with
  | .vault client send => { answer := (Vault.Adapter.ofRole client role).create send, world := w }
  | .scripted b c d =>
    let (o, c) := c.next
    { answer := o.result
      delay := o.delay
      world := { w with adapter := .scripted b c d }
      notes := [.create role.vaultPath role.spec.payload] }

def delete (w : ScriptedWorld) (role : Role) (name : String) :
    Reply ScriptedWorld (Except Fault Unit) :=
  match w.adapter with
  | .vault client send =>
    { answer := (Vault.Adapter.ofRole client role).delete send name, world := w }
  | .scripted b c d =>
    let (o, d) := d.next
    { answer := o.result
      delay := o.delay
      world := { w with adapter := .scripted b c d }
      notes := [.delete (role.spec.rolesPath ++ "/" ++ name)] }

def answer : Answering ScriptedWorld
  | .cached key, w => { answer := w.cached key, world := w }
  | .get key, w => w.get key
  | .write role target, w => w.write role target
  | .bind _, w => w.bind
  | .create role, w => w.create role
  | .delete role name, w => w.delete role name
  | .clock, w => { answer := w.clock, world := w }
  | .finalize _, w => { answer := (), world := w }

/-! ## Disturbances -/

def mapTable (f : ObjectTable → ObjectTable) (w : ScriptedWorld) : ScriptedWorld :=
  { w with table := f w.table }

/-- Mark the stored object for deletion, as another actor would. -/
def markDeleted (key : ObjectKey) (time : Timestamp) (w : ScriptedWorld) : ScriptedWorld :=
  match w.table.get? key with
  | none => w
  | some r =>
    w.mapTable (·.insert { r with metadata := { r.metadata with deletionTimestamp := some time } })

/-- Let the cache show the object as it is now. -/
def pin (key : ObjectKey) (w : ScriptedWorld) : ScriptedWorld :=
  { w with pins := (key, w.table.get? key) :: w.pins.filter (·.1 ≠ key) }

end ScriptedWorld
end RoleOperator.Simulation
