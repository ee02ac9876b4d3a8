import RoleOperator.Store.Patch
import RoleOperator.Registry
import RoleOperator.Settings

/-!
# Finalization

Deletes the role in Vault and then takes the operator's finalizer off the object. Attempts are
made at an interval until a deadline; after that the finalizer goes in any case, so that a broken
Vault does not hold an object for ever. A finalization that has to give up leaves the finalizer
for the next one.
-/
namespace RoleOperator

namespace Finalization

/-- How a finalization ends. -/
inductive Outcome where
  | completed
  | timedOut
  | alreadyProcessing
  | abandoned
  | invalid
  deriving DecidableEq, Repr

def Outcome.text : Outcome → String
  | .completed => "completed"
  | .timedOut => "timed_out"
  | .alreadyProcessing => "already_processing"
  | .abandoned => "abandoned"
  | .invalid => "invalid"

/-- What an attempt achieved. -/
structure Attempt where
  roleDeleted : Bool
  removed : Bool
  deriving DecidableEq, Repr

/-- Where a finalization stands. While it makes calls, the rest of the program is kept. -/
inductive Stage where
  | attempting (program : Program Attempt)
  | pausing (wakeAt : Nat)
  | removing (outcome : Outcome) (program : Program (Except Fault Unit))
  | ended (outcome : Outcome)

/-- Take the finalizer off; an object that is gone needs nothing. -/
def unregister (key : ObjectKey) : Program (Except Fault Unit) := do
  match ← patch key .object Role.removeFinalizer with
  | .ok _ => pure (.ok ())
  | .error e => pure (if e.isNotFound then .ok () else .error e)

/-- Delete the role through an adapter bound to it now. -/
def deleteRole (role : Role) : Program (Except Fault Unit) := do
  match ← Program.perform (.bind role) with
  | .error e => pure (.error e)
  | .ok () => Program.perform (.delete role role.vaultName)

/-- Delete the role unless that has been done, then take the finalizer off. -/
def attempt (role : Role) (key : ObjectKey) (roleDeleted : Bool) : Program Attempt := do
  let deleted ← if roleDeleted then pure true else Except.isOk <$> deleteRole role
  if deleted then
    let removed ← unregister key
    pure ⟨true, removed.isOk⟩
  else pure ⟨false, false⟩

end Finalization

/-- Times are in nanoseconds. -/
structure Finalization where
  role : Role
  key : ObjectKey
  deadline : Nat
  interval : Nat
  roleDeleted : Bool := false
  attempts : Nat := 0
  stage : Finalization.Stage

namespace Finalization

/-- Start an attempt, or remove the finalizer if the deadline has passed. -/
def enterLoop (f : Finalization) (now : Nat) : Finalization :=
  if f.deadline ≤ now then { f with stage := .removing .timedOut (unregister f.key) }
  else
    { f with attempts := f.attempts + 1, stage := .attempting (attempt f.role f.key f.roleDeleted) }

/-- Go on after an attempt: one more removal if all is done, else wait or give up. -/
def afterAttempt (f : Finalization) (now : Nat) (abandoned : Bool) (a : Attempt) : Finalization :=
  let f := { f with roleDeleted := a.roleDeleted }
  if a.removed then { f with stage := .removing .completed (unregister f.key) }
  else if abandoned then { f with stage := .ended .abandoned }
  else { f with stage := .pausing (min (Duration.endOfWait now f.interval) f.deadline) }

/-- The id that a finalization holds while it runs. -/
def id (f : Finalization) : String := f.role.finalizationId

/-- A finalization of `role` that begins at `now`, or how it ended at once. Whether the clock can show its
deadline is left to `launch`. -/
def start (settings : FinalizationSettings) (now : Nat) (registry : Registry) (role : Role) :
    Except Outcome Finalization × Registry :=
  match role.metadata.key? with
  | none => (.error .invalid, registry)
  | some key =>
    match registry.acquire role.finalizationId with
    | (false, registry) => (.error .alreadyProcessing, registry)
    | (true, registry) =>
      let f : Finalization := {
        role, key
        deadline := now + settings.timeout.nanos
        interval := settings.interval.nanos
        stage := .ended .abandoned }
      (.ok (f.enterLoop now), registry)

/-- Begin a finalization where there is a clock. Nothing comes of one whose deadline the clock cannot
show: adding the timeout fails before the first attempt, and the id is free again. -/
def launch (settings : FinalizationSettings) (now : Nat) (registry : Registry) (role : Role) :
    Option (Except Outcome Finalization) × Registry :=
  match start settings now registry role with
  | (.error o, held) => (some (.error o), held)
  | (.ok f, held) =>
    if f.deadline ≤ Duration.lastInstant then (some (.ok f), held) else (none, registry)

/-- Wake up from a pause that is over. -/
def wake (f : Finalization) (now : Nat) : Finalization :=
  match f.stage with
  | .pausing wakeAt => if wakeAt ≤ now then f.enterLoop now else f
  | _ => f

/-- Give up a pause. -/
def abandon (f : Finalization) : Finalization :=
  match f.stage with
  | .pausing _ => { f with stage := .ended .abandoned }
  | _ => f

/-- The call that a finalization has to make next, and how an answer moves it on. -/
def call? (f : Finalization) : Option ((c : Call) × (c.Answer → Finalization)) :=
  match f.stage with
  | .attempting (.ask c next) => some ⟨c, fun x => { f with stage := .attempting (next x) }⟩
  | .removing o (.ask c next) => some ⟨c, fun x => { f with stage := .removing o (next x) }⟩
  | _ => none

/-- Go on from a program that has come to its end. -/
def proceed (f : Finalization) (now : Nat) (abandoned : Bool) : Finalization :=
  match f.stage with
  | .attempting (.done a) => f.afterAttempt now abandoned a
  | .removing o (.done _) => { f with stage := .ended o }
  | _ => f

def outcome? (f : Finalization) : Option Outcome :=
  match f.stage with
  | .ended o => some o
  | _ => none

end Finalization
end RoleOperator
