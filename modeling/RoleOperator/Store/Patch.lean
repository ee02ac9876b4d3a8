import RoleOperator.Program

/-!
# Patches

A patch reads an object, changes it and writes it back. A write that lost a race is tried again
from a fresh read, five times in all; a change that changes nothing is not written.
-/
namespace RoleOperator

/-- Attempts before a conflict is passed on. -/
def Patch.attempts : Nat := 5

/-- One attempt; `onConflict` says how to go on after a lost race. -/
def Patch.once (key : ObjectKey) (target : WriteTarget) (change : Role → Role)
    (onConflict : Fault → Program (Except Fault Role)) : Program (Except Fault Role) :=
  .ask (.get key) fun
    | .error e => .done (.error e)
    | .ok none => .done (.error (.notFound key.text))
    | .ok (some role) =>
      if (change role).toJson = role.toJson then .done (.ok (change role))
      else .ask (.write (change role) target) fun
        | .ok written => .done (.ok written)
        | .error e => if e.isConflict then onConflict e else .done (.error e)

/-- Patch with a number of attempts after the first. -/
def Patch.loop (key : ObjectKey) (target : WriteTarget) (change : Role → Role) :
    Nat → Program (Except Fault Role)
  | 0 => Patch.once key target change fun e => .done (.error e)
  | retries + 1 => Patch.once key target change fun _ => Patch.loop key target change retries

/-- Change the object under `key`, as it is stored then. -/
def patch (key : ObjectKey) (target : WriteTarget) (change : Role → Role) :
    Program (Except Fault Role) :=
  Patch.loop key target change (Patch.attempts - 1)

end RoleOperator
