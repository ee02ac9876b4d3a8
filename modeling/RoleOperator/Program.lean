import RoleOperator.Role.Basic

/-!
# Programs

What the operator does to its surroundings, as a tree: a program is finished, or it makes a call
and goes on with the answer. The tree says nothing about who answers, how long that takes and what
others do meanwhile; a statement about a program holds for all of that.
-/
namespace RoleOperator

/-- The part of an object that a write is meant for. -/
inductive WriteTarget where
  | object
  | status
  deriving DecidableEq, Repr

/-- A call to the surroundings. Adapter calls name the version of the role they are bound to. -/
inductive Call where
  | cached (key : ObjectKey)
  | get (key : ObjectKey)
  | write (role : Role) (target : WriteTarget)
  | bind (role : Role)
  | create (role : Role)
  | delete (role : Role) (name : String)
  | clock
  | finalize (role : Role)
  deriving Repr

/-- What a call is answered with. -/
abbrev Call.Answer : Call → Type
  | .cached _ => Option Role
  | .get _ => Except Fault (Option Role)
  | .write _ _ => Except Fault Role
  | .bind _ => Except Fault Unit
  | .create _ => Except Fault Unit
  | .delete _ _ => Except Fault Unit
  | .clock => Timestamp
  | .finalize _ => Unit

inductive Program (α : Type) where
  | done (a : α)
  | ask (call : Call) (next : call.Answer → Program α)

namespace Program

variable {α β : Type}

def bind : Program α → (α → Program β) → Program β
  | .done a, f => f a
  | .ask c next, f => .ask c fun x => (next x).bind f

instance : Monad Program where
  pure := .done
  bind := .bind

/-- A single call. -/
def perform (c : Call) : Program c.Answer := .ask c .done

/-- Run a program in a monad that answers its calls. -/
def run {m : Type → Type} [Monad m] (answer : (c : Call) → m c.Answer) : Program α → m α
  | .done a => pure a
  | .ask c next => do
    let x ← answer c
    (next x).run answer

end Program
end RoleOperator
