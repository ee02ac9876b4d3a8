import RoleOperator.Fault

/-!
# Scripts

What the outside world does in a simulation: how long a call takes and how it ends. The outcomes
of a script are used up one per call, and one outcome is left for all calls after them.
-/
namespace RoleOperator.Simulation

/-- `delay` is in nanoseconds. -/
structure Outcome where
  delay : Nat := 0
  fault : Option Fault := none
  crashes : Bool := false
  deriving Repr

def Outcome.result (o : Outcome) : Except Fault Unit :=
  match o.fault with
  | none => .ok ()
  | some f => .error f

structure Script where
  outcomes : List Outcome := []
  after : Outcome := {}
  deriving Repr

def Script.next (s : Script) : Outcome × Script :=
  match s.outcomes with
  | [] => (s.after, s)
  | o :: rest => (o, { s with outcomes := rest })

/-- Steps that a simulation takes at most before it gives up. -/
def patience : Nat := 10000000

/-- Something that happens at a time. -/
structure Timed (α : Type) where
  due : Nat
  item : α
  deriving Repr

namespace Timed

variable {α : Type}

/-- The earliest time in a list. -/
def earliest? (ts : List (Timed α)) : Option Nat :=
  ts.foldl (fun acc t =>
    match acc with
    | none => some t.due
    | some n => some (min n t.due)) none

/-- What is due at a time, in the order of the list, and what is not. -/
def split (now : Nat) (ts : List (Timed α)) : List α × List (Timed α) :=
  ((ts.filter (·.due ≤ now)).map (·.item), ts.filter (now < ·.due))

end Timed
end RoleOperator.Simulation
