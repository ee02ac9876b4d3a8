/-!
# Wake-ups

How those who wait for a queue are told that there is something to take. A wake-up goes to whoever
has waited longest; when nobody waits, one is kept for the next to come. Whoever leaves after
having been woken, without having looked, passes the wake-up on.
-/
namespace RoleOperator

structure Wakeups where
  permit : Bool := false
  waiting : List Nat := []
  woken : List Nat := []
  deriving DecidableEq, Repr

namespace Wakeups

/-- Start to listen: use up the kept wake-up, or wait in line. -/
def listen (w : Wakeups) (id : Nat) : Wakeups :=
  if w.permit then { w with permit := false } else { w with waiting := w.waiting ++ [id] }

def wakeOne (w : Wakeups) : Wakeups :=
  match w.waiting with
  | [] => { w with permit := true }
  | id :: rest => { w with waiting := rest, woken := w.woken ++ [id] }

/-- Wake all who wait. Nothing is kept for those who come later, and nothing is passed on. -/
def wakeAll (w : Wakeups) : Wakeups := { w with waiting := [] }

/-- Stop listening, having found what was looked for or given up. -/
def leave (w : Wakeups) (id : Nat) : Wakeups :=
  if w.woken.contains id then { w with woken := w.woken.filter (· ≠ id) }.wakeOne
  else { w with waiting := w.waiting.filter (· ≠ id) }

/-- Act on a wake-up. -/
def consume (w : Wakeups) (id : Nat) : Wakeups :=
  { w with woken := w.woken.filter (· ≠ id) }

end Wakeups
end RoleOperator
