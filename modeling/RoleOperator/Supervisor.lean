import RoleOperator.Duration

/-!
# Supervisor of background tasks

Tasks in the background outlive whoever started them. At shutdown they get a grace period; those
that are still running when it ends are told to give up, and the shutdown waits for the last of
them.
-/
namespace RoleOperator

/-- Somebody waits for all tasks to end. `expired` says that the grace period is over. -/
structure Drain where
  id : Nat
  deadline : Nat
  expired : Bool := false
  deriving DecidableEq, Repr

structure Supervisor where
  grace : Duration
  running : List Nat := []
  stopped : Bool := false
  abandoned : Bool := false
  drains : List Drain := []
  deriving Repr

namespace Supervisor

/-- A drain that has returned, and whether all tasks ended in time. -/
abbrev Drained := Nat × Bool

def inFlight (s : Supervisor) : Nat := s.running.length

def spawn (s : Supervisor) (task : Nat) : Supervisor := { s with running := s.running ++ [task] }

/-- Take in no more work. -/
def stop (s : Supervisor) : Supervisor := { s with stopped := true }

/-- Return to whoever waits, if no task is left. -/
def settle (s : Supervisor) : List Drained × Supervisor :=
  if s.running.isEmpty then (s.drains.map fun d => (d.id, !d.expired), { s with drains := [] })
  else ([], s)

def finish (s : Supervisor) (task : Nat) : List Drained × Supervisor :=
  { s with running := s.running.filter (· ≠ task) }.settle

/-- Begin to wait for all tasks to end. The timer tells when the grace period is over. -/
def drain (timer : Duration.Timer) (s : Supervisor) (id now : Nat) : List Drained × Supervisor :=
  { s with drains := s.drains ++ [Drain.mk id (timer now s.grace.nanos) false] }.settle

/-- The grace period of a drain is over: whoever still runs has to give up. -/
def expire (s : Supervisor) (id : Nat) : Supervisor :=
  if s.drains.any (·.id = id) then
    { s with
      abandoned := true
      drains := s.drains.map fun d => if d.id = id then { d with expired := true } else d }
  else s

end Supervisor
end RoleOperator
