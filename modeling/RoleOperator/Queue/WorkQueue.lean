import RoleOperator.Duration

/-!
# Work queue

Keys wait in the order in which they came. A key that waits is not added twice, and a key that is
being processed is only marked, to be handed out again after its worker is done with it. A key that
failed comes back after a delay that doubles with each failure.
-/
namespace RoleOperator

structure WorkQueue where
  waiting : List String := []
  dirty : List String := []
  processing : List String := []
  failures : List (String × Nat) := []
  isDown : Bool := false
  baseDelay : Duration
  maxDelay : Duration
  deriving DecidableEq, Repr

namespace WorkQueue

def depth (q : WorkQueue) : Nat := q.waiting.length

/-- Add a key; the flag says whether it now waits, so that a worker has to be woken. -/
def add (q : WorkQueue) (key : String) : Bool × WorkQueue :=
  if q.isDown || q.dirty.contains key then (false, q)
  else
    let q := { q with dirty := q.dirty ++ [key] }
    if q.processing.contains key then (false, q)
    else (true, { q with waiting := q.waiting ++ [key] })

/-- Hand out the key that has waited longest. A queue that is down hands out nothing. -/
def take? (q : WorkQueue) : Option (String × WorkQueue) :=
  if q.isDown then none
  else
    match q.waiting with
    | [] => none
    | key :: rest =>
      some (key, { q with
        waiting := rest
        dirty := q.dirty.filter (· ≠ key)
        processing := if q.processing.contains key then q.processing else q.processing ++ [key] })

/-- Give a key back; the flag says whether it waits again because it was added meanwhile. -/
def done (q : WorkQueue) (key : String) : Bool × WorkQueue :=
  let q := { q with processing := q.processing.filter (· ≠ key) }
  if q.dirty.contains key && !q.isDown then (true, { q with waiting := q.waiting ++ [key] })
  else (false, q)

/-- How often the key has failed since it was last forgotten. -/
def requeues (q : WorkQueue) (key : String) : Nat := (q.failures.lookup key).getD 0

def forget (q : WorkQueue) (key : String) : WorkQueue :=
  { q with failures := q.failures.filter (·.1 ≠ key) }

/-- The delay after `failures` failures; the doubling stops at 32 bits. -/
def backoff (base max : Duration) (failures : Nat) : Duration :=
  (base.times (min (Nat.pow 2 failures) 4294967295)).min max

/-- Count a failure and say how long the key has to stay away. -/
def fail (q : WorkQueue) (key : String) : Duration × WorkQueue :=
  let n := q.requeues key
  (backoff q.baseDelay q.maxDelay n,
    { q with failures := (key, n + 1) :: q.failures.filter (·.1 ≠ key) })

def shutDown (q : WorkQueue) : WorkQueue := { q with isDown := true }

end WorkQueue
end RoleOperator
