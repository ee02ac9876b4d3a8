/-!
# Registry of finalizations

The ids of the finalizations in progress. Whoever puts an id in first holds it; the others stay out
until it is released.
-/
namespace RoleOperator

structure Registry where
  ids : List String := []
  deriving DecidableEq, Repr

namespace Registry

def contains (r : Registry) (id : String) : Bool := r.ids.contains id

def size (r : Registry) : Nat := r.ids.length

/-- Whether the id was new, and the registry with it. -/
def acquire (r : Registry) (id : String) : Bool × Registry :=
  if r.contains id then (false, r) else (true, ⟨r.ids ++ [id]⟩)

def release (r : Registry) (id : String) : Registry := ⟨r.ids.filter (· ≠ id)⟩

end Registry
end RoleOperator
