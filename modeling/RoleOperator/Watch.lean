import RoleOperator.Role.Basic

/-!
# Watches

What a watch reports, and the read cache that follows it. A list comes between `init` and
`initDone`; its objects are set aside and take the place of the cache when the list is complete.
-/
namespace RoleOperator

inductive WatchEvent where
  | init
  | initApply (role : Role)
  | initDone
  | apply (role : Role)
  | delete (role : Role)
  deriving Repr

/-- The object that an event is about. -/
def WatchEvent.role? : WatchEvent → Option Role
  | .initApply r | .apply r | .delete r => some r
  | .init | .initDone => none

structure ReadCache where
  objects : List (ObjectKey × Role) := []
  incoming : List (ObjectKey × Role) := []
  deriving Repr

namespace ReadCache

/-- Where an object is kept; a missing name is empty. -/
def place (r : Role) : ObjectKey := ⟨r.metadata.ns, r.metadata.name.getD ""⟩

def put (r : Role) (objects : List (ObjectKey × Role)) : List (ObjectKey × Role) :=
  (place r, r) :: objects.filter (·.1 ≠ place r)

/-- Follow one event. -/
def observe (c : ReadCache) : WatchEvent → ReadCache
  | .init => { c with incoming := [] }
  | .initApply r => { c with incoming := put r c.incoming }
  | .initDone => ⟨c.incoming, []⟩
  | .apply r => { c with objects := put r c.objects }
  | .delete r => { c with objects := c.objects.filter (·.1 ≠ place r) }

/-- The object last seen under the key, else the one of that name outside all namespaces. -/
def get? (c : ReadCache) (key : ObjectKey) : Option Role :=
  (c.objects.lookup key).or (c.objects.lookup ⟨none, key.name⟩)

end ReadCache
end RoleOperator
