import RoleOperator.Watch

/-!
# Change filter

Most updates of an object are of no interest: only a new generation or a deletion mark asks for a
reconcile. The filter remembers both for each object and lets an update pass if they changed. Listed
and deleted objects always pass.
-/
namespace RoleOperator

structure Signature where
  generation : Option Int
  isDeleting : Bool
  deriving DecidableEq, Repr

def Signature.of (m : Metadata) : Signature := ⟨m.generation, m.isDeleting⟩

structure ChangeFilter where
  seen : List (String × Signature) := []
  deriving Repr

namespace ChangeFilter

def remember (f : ChangeFilter) (key : String) (s : Signature) : ChangeFilter :=
  ⟨(key, s) :: f.seen.filter (·.1 ≠ key)⟩

def forget (f : ChangeFilter) (key : String) : ChangeFilter := ⟨f.seen.filter (·.1 ≠ key)⟩

/-- The key to enqueue for an object, if any; an object without a name has none. -/
def accept (f : ChangeFilter) (m : Metadata) (force : Bool) : Option String × ChangeFilter :=
  match m.key? with
  | none => (none, f)
  | some k =>
    if !force && f.seen.lookup k.text = some (Signature.of m) then (none, f)
    else (some k.text, f.remember k.text (Signature.of m))

/-- The key to enqueue for an event, if any. -/
def observe (f : ChangeFilter) : WatchEvent → Option String × ChangeFilter
  | .apply r => f.accept r.metadata false
  | .initApply r => f.accept r.metadata true
  | .delete r =>
    let (key, f) := f.accept r.metadata true
    (key, match r.metadata.key? with
      | some k => f.forget k.text
      | none => f)
  | .init | .initDone => (none, f)

end ChangeFilter
end RoleOperator
