import RoleOperator.Fault

/-!
# Object keys

The identity of an object: its name and, for most objects, the namespace it lives in. The written
form is `namespace/name` or the name alone.
-/
namespace RoleOperator

structure ObjectKey where
  ns : Option String
  name : String
  deriving DecidableEq, Repr

namespace ObjectKey

def text (k : ObjectKey) : String :=
  match k.ns with
  | some ns => ns ++ "/" ++ k.name
  | none => k.name

/-- A name, or a namespace and a name with one slash between them; no part may be empty. -/
def parse? (raw : String) : Option ObjectKey :=
  match raw.toList.span (· ≠ '/') with
  | (first, []) => if first.isEmpty then none else some ⟨none, String.ofList first⟩
  | (first, _ :: second) =>
    if first.isEmpty || second.isEmpty || second.contains '/' then none
    else some ⟨some (String.ofList first), String.ofList second⟩

def parse (raw : String) : Except Fault ObjectKey :=
  match parse? raw with
  | some k => .ok k
  | none => .error (.invalidKey raw)

/-- Keys without a namespace come first. -/
def le (a b : ObjectKey) : Bool :=
  match a.ns, b.ns with
  | none, none => a.name ≤ b.name
  | none, some _ => true
  | some _, none => false
  | some x, some y => x < y || (x = y && a.name ≤ b.name)

def sort (keys : List ObjectKey) : List ObjectKey := keys.mergeSort le

end ObjectKey
end RoleOperator
