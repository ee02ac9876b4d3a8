import RoleOperator.Metrics.Exposition

/-!
# Metrics service

Answers over HTTP: the metrics, whether the operator lives, and whether it is ready. The operator is
healthy from the start of the service to its end, unless somebody says otherwise.
-/
namespace RoleOperator.Metrics

structure Answer where
  status : Nat
  contentType : Option String := none
  body : String
  deriving DecidableEq, Repr

def isHealthy (m : Metrics) : Bool := 1 ≤ m.number .health []

def setHealth (m : Metrics) (value : Float) : Metrics := m.set .health [] value

def start (m : Metrics) : Metrics := m.setHealth 1

def stop (m : Metrics) : Metrics := m.setHealth 0

/-- The path of a request's target. -/
def pathOf (target : String) : String := String.ofList (target.toList.takeWhile (· ≠ '?'))

/-- The answer to a request for a path, whatever its method. -/
def respond (m : Metrics) (path : String) : Answer :=
  match path with
  | "/metrics" => ⟨200, some Exposition.contentType, Exposition.text m⟩
  | "/healthz" | "/health" => ⟨200, none, "ok"⟩
  | "/readyz" | "/ready" =>
    if m.isHealthy then ⟨200, none, "ok"⟩ else ⟨503, none, "not ready"⟩
  | _ => ⟨404, none, "Not Found"⟩

end RoleOperator.Metrics
