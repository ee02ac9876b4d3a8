/-!
# Metrics

What the operator counts and measures, by metric and labels. A metric has no value until something
is reported for it.
-/
namespace RoleOperator

inductive Metric where
  | droppedKeys
  | finalizations
  | health
  | queueDepth
  | reconcileDuration
  | reconcileErrors
  | reconciliations
  | requeues
  deriving DecidableEq, Repr

namespace Metric

/-- All metrics, sorted by name. -/
def all : List Metric :=
  [.droppedKeys, .finalizations, .health, .queueDepth, .reconcileDuration, .reconcileErrors,
    .reconciliations, .requeues]

def name (m : Metric) : String :=
  "vault_engine_operator_" ++ match m with
    | .droppedKeys => "dropped_keys_total"
    | .finalizations => "finalizations_total"
    | .health => "health"
    | .queueDepth => "queue_depth"
    | .reconcileDuration => "reconcile_duration_seconds"
    | .reconcileErrors => "reconciliation_errors_total"
    | .reconciliations => "reconciliations_total"
    | .requeues => "requeues_total"

def help : Metric → String
  | .droppedKeys => "Total number of keys dropped after too many failures"
  | .finalizations => "Total number of finalizations by outcome"
  | .health => "Operator health status (1 = healthy, 0 = unhealthy)"
  | .queueDepth => "Number of keys waiting in the work queue"
  | .reconcileDuration => "Duration of reconciliations in seconds"
  | .reconcileErrors => "Total number of reconciliation errors"
  | .reconciliations => "Total number of reconciliations"
  | .requeues => "Total number of rate-limited requeues"

inductive Shape where
  | counter | gauge | histogram
  deriving DecidableEq, Repr

def shape : Metric → Shape
  | .health | .queueDepth => .gauge
  | .reconcileDuration => .histogram
  | _ => .counter

def labels : Metric → List String
  | .health => []
  | .finalizations => ["kind", "outcome"]
  | _ => ["kind"]

end Metric

/-- Observed values: how many fell below each bound, their sum and their number. -/
structure Distribution where
  below : List Nat
  sum : Float := 0
  count : Nat := 0

namespace Distribution

/-- Upper bounds, in seconds. -/
def bounds : List Float := [0.01, 0.05, 0.1, 0.25, 0.5, 1.0, 2.5, 5.0, 10.0]

def empty : Distribution := { below := bounds.map fun _ => 0 }

def observe (d : Distribution) (value : Float) : Distribution where
  below := (bounds.zip d.below).map fun b => if value ≤ b.1 then b.2 + 1 else b.2
  sum := d.sum + value
  count := d.count + 1

end Distribution

inductive Measurement where
  | number (value : Float)
  | distribution (d : Distribution)

/-- A value of a metric for some labels. -/
structure Sample where
  metric : Metric
  labels : List String
  value : Measurement

structure Metrics where
  samples : List Sample := []

namespace Metrics

def get? (m : Metrics) (metric : Metric) (labels : List String) : Option Measurement :=
  (m.samples.find? fun s => s.metric = metric && s.labels = labels).map (·.value)

def put (m : Metrics) (metric : Metric) (labels : List String) (value : Measurement) : Metrics :=
  let others := m.samples.filter fun s => !(s.metric = metric && s.labels = labels)
  ⟨⟨metric, labels, value⟩ :: others⟩

/-- The number reported last, zero if there is none. -/
def number (m : Metrics) (metric : Metric) (labels : List String) : Float :=
  match m.get? metric labels with
  | some (.number x) => x
  | _ => 0

def set (m : Metrics) (metric : Metric) (labels : List String) (value : Float) : Metrics :=
  m.put metric labels (.number value)

def add (m : Metrics) (metric : Metric) (labels : List String) (value : Float) : Metrics :=
  m.set metric labels (m.number metric labels + value)

def observe (m : Metrics) (metric : Metric) (labels : List String) (value : Float) : Metrics :=
  let d := match m.get? metric labels with
    | some (.distribution d) => d
    | _ => .empty
  m.put metric labels (.distribution (d.observe value))

/-- Labels in the order of an index. -/
def precedes : List String → List String → Bool
  | [], _ => true
  | _ :: _, [] => false
  | a :: as, b :: bs => a < b || (a = b && precedes as bs)

/-- Values of a metric, sorted by their labels. -/
def samplesOf (m : Metrics) (metric : Metric) : List Sample :=
  (m.samples.filter (·.metric = metric)).mergeSort fun a b => precedes a.labels b.labels

end Metrics
end RoleOperator
