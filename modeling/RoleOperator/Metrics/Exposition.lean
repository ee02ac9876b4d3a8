import RoleOperator.Metrics.Basic
import RoleOperator.Json.Number

/-!
# Exposition of metrics

The text by which a scraper learns of the metrics: for each metric that has a value its help and
type, then a line for each value.
-/
namespace RoleOperator

namespace Exposition

/-- A number by the fewest digits that read back as the same, never with an exponent. -/
def number (x : Float) : String :=
  if x.isNaN then "NaN"
  else
    let sign := if Binary64.isNegative x.toBits then "-" else ""
    if x.isInf then sign ++ "inf"
    else sign ++ String.ofList (Binary64.shortest x.toBits).positional

/-- Label values are quoted; help is not, so that a quote in it stays as it is. -/
def escape (quoted : Bool) (s : String) : String :=
  String.join <| s.toList.map fun c =>
    if c = '\\' then "\\\\"
    else if c = '\n' then "\\n"
    else if quoted && c = '"' then "\\\""
    else c.toString

/-- Names and values of labels; nothing if there are none. -/
def labels (pairs : List (String × String)) : String :=
  if pairs.isEmpty then ""
  else
    let texts := pairs.map fun p => p.1 ++ "=\"" ++ escape true p.2 ++ "\""
    "\x7b" ++ ",".intercalate texts ++ "\x7d"

def line (name : String) (pairs : List (String × String)) (value : String) : String :=
  name ++ labels pairs ++ " " ++ value ++ "\n"

/-- The lines of one value. -/
def sample (s : Sample) : String :=
  let name := s.metric.name
  let pairs := s.metric.labels.zip s.labels
  match s.value with
  | .number x => line name pairs (number x)
  | .distribution d =>
    let bucket := fun (bound : String) (count : Nat) =>
      line (name ++ "_bucket") (pairs ++ [("le", bound)]) (toString count)
    String.join ((Distribution.bounds.zip d.below).map fun b => bucket (number b.1) b.2)
      ++ bucket "+Inf" d.count ++ line (name ++ "_sum") pairs (number d.sum)
      ++ line (name ++ "_count") pairs (toString d.count)

def shape : Metric.Shape → String
  | .counter => "counter"
  | .gauge => "gauge"
  | .histogram => "histogram"

/-- The lines of one metric. -/
def family (metric : Metric) (samples : List Sample) : String :=
  if samples.isEmpty then ""
  else
    "# HELP " ++ metric.name ++ " " ++ escape false metric.help ++ "\n"
      ++ "# TYPE " ++ metric.name ++ " " ++ shape metric.shape ++ "\n"
      ++ String.join (samples.map sample)

/-- All metrics. -/
def text (m : Metrics) : String :=
  String.join (Metric.all.map fun metric => family metric (m.samplesOf metric))

/-- The format's name in an answer's head. -/
def contentType : String := "text/plain; version=0.0.4"

end Exposition
end RoleOperator
