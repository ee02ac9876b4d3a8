import RoleOperator.Metadata

/-!
# Status of a role

What the operator reports about a role: whether it is in sync, for which generation, and why not.
A failure that is observed again keeps the time at which it was first seen.
-/
namespace RoleOperator

inductive Phase where
  | unknown | success | failure
  deriving DecidableEq, Repr

def Phase.text : Phase → String
  | .unknown => "Unknown"
  | .success => "Success"
  | .failure => "Failure"

inductive ConditionStatus where
  | true | false | unknown
  deriving DecidableEq, Repr

def ConditionStatus.text : ConditionStatus → String
  | .true => "True"
  | .false => "False"
  | .unknown => "Unknown"

structure Condition where
  type : String
  status : ConditionStatus
  lastTransitionTime : Timestamp
  reason : Option String
  message : Option String
  deriving DecidableEq, Repr

structure RoleStatus where
  phase : Phase := .unknown
  observedGeneration : Option Int := none
  conditions : List Condition := []
  deriving DecidableEq, Repr

namespace Condition

/-- A condition that says that something failed, seen at `now`. -/
def failure (now : Timestamp) (reason message : String) : Condition :=
  ⟨"Failure", .true, now, some reason, some message⟩

/-- Reason of the condition set when a role could not be created. -/
def failedToCreateRole : String := "FailedToCreateRole"

/-- Two conditions say the same, whenever they were seen. -/
def sameObservation (a b : Condition) : Bool :=
  a.type = b.type && a.status = b.status && a.reason = b.reason && a.message = b.message

def toJson (c : Condition) : Json :=
  .object <| [("type", .string c.type), ("status", .string c.status.text),
      ("lastTransitionTime", .string c.lastTransitionTime.text)]
    ++ Json.optEntry "reason" .string c.reason
    ++ Json.optEntry "message" .string c.message

end Condition

namespace RoleStatus

/-- Make `c` the only condition, unless the only condition already says the same. -/
def setFailure (s : RoleStatus) (c : Condition) : RoleStatus :=
  let kept := match s.conditions with
    | [old] => if old.sameObservation c then old else c
    | _ => c
  { s with phase := .failure, conditions := [kept] }

/-- The generation has been applied. -/
def setSuccess (s : RoleStatus) (generation : Option Int) : RoleStatus :=
  { s with phase := .success, observedGeneration := generation, conditions := [] }

def toJson (s : RoleStatus) : Json :=
  .object <| [("phase", .string s.phase.text)]
    ++ Json.optEntry "observedGeneration" Json.ofInt s.observedGeneration
    ++ (if s.conditions.isEmpty then [] else
      [("conditions", .array (s.conditions.map Condition.toJson))])

end RoleStatus

namespace Json.Decode

def phase : Decoder Phase :=
  variant [("Unknown", .unknown), ("Success", .success), ("Failure", .failure)]

def conditionStatus : Decoder ConditionStatus :=
  variant [("True", .true), ("False", .false), ("Unknown", .unknown)]

def condition : Decoder Condition :=
  record "Condition" <|
    Condition.mk <$> Fields.required "type" string
      <*> Fields.required "status" conditionStatus
      <*> Fields.required "lastTransitionTime" timestamp
      <*> Fields.opt "reason" string
      <*> Fields.opt "message" string

def roleStatus : Decoder RoleStatus :=
  record "RoleStatus" <|
    RoleStatus.mk <$> Fields.withDefault "phase" phase .unknown
      <*> Fields.opt "observedGeneration" int64
      <*> Fields.withDefault "conditions" (list condition) []

end Json.Decode
end RoleOperator
