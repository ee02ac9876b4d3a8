import RoleOperator.Json.Decode
import RoleOperator.ObjectKey

/-!
# Object metadata

The part of an object that is the same for every kind. Each field may be absent.
-/
namespace RoleOperator

structure OwnerReference where
  apiVersion : String
  blockOwnerDeletion : Option Bool
  controller : Option Bool
  kind : String
  name : String
  uid : String
  deriving DecidableEq, Repr

/-- Who last wrote which fields of an object. -/
structure ManagedFields where
  apiVersion : Option String
  fieldsType : Option String
  fieldsV1 : Option Json
  manager : Option String
  operation : Option String
  subresource : Option String
  time : Option Timestamp
  deriving DecidableEq, Repr

structure Metadata where
  annotations : Option (List (String × String)) := none
  creationTimestamp : Option Timestamp := none
  deletionGracePeriodSeconds : Option Int := none
  deletionTimestamp : Option Timestamp := none
  finalizers : Option (List String) := none
  generateName : Option String := none
  generation : Option Int := none
  labels : Option (List (String × String)) := none
  managedFields : Option (List ManagedFields) := none
  name : Option String := none
  ns : Option String := none
  ownerReferences : Option (List OwnerReference) := none
  resourceVersion : Option String := none
  selfLink : Option String := none
  uid : Option String := none
  deriving DecidableEq, Repr

namespace Json

/-- The entry for a field that is present. -/
def optEntry {α : Type} (name : String) (f : α → Json) : Option α → List (String × Json)
  | none => []
  | some x => [(name, f x)]

def ofStringMap (es : List (String × String)) : Json :=
  .object (es.map fun e => (e.1, .string e.2))

namespace Decode

/-- An absent text is empty. -/
def text (name : String) : Fields String := (·.getD "") <$> Fields.opt name string

def ownerReference : Decoder OwnerReference :=
  openRecord "OwnerReference" <|
    OwnerReference.mk <$> text "apiVersion" <*> Fields.opt "blockOwnerDeletion" bool
      <*> Fields.opt "controller" bool <*> text "kind" <*> text "name" <*> text "uid"

def managedFields : Decoder ManagedFields :=
  openRecord "ManagedFieldsEntry" <|
    ManagedFields.mk <$> Fields.opt "apiVersion" string <*> Fields.opt "fieldsType" string
      <*> Fields.opt "fieldsV1" any <*> Fields.opt "manager" string
      <*> Fields.opt "operation" string <*> Fields.opt "subresource" string
      <*> Fields.opt "time" timestamp

def metadata : Decoder Metadata :=
  openRecord "ObjectMeta" <|
    Metadata.mk <$> Fields.opt "annotations" stringMap
      <*> Fields.opt "creationTimestamp" timestamp
      <*> Fields.opt "deletionGracePeriodSeconds" int64
      <*> Fields.opt "deletionTimestamp" timestamp
      <*> Fields.opt "finalizers" (list string)
      <*> Fields.opt "generateName" string
      <*> Fields.opt "generation" int64
      <*> Fields.opt "labels" stringMap
      <*> Fields.opt "managedFields" (list managedFields)
      <*> Fields.opt "name" string
      <*> Fields.opt "namespace" string
      <*> Fields.opt "ownerReferences" (list ownerReference)
      <*> Fields.opt "resourceVersion" string
      <*> Fields.opt "selfLink" string
      <*> Fields.opt "uid" string

end Decode
end Json

open Json (optEntry ofInt ofStrings ofStringMap)

def OwnerReference.toJson (r : OwnerReference) : Json :=
  .object <| [("apiVersion", .string r.apiVersion)]
    ++ optEntry "blockOwnerDeletion" .bool r.blockOwnerDeletion
    ++ optEntry "controller" .bool r.controller
    ++ [("kind", .string r.kind), ("name", .string r.name), ("uid", .string r.uid)]

def ManagedFields.toJson (m : ManagedFields) : Json :=
  .object <| optEntry "apiVersion" .string m.apiVersion
    ++ optEntry "fieldsType" .string m.fieldsType
    ++ optEntry "fieldsV1" id m.fieldsV1
    ++ optEntry "manager" .string m.manager
    ++ optEntry "operation" .string m.operation
    ++ optEntry "subresource" .string m.subresource
    ++ optEntry "time" (fun t => .string t.secondsText) m.time

namespace Metadata

/-- Times are written in whole seconds. -/
def toJson (m : Metadata) : Json :=
  .object <| optEntry "annotations" ofStringMap m.annotations
    ++ optEntry "creationTimestamp" (fun t => .string t.secondsText) m.creationTimestamp
    ++ optEntry "deletionGracePeriodSeconds" ofInt m.deletionGracePeriodSeconds
    ++ optEntry "deletionTimestamp" (fun t => .string t.secondsText) m.deletionTimestamp
    ++ optEntry "finalizers" ofStrings m.finalizers
    ++ optEntry "generateName" .string m.generateName
    ++ optEntry "generation" ofInt m.generation
    ++ optEntry "labels" ofStringMap m.labels
    ++ optEntry "managedFields" (fun xs => .array (xs.map ManagedFields.toJson)) m.managedFields
    ++ optEntry "name" .string m.name
    ++ optEntry "namespace" .string m.ns
    ++ optEntry "ownerReferences" (fun xs => .array (xs.map OwnerReference.toJson))
      m.ownerReferences
    ++ optEntry "resourceVersion" .string m.resourceVersion
    ++ optEntry "selfLink" .string m.selfLink
    ++ optEntry "uid" .string m.uid

/-- The name, else the name it will be generated from, else nothing. -/
def anyName (m : Metadata) : String := (m.name.or m.generateName).getD ""

def isDeleting (m : Metadata) : Bool := m.deletionTimestamp.isSome

/-- The key of a named object. -/
def key? (m : Metadata) : Option ObjectKey :=
  match m.name with
  | some name => if name = "" then none else some ⟨m.ns, name⟩
  | none => none

def key (m : Metadata) : Except Fault ObjectKey :=
  match m.key? with
  | some k => .ok k
  | none => .error (.invalidKey "object has no metadata.name")

/-- The finalizers, none if absent. -/
def finalizerList (m : Metadata) : List String := m.finalizers.getD []

end Metadata
end RoleOperator
