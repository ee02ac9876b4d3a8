import RoleOperator.Storage.PodSchema

/-!
# Pod templates

A template with the parts that a storage backend changes: the containers with their variables and
mounts, and the volumes. Everything else is carried along.
-/
namespace RoleOperator

/-- `others` are the entries of the remaining fields. -/
structure Container where
  env : Option (List Json) := none
  volumeMounts : Option (List Json) := none
  others : List (String × Json) := []
  deriving DecidableEq, Repr

structure PodSpec where
  containers : List Container
  volumes : Option (List Json) := none
  others : List (String × Json) := []
  deriving DecidableEq, Repr

structure PodTemplate where
  metadata : Option Metadata := none
  spec : Option PodSpec := none
  deriving DecidableEq, Repr

/-- A variable that takes its value from a key of a secret. -/
def Container.secretVariable (name secret key : String) : Json :=
  .object [("name", .string name), ("valueFrom", .object [("secretKeyRef",
    .object [("key", .string key), ("name", .string secret)])])]

/-- A mount that cannot be written to. -/
def Container.readOnlyMount (volume path : String) : Json :=
  .object [("mountPath", .string path), ("name", .string volume), ("readOnly", .bool true)]

/-- A volume that holds the keys of a secret as files. -/
def PodSpec.secretVolume (name secret : String) : Json :=
  .object [("name", .string name), ("secret", .object [("secretName", .string secret)])]

namespace Container

def addMount (c : Container) (mount : Json) : Container :=
  { c with volumeMounts := some (c.volumeMounts.getD [] ++ [mount]) }

def addEnv (c : Container) (entries : List Json) : Container :=
  { c with env := some (c.env.getD [] ++ entries) }

def toJson (c : Container) : Json :=
  .object <| Json.optEntry "env" .array c.env ++ Json.optEntry "volumeMounts" .array c.volumeMounts
    ++ c.others

end Container

namespace PodSpec

def addVolume (s : PodSpec) (volume : Json) : PodSpec :=
  { s with volumes := some (s.volumes.getD [] ++ [volume]) }

def toJson (s : PodSpec) : Json :=
  .object <| [("containers", .array (s.containers.map Container.toJson))]
    ++ Json.optEntry "volumes" .array s.volumes ++ s.others

end PodSpec

namespace PodTemplate

def toJson (t : PodTemplate) : Json :=
  .object <| Json.optEntry "metadata" Metadata.toJson t.metadata
    ++ Json.optEntry "spec" PodSpec.toJson t.spec

/-- Change the first container; `none` if there is none. -/
def mapPrimary? (t : PodTemplate) (f : Container → Container) : Option PodTemplate :=
  match t.spec with
  | some s =>
    match s.containers with
    | first :: rest => some { t with spec := some { s with containers := f first :: rest } }
    | [] => none
  | none => none

/-- Change the pod, if the template has one. -/
def mapSpec (t : PodTemplate) (f : PodSpec → PodSpec) : PodTemplate :=
  { t with spec := t.spec.map f }

end PodTemplate

namespace Json.Decode

/-- Entries of an object that follow a schema, and the list under one of its names. -/
private def takeList (name : String) (es : List (String × Json)) : Option (List Json) :=
  match Json.lookup name es with
  | some (.array xs) => some xs
  | _ => none

private def dropNames (names : List String) (es : List (String × Json)) : List (String × Json) :=
  es.filter fun e => !names.contains e.1

def container : Decoder Container := whole fun j => do
  match ← PodSchema.container.read j with
  | .object es =>
    .ok ⟨takeList "env" es, takeList "volumeMounts" es, dropNames ["env", "volumeMounts"] es⟩
  | _ => .ok {}

/-- The schema of a pod without its containers, which are decoded on their own. -/
def podSchema : List (String × Option Json × Schema) :=
  Schema.opt "containers" (.list PodSchema.container)
    :: Schema.opt "volumes" (.list PodSchema.volume) :: PodSchema.podFields

def podSpec : Decoder PodSpec := whole fun
  | .object es => do
    let found ← Schema.readEntries podSchema es
    let kept := Schema.arrange podSchema found
    let containers ← ((takeList "containers" kept).getD []).mapM container.ofJson
    .ok ⟨containers, takeList "volumes" kept, dropNames ["containers", "volumes"] kept⟩
  | j => .error (.wrongType j.found "PodSpec")

def podTemplate : Decoder PodTemplate :=
  openRecord "PodTemplateSpec" <|
    PodTemplate.mk <$> Fields.opt "metadata" metadata <*> Fields.opt "spec" podSpec

end Json.Decode
end RoleOperator
