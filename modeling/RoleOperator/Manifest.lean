import RoleOperator.Role.Basic
import RoleOperator.Yaml

/-!
# Manifests of the role kinds

What a cluster has to know of a kind before it takes in objects of it: its names, the schema of its
objects, and what to show of them in a table.
-/
namespace RoleOperator.Manifest

/-- The schema of a value, as the entries of an object. -/
abbrev Schema := List (String × Json)

def ofType (name : String) : Schema := [("type", .string name)]

def text : Schema := ofType "string"

/-- A text that is one of some words. -/
def oneOf (words : List String) : Schema := ("enum", Json.ofStrings words) :: text

def listOf (item : Schema) : Schema := ("items", .object item) :: ofType "array"

/-- The schema of a value that may be null. -/
def nullable (s : Schema) : Schema := ("nullable", .bool true) :: s

def formatted (format : String) (s : Schema) : Schema := ("format", .string format) :: s

def described (description : String) (s : Schema) : Schema :=
  ("description", .string description) :: s

def withDefault (value : String) (s : Schema) : Schema := ("default", .string value) :: s

structure Property where
  name : String
  schema : Schema
  required : Bool := false
  deriving Repr

/-- The schema of an object; no entry lists the required properties if there are none. -/
def object (properties : List Property) : Schema :=
  let required := (properties.filter (·.required)).map (·.name)
  ("properties", .object (properties.map fun p => (p.name, .object p.schema)))
    :: (if required.isEmpty then [] else [("required", Json.ofStrings required)])
    ++ ofType "object"

/-! ## Schemas of the role kinds -/

def gcpSpec : Schema :=
  described "GCPRole resource specification\n\nMirrors a Vault GCP secrets engine roleset." <|
  object [
    { name := "bindings", required := true
      schema := described "Bindings configuration in HCL or JSON" text },
    { name := "path"
      schema := withDefault (Kind.defaultPath .gcp) <|
        described "Mount path of the GCP secrets engine" text },
    { name := "project", required := true
      schema := described "GCP project the roleset's service account lives in" text },
    { name := "secretType", required := true
      schema := described "Type of secret generated (access_token, service_account_key)" text },
    { name := "tokenScopes"
      schema := described "OAuth scopes for access_token rolesets" (listOf text) }]

def awsSpec : Schema :=
  described "AWSRole resource specification\n\nMirrors a role of the Vault AWS secrets engine." <|
  object [
    { name := "credentialType", required := true
      schema := described "Credential type (iam_user, assumed_role, federation_token)" text },
    { name := "defaultStsTtl"
      schema := described "Default STS TTL, e.g. \"1h\"" (nullable text) },
    { name := "maxStsTtl"
      schema := described "Max STS TTL, e.g. \"12h\"" (nullable text) },
    { name := "path"
      schema := withDefault (Kind.defaultPath .aws) <|
        described "Mount path of the AWS secrets engine" text },
    { name := "policyArns"
      schema := described "Managed policy ARNs attached to the role" (listOf text) },
    { name := "policyDocument"
      schema := described "Inline IAM policy document (JSON)" (nullable text) },
    { name := "roleArns"
      schema := described "IAM role ARNs that may be assumed" (listOf text) }]

def spec : Kind → Schema
  | .gcp => gcpSpec
  | .aws => awsSpec

def condition : Schema :=
  described "Status condition" <| object [
    { name := "lastTransitionTime", required := true
      schema := described "Last transition time" (formatted "date-time" text) },
    { name := "message"
      schema := described "Human-readable message" (nullable text) },
    { name := "reason"
      schema := described "Machine-readable reason" (nullable text) },
    { name := "status", required := true
      schema := described "Status (True, False, Unknown)" <|
        oneOf ([.true, .false, .unknown].map ConditionStatus.text) },
    { name := "type", required := true
      schema := described "Condition type" text }]

def status : Schema :=
  nullable <| described "Status of a role resource" <| object [
    { name := "conditions"
      schema := described "Status conditions" (listOf condition) },
    { name := "observedGeneration"
      schema := described "Generation the status was computed from" <|
        formatted "int64" (nullable (ofType "integer")) },
    { name := "phase"
      schema := withDefault (Phase.text .unknown) <|
        described "Current phase (Unknown, Success, Failure)" <|
          oneOf ([.unknown, .success, .failure].map Phase.text) }]

/-- The name of a kind's specification. -/
def specName (kind : Kind) : String := kind.text ++ "Spec"

def root (kind : Kind) : Schema :=
  let fields := object [
    { name := "spec", required := true, schema := spec kind },
    { name := "status", schema := status }]
  ("title", .string kind.text) ::
    described s!"Auto-generated derived type for {specName kind} via \x60CustomResource\x60" fields

/-! ## Manifests -/

/-- A column of the table of objects. -/
def column (name type path : String) : Json :=
  .object [("jsonPath", .string path), ("name", .string name), ("type", .string type)]

def singular (kind : Kind) : String := (kind.plural.dropEnd 1).toString

def names (kind : Kind) : Json :=
  .object [("categories", .array []), ("kind", .string kind.text), ("plural", .string kind.plural),
    ("shortNames", .array []), ("singular", .string (singular kind))]

def version (kind : Kind) : Json :=
  .object [
    ("additionalPrinterColumns", .array [
      column "Phase" "string" ".status.phase",
      column "Age" "date" ".metadata.creationTimestamp"]),
    ("name", .string Kind.version),
    ("schema", .object [("openAPIV3Schema", .object (root kind))]),
    ("served", .bool true), ("storage", .bool true),
    ("subresources", .object [("status", .object [])])]

/-- The definition of a kind, with the entries of every object in order. -/
def definition (kind : Kind) : Json :=
  Json.canonical <| .object [
    ("apiVersion", .string "apiextensions.k8s.io/v1"),
    ("kind", .string "CustomResourceDefinition"),
    ("metadata", .object [("name", .string (kind.plural ++ "." ++ Kind.group))]),
    ("spec", .object [
      ("group", .string Kind.group), ("names", names kind), ("scope", .string "Namespaced"),
      ("versions", .array [version kind])])]

/-- The manifests of all kinds. -/
def all : List String := [Kind.gcp, Kind.aws].map fun kind => Yaml.text (definition kind)

end RoleOperator.Manifest
