import RoleOperator.Metadata
import RoleOperator.Text.Pieces

/-!
# Specification of a role

What a user asks for: where the secrets engine is mounted and what the role in it holds. The two
kinds differ in their fields, in the path below the mount and in the body that is written to Vault.
-/
namespace RoleOperator

inductive Kind where
  | gcp | aws
  deriving DecidableEq, Repr

namespace Kind

def text : Kind → String
  | .gcp => "GCPRole"
  | .aws => "AWSRole"

def plural : Kind → String
  | .gcp => "gcproles"
  | .aws => "awsroles"

def group : String := "engine.kubevault.com"

def version : String := "v1alpha1"

def apiVersion : String := group ++ "/" ++ version

/-- The token by which the operator holds on to an object until its role is gone. -/
def finalizer : Kind → String
  | .gcp => "gcprole.engine.kubevault.com"
  | .aws => "awsrole.engine.kubevault.com"

/-- Mount path of an engine when none is given. -/
def defaultPath : Kind → String
  | .gcp => "gcp"
  | .aws => "aws"

/-- What follows the mount path. -/
def collection : Kind → String
  | .gcp => "roleset"
  | .aws => "roles"

end Kind

/-- A roleset of a GCP secrets engine. -/
structure GcpSpec where
  path : String := "gcp"
  secretType : String
  project : String
  bindings : String
  tokenScopes : List String := []
  deriving DecidableEq, Repr

/-- A role of an AWS secrets engine. -/
structure AwsSpec where
  path : String := "aws"
  credentialType : String
  policyArns : List String := []
  roleArns : List String := []
  policyDocument : Option String := none
  defaultStsTtl : Option String := none
  maxStsTtl : Option String := none
  deriving DecidableEq, Repr

inductive RoleSpec where
  | gcp (spec : GcpSpec)
  | aws (spec : AwsSpec)
  deriving DecidableEq, Repr

/-- The entry for a list that is not empty. -/
def Json.listEntry (name : String) (xs : List String) : List (String × Json) :=
  if xs.isEmpty then [] else [(name, Json.ofStrings xs)]

open Json (optEntry listEntry)

namespace GcpSpec

def toJson (s : GcpSpec) : Json :=
  .object <| [("path", .string s.path), ("secretType", .string s.secretType),
      ("project", .string s.project), ("bindings", .string s.bindings)]
    ++ listEntry "tokenScopes" s.tokenScopes

/-- The body that makes the role, keys sorted. -/
def payload (s : GcpSpec) : Json :=
  .object <| [("bindings", .string s.bindings), ("project", .string s.project),
      ("secret_type", .string s.secretType)]
    ++ listEntry "token_scopes" s.tokenScopes

end GcpSpec

namespace AwsSpec

def toJson (s : AwsSpec) : Json :=
  .object <| [("path", .string s.path), ("credentialType", .string s.credentialType)]
    ++ listEntry "policyArns" s.policyArns
    ++ listEntry "roleArns" s.roleArns
    ++ optEntry "policyDocument" .string s.policyDocument
    ++ optEntry "defaultStsTtl" .string s.defaultStsTtl
    ++ optEntry "maxStsTtl" .string s.maxStsTtl

/-- The body that makes the role, keys sorted. A policy document that is no JSON makes none. -/
def payload (s : AwsSpec) : Except Fault Json :=
  let body := Json.object <| [("credential_type", .string s.credentialType)]
    ++ optEntry "default_sts_ttl" .string s.defaultStsTtl
    ++ optEntry "max_sts_ttl" .string s.maxStsTtl
    ++ listEntry "policy_arns" s.policyArns
    ++ optEntry "policy_document" .string s.policyDocument
    ++ listEntry "role_arns" s.roleArns
  match s.policyDocument.map Json.read with
  | some (.error e) => .error (.config s!"policyDocument is not valid JSON: {e.message}")
  | _ => .ok body

end AwsSpec

namespace RoleSpec

def kind : RoleSpec → Kind
  | .gcp _ => .gcp
  | .aws _ => .aws

/-- Mount path of the secrets engine, as the user wrote it. -/
def path : RoleSpec → String
  | .gcp s => s.path
  | .aws s => s.path

def toJson : RoleSpec → Json
  | .gcp s => s.toJson
  | .aws s => s.toJson

def payload : RoleSpec → Except Fault Json
  | .gcp s => .ok s.payload
  | .aws s => s.payload

/-- The path that holds the roles: slashes around the mount path do not count. -/
def rolesPath (s : RoleSpec) : String :=
  String.ofList (Text.trimBoth (· = '/') s.path.toList) ++ "/" ++ s.kind.collection

end RoleSpec

namespace Json.Decode

def gcpSpec : Decoder GcpSpec :=
  record "GCPRoleSpec" <|
    GcpSpec.mk <$> Fields.withDefault "path" string (Kind.defaultPath .gcp)
      <*> Fields.required "secretType" string
      <*> Fields.required "project" string
      <*> Fields.required "bindings" string
      <*> Fields.withDefault "tokenScopes" (list string) []

def awsSpec : Decoder AwsSpec :=
  record "AWSRoleSpec" <|
    AwsSpec.mk <$> Fields.withDefault "path" string (Kind.defaultPath .aws)
      <*> Fields.required "credentialType" string
      <*> Fields.withDefault "policyArns" (list string) []
      <*> Fields.withDefault "roleArns" (list string) []
      <*> Fields.opt "policyDocument" string
      <*> Fields.opt "defaultStsTtl" string
      <*> Fields.opt "maxStsTtl" string

def roleSpec : Kind → Decoder RoleSpec
  | .gcp => gcpSpec.map .gcp
  | .aws => awsSpec.map .aws

end Json.Decode
end RoleOperator
