import RoleOperator.Storage.PodTemplate

/-!
# Storage in etcd

A Vault server that keeps its data in etcd needs a stanza in its configuration and, for secrets,
mounts and variables in its pod template. No value of a secret appears in the stanza.
-/
namespace RoleOperator

structure EtcdSpec where
  address : Option String := none
  etcdApi : Option String := none
  path : Option String := none
  discoverySrv : Option String := none
  haEnable : Bool := false
  sync : Bool := false
  tlsSecretName : Option String := none
  credentialSecretName : Option String := none
  deriving DecidableEq, Repr

namespace EtcdSpec

open Json (optEntry)

def toJson (s : EtcdSpec) : Json :=
  .object <| optEntry "address" .string s.address
    ++ optEntry "etcdApi" .string s.etcdApi
    ++ optEntry "path" .string s.path
    ++ optEntry "discoverySrv" .string s.discoverySrv
    ++ [("haEnable", .bool s.haEnable), ("sync", .bool s.sync)]
    ++ optEntry "tlsSecretName" .string s.tlsSecretName
    ++ optEntry "credentialSecretName" .string s.credentialSecretName

/-- Where the TLS secret is mounted. -/
def tlsDirectory : String := "/etc/vault/storage/etcd/tls"

/-- Name of the volume that holds the TLS secret. -/
def tlsVolume : String := "vault-etcd-tls"

def tlsAsset (name : String) : String := tlsDirectory ++ "/" ++ name

/-- The empty text names nothing. -/
def nonEmpty (value : Option String) : Option String := value.filter (· ≠ "")

def tlsSecret (s : EtcdSpec) : Option String := nonEmpty s.tlsSecretName

def credentialSecret (s : EtcdSpec) : Option String := nonEmpty s.credentialSecretName

/-- Names and values of the stanza, in order. -/
def parameters (s : EtcdSpec) : List (String × String) :=
  let optional := fun (key : String) (value : Option String) =>
    (nonEmpty value).toList.map fun v => (key, v)
  optional "address" s.address
    ++ optional "etcd_api" s.etcdApi
    ++ optional "path" s.path
    ++ optional "discovery_srv" s.discoverySrv
    ++ [("ha_enabled", toString s.haEnable), ("sync", toString s.sync)]
    ++ if s.tlsSecret.isSome then
      [("tls_ca_file", tlsAsset "ca.crt"), ("tls_cert_file", tlsAsset "tls.crt"),
        ("tls_key_file", tlsAsset "tls.key")]
    else []

/-- One line of the stanza. -/
def parameterLine (p : String × String) : String := p.1 ++ " = \"" ++ p.2 ++ "\""

/-- The stanza, a line for each parameter. -/
def stanza (s : EtcdSpec) : String :=
  "\nstorage \"etcd\" \x7b\n" ++ "\n".intercalate (s.parameters.map parameterLine) ++ "\n\x7d\n"

def noContainers : Fault := .config "pod template has no containers"

/-- Mount the TLS secret in the first container; a template without one stays as it is. -/
def mountTls (secret : String) (t : PodTemplate) : Except Fault Unit × PodTemplate :=
  match t.mapPrimary? (·.addMount (Container.readOnlyMount tlsVolume tlsDirectory)) with
  | some t => (.ok (), t.mapSpec (·.addVolume (PodSpec.secretVolume tlsVolume secret)))
  | none => (.error noContainers, t)

/-- Hand the credentials to the first container. -/
def passCredentials (secret : String) (t : PodTemplate) : Except Fault Unit × PodTemplate :=
  match t.mapPrimary? (·.addEnv [
      Container.secretVariable "ETCD_USERNAME" secret "username",
      Container.secretVariable "ETCD_PASSWORD" secret "password"]) with
  | some t => (.ok (), t)
  | none => (.error noContainers, t)

/-- Take one step for a secret that is named. -/
def withSecret (secret : Option String)
    (step : String → PodTemplate → Except Fault Unit × PodTemplate) (t : PodTemplate) :
    Except Fault Unit × PodTemplate :=
  match secret with
  | some name => step name t
  | none => (.ok (), t)

/-- Add what the storage needs to a template: the outcome, and the template as it is then. -/
def apply (s : EtcdSpec) (t : PodTemplate) : Except Fault Unit × PodTemplate :=
  match withSecret s.tlsSecret mountTls t with
  | (.ok (), t) => withSecret s.credentialSecret passCredentials t
  | (.error e, t) => (.error e, t)

end EtcdSpec

def Json.Decode.etcdSpec : Decoder EtcdSpec :=
  record "EtcdSpec" <|
    EtcdSpec.mk <$> Fields.opt "address" string <*> Fields.opt "etcdApi" string
      <*> Fields.opt "path" string <*> Fields.opt "discoverySrv" string
      <*> Fields.withDefault "haEnable" bool false <*> Fields.withDefault "sync" bool false
      <*> Fields.opt "tlsSecretName" string <*> Fields.opt "credentialSecretName" string

end RoleOperator
