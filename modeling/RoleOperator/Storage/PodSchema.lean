import RoleOperator.Storage.Schema

/-!
# Schemas of a pod template

The parts of a pod: containers with what they run, mount and probe, volumes by source, scheduling
and security settings.
-/
namespace RoleOperator.PodSchema

open Schema

def empty : Json := .array []

/-- A reference to a key of a named object. -/
def keySelector (kind : String) : Schema :=
  .object kind [name "key", name "name", opt "optional" .flag]

def envSource : Schema :=
  .object "EnvVarSource" [
    opt "configMapKeyRef" (keySelector "ConfigMapKeySelector"),
    opt "fieldRef" (.object "ObjectFieldSelector" [opt "apiVersion" .text, name "fieldPath"]),
    opt "resourceFieldRef" (.object "ResourceFieldSelector"
      [opt "containerName" .text, opt "divisor" .text, name "resource"]),
    opt "secretKeyRef" (keySelector "SecretKeySelector")]

def envVar : Schema :=
  .object "EnvVar" [name "name", opt "value" .text, opt "valueFrom" envSource]

def envFrom : Schema :=
  .object "EnvFromSource" [
    opt "configMapRef" (.object "ConfigMapEnvSource" [name "name", opt "optional" .flag]),
    opt "prefix" .text,
    opt "secretRef" (.object "SecretEnvSource" [name "name", opt "optional" .flag])]

def containerPort : Schema :=
  .object "ContainerPort" [always "containerPort" (Json.ofNat 0) .int32, opt "hostIP" .text,
    opt "hostPort" .int32, opt "name" .text, opt "protocol" .text]

def volumeMount : Schema :=
  .object "VolumeMount" <| [name "mountPath", opt "mountPropagation" .text, name "name",
    opt "readOnly" .flag] ++ opts .text ["recursiveReadOnly", "subPath", "subPathExpr"]

def header : Schema := .object "HTTPHeader" [name "name", name "value"]

def actions : List (String × Option Json × Schema) := [
  opt "exec" (.object "ExecAction" [opt "command" (.list .text)]),
  opt "httpGet" (.object "HTTPGetAction" [opt "host" .text, opt "httpHeaders" (.list header),
    opt "path" .text, always "port" (Json.ofNat 0) .textOrInt, opt "scheme" .text]),
  opt "tcpSocket" (.object "TCPSocketAction"
    [opt "host" .text, always "port" (Json.ofNat 0) .textOrInt])]

def probe : Schema :=
  .object "Probe" <| actions ++ opts .int32 ["failureThreshold", "initialDelaySeconds",
    "periodSeconds", "successThreshold", "timeoutSeconds"]
    ++ [opt "grpc" (.object "GRPCAction"
        [always "port" (Json.ofNat 0) .int32, opt "service" .text]),
      opt "terminationGracePeriodSeconds" .int64]

def handler : Schema :=
  .object "LifecycleHandler" <| actions ++ [opt "sleep" (.object "SleepAction"
    [always "seconds" (Json.ofNat 0) .int64])]

def lifecycle : Schema :=
  .object "Lifecycle" [opt "postStart" handler, opt "preStop" handler]

def resources : Schema :=
  .object "ResourceRequirements" [opt "claims" (.list (.object "ResourceClaim" [name "name"])),
    opt "limits" .textMap, opt "requests" .textMap]

def linuxOptions : Schema :=
  .object "SELinuxOptions" (opts .text ["level", "role", "type", "user"])

def seccomp : Schema :=
  .object "SeccompProfile" [opt "localhostProfile" .text, name "type"]

def appArmor : Schema :=
  .object "AppArmorProfile" [opt "localhostProfile" .text, name "type"]

def windowsOptions : Schema :=
  .object "WindowsSecurityContextOptions" <| opts .text ["gmsaCredentialSpec",
    "gmsaCredentialSpecName", "runAsUserName"] ++ [opt "hostProcess" .flag]

def securityContext : Schema :=
  .object "SecurityContext" <| opts .flag ["allowPrivilegeEscalation", "privileged",
      "readOnlyRootFilesystem", "runAsNonRoot"]
    ++ [opt "appArmorProfile" appArmor,
      opt "capabilities" (.object "Capabilities"
        [opt "add" (.list .text), opt "drop" (.list .text)]),
      opt "procMount" .text, opt "runAsGroup" .int64, opt "runAsUser" .int64,
      opt "seLinuxOptions" linuxOptions, opt "seccompProfile" seccomp,
      opt "windowsOptions" windowsOptions]

/-- The fields of a container, `env` and `volumeMounts` aside. -/
def containerFields : List (String × Option Json × Schema) := [
  opt "args" (.list .text), opt "command" (.list .text), opt "envFrom" (.list envFrom),
  opt "image" .text, opt "imagePullPolicy" .text, opt "lifecycle" lifecycle,
  opt "livenessProbe" probe, name "name", opt "ports" (.list containerPort),
  opt "readinessProbe" probe,
  opt "resizePolicy" (.list (.object "ContainerResizePolicy"
    [name "resourceName", name "restartPolicy"])),
  opt "resources" resources, opt "restartPolicy" .text, opt "securityContext" securityContext,
  opt "startupProbe" probe, opt "stdin" .flag, opt "stdinOnce" .flag,
  opt "terminationMessagePath" .text, opt "terminationMessagePolicy" .text, opt "tty" .flag,
  opt "volumeDevices" (.list (.object "VolumeDevice" [name "devicePath", name "name"])),
  opt "workingDir" .text]

/-- All fields of a container. -/
def wholeContainerFields : List (String × Option Json × Schema) :=
  opt "env" (.list envVar) :: opt "volumeMounts" (.list volumeMount) :: containerFields

def container : Schema := .object "Container" wholeContainerFields

def ephemeralContainer : Schema :=
  .object "EphemeralContainer" (wholeContainerFields ++ [opt "targetContainerName" .text])

/-! ## Volumes -/

def keyToPath : Schema := .object "KeyToPath" [name "key", opt "mode" .int32, name "path"]

def nameRef : Schema := .object "LocalObjectReference" [name "name"]

def secretVolume : Schema :=
  .object "SecretVolumeSource" [opt "defaultMode" .int32, opt "items" (.list keyToPath),
    opt "optional" .flag, opt "secretName" .text]

def downwardFile : Schema :=
  .object "DownwardAPIVolumeFile" [
    opt "fieldRef" (.object "ObjectFieldSelector" [opt "apiVersion" .text, name "fieldPath"]),
    opt "mode" .int32, name "path",
    opt "resourceFieldRef" (.object "ResourceFieldSelector"
      [opt "containerName" .text, opt "divisor" .text, name "resource"])]

def labelSelector : Schema :=
  .object "LabelSelector" [
    opt "matchExpressions" (.list (.object "LabelSelectorRequirement"
      [name "key", name "operator", opt "values" (.list .text)])),
    opt "matchLabels" .textMap]

/-- A named object of which some keys become files. -/
def keyedFiles (kind : String) : Schema :=
  .object kind [opt "items" (.list keyToPath), name "name", opt "optional" .flag]

def projection : Schema :=
  .object "VolumeProjection" [
    opt "clusterTrustBundle" (.object "ClusterTrustBundleProjection"
      [opt "labelSelector" labelSelector, opt "name" .text, opt "optional" .flag, name "path",
        opt "signerName" .text]),
    opt "configMap" (keyedFiles "ConfigMapProjection"),
    opt "downwardAPI" (.object "DownwardAPIProjection" [opt "items" (.list downwardFile)]),
    opt "secret" (keyedFiles "SecretProjection"),
    opt "serviceAccountToken" (.object "ServiceAccountTokenProjection"
      [opt "audience" .text, opt "expirationSeconds" .int64, name "path"])]

/-! ### Claims -/

def claimResources : Schema :=
  .object "VolumeResourceRequirements" [opt "limits" .textMap, opt "requests" .textMap]

def claim : Schema :=
  .object "PersistentVolumeClaimSpec" [
    opt "accessModes" (.list .text),
    opt "dataSource" (.object "TypedLocalObjectReference"
      [opt "apiGroup" .text, name "kind", name "name"]),
    opt "dataSourceRef" (.object "TypedObjectReference"
      [opt "apiGroup" .text, name "kind", name "name", opt "namespace" .text]),
    opt "resources" claimResources, opt "selector" labelSelector, opt "storageClassName" .text,
    opt "volumeAttributesClassName" .text, opt "volumeMode" .text, opt "volumeName" .text]

def claimTemplate : Schema :=
  .object "PersistentVolumeClaimTemplate"
    [opt "metadata" .metadata, always "spec" (.object []) claim]

/-! ### Sources -/

/-- Volumes that are kept in the cluster itself. -/
def clusterSources : List (String × Option Json × Schema) := [
  opt "configMap" (.object "ConfigMapVolumeSource" [opt "defaultMode" .int32,
    opt "items" (.list keyToPath), name "name", opt "optional" .flag]),
  opt "downwardAPI" (.object "DownwardAPIVolumeSource"
    [opt "defaultMode" .int32, opt "items" (.list downwardFile)]),
  opt "emptyDir" (.object "EmptyDirVolumeSource" [opt "medium" .text, opt "sizeLimit" .text]),
  opt "ephemeral" (.object "EphemeralVolumeSource" [opt "volumeClaimTemplate" claimTemplate]),
  opt "gitRepo" (.object "GitRepoVolumeSource"
    [opt "directory" .text, name "repository", opt "revision" .text]),
  opt "hostPath" (.object "HostPathVolumeSource" [name "path", opt "type" .text]),
  opt "persistentVolumeClaim" (.object "PersistentVolumeClaimVolumeSource"
    [name "claimName", opt "readOnly" .flag]),
  opt "projected" (.object "ProjectedVolumeSource"
    [opt "defaultMode" .int32, opt "sources" (.list projection)]),
  opt "secret" secretVolume]

/-- Disks of a cloud. -/
def cloudSources : List (String × Option Json × Schema) := [
  opt "awsElasticBlockStore" (.object "AWSElasticBlockStoreVolumeSource"
    [opt "fsType" .text, opt "partition" .int32, opt "readOnly" .flag, name "volumeID"]),
  opt "azureDisk" (.object "AzureDiskVolumeSource" [opt "cachingMode" .text, name "diskName",
    name "diskURI", opt "fsType" .text, opt "kind" .text, opt "readOnly" .flag]),
  opt "azureFile" (.object "AzureFileVolumeSource"
    [opt "readOnly" .flag, name "secretName", name "shareName"]),
  opt "cinder" (.object "CinderVolumeSource"
    [opt "fsType" .text, opt "readOnly" .flag, opt "secretRef" nameRef, name "volumeID"]),
  opt "gcePersistentDisk" (.object "GCEPersistentDiskVolumeSource"
    [opt "fsType" .text, opt "partition" .int32, name "pdName", opt "readOnly" .flag]),
  opt "photonPersistentDisk" (.object "PhotonPersistentDiskVolumeSource"
    [opt "fsType" .text, name "pdID"]),
  opt "vsphereVolume" (.object "VsphereVirtualDiskVolumeSource" [opt "fsType" .text,
    opt "storagePolicyID" .text, opt "storagePolicyName" .text, name "volumePath"])]

/-- Volumes of a storage system, reached over the network or through a driver. -/
def networkSources : List (String × Option Json × Schema) := [
  opt "cephfs" (.object "CephFSVolumeSource" [always "monitors" empty (.list .text),
    opt "path" .text, opt "readOnly" .flag, opt "secretFile" .text, opt "secretRef" nameRef,
    opt "user" .text]),
  opt "csi" (.object "CSIVolumeSource" [name "driver", opt "fsType" .text,
    opt "nodePublishSecretRef" nameRef, opt "readOnly" .flag, opt "volumeAttributes" .textMap]),
  opt "fc" (.object "FCVolumeSource" [opt "fsType" .text, opt "lun" .int32,
    opt "readOnly" .flag, opt "targetWWNs" (.list .text), opt "wwids" (.list .text)]),
  opt "flexVolume" (.object "FlexVolumeSource" [name "driver", opt "fsType" .text,
    opt "options" .textMap, opt "readOnly" .flag, opt "secretRef" nameRef]),
  opt "flocker" (.object "FlockerVolumeSource" (opts .text ["datasetName", "datasetUUID"])),
  opt "glusterfs" (.object "GlusterfsVolumeSource"
    [name "endpoints", name "path", opt "readOnly" .flag]),
  opt "iscsi" (.object "ISCSIVolumeSource" <| opts .flag ["chapAuthDiscovery", "chapAuthSession"]
    ++ [opt "fsType" .text, opt "initiatorName" .text, name "iqn", opt "iscsiInterface" .text,
      always "lun" (Json.ofNat 0) .int32, opt "portals" (.list .text), opt "readOnly" .flag,
      opt "secretRef" nameRef, name "targetPortal"]),
  opt "nfs" (.object "NFSVolumeSource" [name "path", opt "readOnly" .flag, name "server"]),
  opt "portworxVolume" (.object "PortworxVolumeSource"
    [opt "fsType" .text, opt "readOnly" .flag, name "volumeID"]),
  opt "quobyte" (.object "QuobyteVolumeSource" [opt "group" .text, opt "readOnly" .flag,
    name "registry", opt "tenant" .text, opt "user" .text, name "volume"]),
  opt "rbd" (.object "RBDVolumeSource" [opt "fsType" .text, name "image", opt "keyring" .text,
    always "monitors" empty (.list .text), opt "pool" .text, opt "readOnly" .flag,
    opt "secretRef" nameRef, opt "user" .text]),
  opt "scaleIO" (.object "ScaleIOVolumeSource" [opt "fsType" .text, name "gateway",
    opt "protectionDomain" .text, opt "readOnly" .flag,
    always "secretRef" (.object [("name", .string "")]) nameRef, opt "sslEnabled" .flag,
    opt "storageMode" .text, opt "storagePool" .text, name "system", opt "volumeName" .text]),
  opt "storageos" (.object "StorageOSVolumeSource" [opt "fsType" .text, opt "readOnly" .flag,
    opt "secretRef" nameRef, opt "volumeName" .text, opt "volumeNamespace" .text])]

def volume : Schema :=
  .object "Volume" (name "name" :: clusterSources ++ cloudSources ++ networkSources)

/-! ## Pods -/

def toleration : Schema :=
  .object "Toleration" <| opts .text ["effect", "key", "operator"]
    ++ [opt "tolerationSeconds" .int64, opt "value" .text]

def nodeRequirement : Schema :=
  .object "NodeSelectorRequirement" [name "key", name "operator", opt "values" (.list .text)]

def nodeTerm : Schema :=
  .object "NodeSelectorTerm" [opt "matchExpressions" (.list nodeRequirement),
    opt "matchFields" (.list nodeRequirement)]

def podTerm : Schema :=
  .object "PodAffinityTerm" [opt "labelSelector" labelSelector,
    opt "matchLabelKeys" (.list .text), opt "mismatchLabelKeys" (.list .text),
    opt "namespaceSelector" labelSelector, opt "namespaces" (.list .text), name "topologyKey"]

def required : String := "requiredDuringSchedulingIgnoredDuringExecution"

def preferred : String := "preferredDuringSchedulingIgnoredDuringExecution"

def podAffinity (kind : String) : Schema :=
  .object kind [
    opt preferred (.list (.object "WeightedPodAffinityTerm"
      [always "podAffinityTerm" (.object [("topologyKey", .string "")]) podTerm,
        always "weight" (Json.ofNat 0) .int32])),
    opt required (.list podTerm)]

def affinity : Schema :=
  .object "Affinity" [
    opt "nodeAffinity" (.object "NodeAffinity" [
      opt preferred (.list (.object "PreferredSchedulingTerm"
        [always "preference" (.object []) nodeTerm, always "weight" (Json.ofNat 0) .int32])),
      opt required (.object "NodeSelector"
        [always "nodeSelectorTerms" empty (.list nodeTerm)])]),
    opt "podAffinity" (podAffinity "PodAffinity"),
    opt "podAntiAffinity" (podAffinity "PodAntiAffinity")]

def podSecurityContext : Schema :=
  .object "PodSecurityContext" [opt "appArmorProfile" appArmor, opt "fsGroup" .int64,
    opt "fsGroupChangePolicy" .text, opt "runAsGroup" .int64, opt "runAsNonRoot" .flag,
    opt "runAsUser" .int64, opt "seLinuxOptions" linuxOptions, opt "seccompProfile" seccomp,
    opt "supplementalGroups" (.list .int64),
    opt "sysctls" (.list (.object "Sysctl" [name "name", name "value"])),
    opt "windowsOptions" windowsOptions]

def spread : Schema :=
  .object "TopologySpreadConstraint" [opt "labelSelector" labelSelector,
    opt "matchLabelKeys" (.list .text), always "maxSkew" (Json.ofNat 0) .int32,
    opt "minDomains" .int32, opt "nodeAffinityPolicy" .text, opt "nodeTaintsPolicy" .text,
    name "topologyKey", name "whenUnsatisfiable"]

def dnsConfig : Schema :=
  .object "PodDNSConfig" [opt "nameservers" (.list .text),
    opt "options" (.list (.object "PodDNSConfigOption" [opt "name" .text, opt "value" .text])),
    opt "searches" (.list .text)]

/-- The fields of a pod, `containers` and `volumes` aside. -/
def podFields : List (String × Option Json × Schema) := [
  opt "activeDeadlineSeconds" .int64, opt "affinity" affinity,
  opt "automountServiceAccountToken" .flag, opt "dnsConfig" dnsConfig, opt "dnsPolicy" .text,
  opt "enableServiceLinks" .flag, opt "ephemeralContainers" (.list ephemeralContainer),
  opt "hostAliases" (.list (.object "HostAlias" [opt "hostnames" (.list .text), name "ip"])),
  opt "hostIPC" .flag, opt "hostNetwork" .flag, opt "hostPID" .flag, opt "hostUsers" .flag,
  opt "hostname" .text, opt "imagePullSecrets" (.list nameRef),
  opt "initContainers" (.list container), opt "nodeName" .text, opt "nodeSelector" .textMap,
  opt "os" (.object "PodOS" [name "name"]), opt "overhead" .textMap,
  opt "preemptionPolicy" .text, opt "priority" .int32, opt "priorityClassName" .text,
  opt "readinessGates" (.list (.object "PodReadinessGate" [name "conditionType"])),
  opt "resourceClaims" (.list (.object "PodResourceClaim" [name "name",
    opt "source" (.object "ClaimSource"
      [opt "resourceClaimName" .text, opt "resourceClaimTemplateName" .text])])),
  opt "restartPolicy" .text, opt "runtimeClassName" .text, opt "schedulerName" .text,
  opt "schedulingGates" (.list (.object "PodSchedulingGate" [name "name"])),
  opt "securityContext" podSecurityContext, opt "serviceAccount" .text,
  opt "serviceAccountName" .text, opt "setHostnameAsFQDN" .flag,
  opt "shareProcessNamespace" .flag, opt "subdomain" .text,
  opt "terminationGracePeriodSeconds" .int64, opt "tolerations" (.list toleration),
  opt "topologySpreadConstraints" (.list spread)]

end RoleOperator.PodSchema
