import Mathlib.Algebra.Group.Int.Defs
import RoleOperator.Proofs.Json.Formats
import RoleOperator.Role.Status
import RoleOperator.Storage.Etcd

/-!
# Stored data

The specifications of roles and of etcd and the status of a role, as they are kept in JSON. Whatever is
read and written again, by a patch or by anyone else, stays as it was.
-/
namespace RoleOperator.Json.Decode

open Fields

variable {j : Json}

/-! ## Specifications of roles -/

def gcpFormat : Format GcpSpec where
  decoder := gcpSpec
  encode := GcpSpec.toJson
  names := ["path", "secretType", "project", "bindings", "tokenScopes"]
  optional := ["tokenScopes"]
  defaults := [("path", .string "gcp")]

theorem gcp_same (s : GcpSpec) : gcpSpec s.toJson = .ok s := by
  refine record_of_build ?_ ?_ ?_
  · exact (((((lawful_withDefault _ _ _).map _).seq (lawful_required _ _)).seq
      (lawful_required _ _)).seq (lawful_required _ _)).seq (lawful_withDefault _ _ _)
  · have names : gcpFormat.names.Nodup := by decide
    refine names.sublist ?_
    rw [List.map_append]
    exact (List.Sublist.refl _).append (keys_listEntry _)
  · refine seq_build (seq_build (seq_build (seq_build (map_build ?_) ?_) ?_) ?_) ?_
    · exact withDefault_build (j := .string s.path) (by simp [lookup]) rfl
    · exact required_build (j := .string s.secretType) (by simp [lookup]) rfl
    · exact required_build (j := .string s.project) (by simp [lookup]) rfl
    · exact required_build (j := .string s.bindings) (by simp [lookup]) rfl
    · exact unless_build (by simp [lookup]) (strings_ok _)

theorem gcp_parts {s : GcpSpec} (h : gcpSpec j = .ok s) :
    (withDefault "path" string "gcp").build (parts gcpFormat.names j) = .ok s.path ∧
      (withDefault "tokenScopes" (list string) []).build (parts gcpFormat.names j) =
        .ok s.tokenScopes := by
  have build := build_of_record h
  simp only [seq_build_iff, map_build_iff] at build
  obtain ⟨_, ⟨_, ⟨_, ⟨_, ⟨path, hpath, rfl⟩, secretType, -, rfl⟩, project, -, rfl⟩, bindings, -,
    rfl⟩, tokenScopes, hscopes, rfl⟩ := build
  exact ⟨hpath, hscopes⟩

theorem gcp_survives : gcpFormat.Survives where
  same s _ _ := gcp_same s
  again j s _ _ := gcp_same s
  absent j s h name optional absent := by
    obtain rfl := List.mem_singleton.1 optional
    have none : s.tokenScopes = [] := list_absent absent (gcp_parts h).2
    simp [gcpFormat, GcpSpec.toJson, field?, none, lookup]
  defaulted j s h name value default absent := by
    obtain ⟨rfl, rfl⟩ := Prod.mk.inj (List.mem_singleton.1 default)
    have path : s.path = "gcp" := withDefault_absent absent (gcp_parts h).1
    simp [gcpFormat, GcpSpec.toJson, field?, path, lookup]

def awsFormat : Format AwsSpec where
  decoder := awsSpec
  encode := AwsSpec.toJson
  names := ["path", "credentialType", "policyArns", "roleArns", "policyDocument", "defaultStsTtl",
    "maxStsTtl"]
  optional := ["policyArns", "roleArns", "policyDocument", "defaultStsTtl", "maxStsTtl"]
  defaults := [("path", .string "aws")]

theorem aws_same (s : AwsSpec) : awsSpec s.toJson = .ok s := by
  refine record_of_build ?_ ?_ ?_
  · exact (((((((lawful_withDefault _ _ _).map _).seq (lawful_required _ _)).seq
      (lawful_withDefault _ _ _)).seq (lawful_withDefault _ _ _)).seq (lawful_opt _ _)).seq
      (lawful_opt _ _)).seq (lawful_opt _ _)
  · have names : awsFormat.names.Nodup := by decide
    refine names.sublist ?_
    simp only [List.map_append]
    exact (((((List.Sublist.refl _).append (keys_listEntry _)).append (keys_listEntry _)).append
      (keys_optEntry _ _)).append (keys_optEntry _ _)).append (keys_optEntry _ _)
  · refine seq_build (seq_build (seq_build (seq_build (seq_build (seq_build (map_build ?_) ?_) ?_)
      ?_) ?_) ?_) ?_
    · exact withDefault_build (j := .string s.path) (by simp [lookup]) rfl
    · exact required_build (j := .string s.credentialType) (by simp [lookup]) rfl
    · exact unless_build (by simp [lookup]) (strings_ok _)
    · exact unless_build (by simp [lookup]) (strings_ok _)
    · exact optString_build (by simp [lookup])
    · exact optString_build (by simp [lookup])
    · exact optString_build (by simp [lookup])

theorem aws_parts {s : AwsSpec} (h : awsSpec j = .ok s) :
    (withDefault "path" string "aws").build (parts awsFormat.names j) = .ok s.path ∧
      (withDefault "policyArns" (list string) []).build (parts awsFormat.names j) =
        .ok s.policyArns ∧
      (withDefault "roleArns" (list string) []).build (parts awsFormat.names j) = .ok s.roleArns ∧
      (opt "policyDocument" string).build (parts awsFormat.names j) = .ok s.policyDocument ∧
      (opt "defaultStsTtl" string).build (parts awsFormat.names j) = .ok s.defaultStsTtl ∧
      (opt "maxStsTtl" string).build (parts awsFormat.names j) = .ok s.maxStsTtl := by
  have build := build_of_record h
  simp only [seq_build_iff, map_build_iff] at build
  obtain ⟨_, ⟨_, ⟨_, ⟨_, ⟨_, ⟨_, ⟨path, hpath, rfl⟩, credentialType, -, rfl⟩, policyArns, hpolicies,
    rfl⟩, roleArns, hroles, rfl⟩, policyDocument, hdocument, rfl⟩, defaultStsTtl, hdefault, rfl⟩,
    maxStsTtl, hmax, rfl⟩ := build
  exact ⟨hpath, hpolicies, hroles, hdocument, hdefault, hmax⟩

theorem aws_survives : awsFormat.Survives where
  same s _ _ := aws_same s
  again j s _ _ := aws_same s
  absent j s h name optional absent := by
    obtain ⟨-, policyArns, roleArns, document, usual, longest⟩ := aws_parts h
    simp only [awsFormat, List.mem_cons, List.not_mem_nil, or_false] at optional
    rcases optional with rfl | rfl | rfl | rfl | rfl
    · simp [awsFormat, AwsSpec.toJson, field?, list_absent absent policyArns, lookup]
    · simp [awsFormat, AwsSpec.toJson, field?, list_absent absent roleArns, lookup]
    · simp [awsFormat, AwsSpec.toJson, field?, opt_absent absent document, lookup]
    · simp [awsFormat, AwsSpec.toJson, field?, opt_absent absent usual, lookup]
    · simp [awsFormat, AwsSpec.toJson, field?, opt_absent absent longest, lookup]
  defaulted j s h name value default absent := by
    obtain ⟨rfl, rfl⟩ := Prod.mk.inj (List.mem_singleton.1 default)
    have path : s.path = "aws" := withDefault_absent absent (aws_parts h).1
    simp [awsFormat, AwsSpec.toJson, field?, path, lookup]

/-- The names of the parts of a specification. -/
def specNames : Kind → List String
  | .gcp => gcpFormat.names
  | .aws => awsFormat.names

/-- A role without a path gets the default of its kind. -/
theorem roleSpec_path {kind : Kind} {spec : RoleSpec} (h : roleSpec kind j = .ok spec)
    (absent : lookup "path" (parts (specNames kind) j) = none) : spec.path = kind.defaultPath := by
  cases kind with
  | gcp =>
    obtain ⟨s, read, rfl⟩ := map_ok_iff.1 h
    exact withDefault_absent absent (gcp_parts read).1
  | aws =>
    obtain ⟨s, read, rfl⟩ := map_ok_iff.1 h
    exact withDefault_absent absent (aws_parts read).1

/-! ## Specifications of etcd -/

def etcdFormat : Format EtcdSpec where
  decoder := etcdSpec
  encode := EtcdSpec.toJson
  names := ["address", "etcdApi", "path", "discoverySrv", "haEnable", "sync", "tlsSecretName",
    "credentialSecretName"]
  optional := ["address", "etcdApi", "path", "discoverySrv", "tlsSecretName",
    "credentialSecretName"]
  defaults := [("haEnable", .bool false), ("sync", .bool false)]

theorem etcd_same (s : EtcdSpec) : etcdSpec s.toJson = .ok s := by
  refine record_of_build ?_ ?_ ?_
  · exact ((((((((lawful_opt _ _).map _).seq (lawful_opt _ _)).seq (lawful_opt _ _)).seq
      (lawful_opt _ _)).seq (lawful_withDefault _ _ _)).seq (lawful_withDefault _ _ _)).seq
      (lawful_opt _ _)).seq (lawful_opt _ _)
  · have names : etcdFormat.names.Nodup := by decide
    refine names.sublist ?_
    simp only [List.map_append]
    exact ((((((keys_optEntry _ _).append (keys_optEntry _ _)).append (keys_optEntry _ _)).append
      (keys_optEntry _ _)).append (List.Sublist.refl _)).append (keys_optEntry _ _)).append
      (keys_optEntry _ _)
  · refine seq_build (seq_build (seq_build (seq_build (seq_build (seq_build (seq_build
      (map_build ?_) ?_) ?_) ?_) ?_) ?_) ?_) ?_
    · exact optString_build (by simp [lookup])
    · exact optString_build (by simp [lookup])
    · exact optString_build (by simp [lookup])
    · exact optString_build (by simp [lookup])
    · exact withDefault_build (j := .bool s.haEnable) (by simp [lookup]) rfl
    · exact withDefault_build (j := .bool s.sync) (by simp [lookup]) rfl
    · exact optString_build (by simp [lookup])
    · exact optString_build (by simp [lookup])

theorem etcd_parts {s : EtcdSpec} (h : etcdSpec j = .ok s) :
    (opt "address" string).build (parts etcdFormat.names j) = .ok s.address ∧
      (opt "etcdApi" string).build (parts etcdFormat.names j) = .ok s.etcdApi ∧
      (opt "path" string).build (parts etcdFormat.names j) = .ok s.path ∧
      (opt "discoverySrv" string).build (parts etcdFormat.names j) = .ok s.discoverySrv ∧
      (withDefault "haEnable" bool false).build (parts etcdFormat.names j) = .ok s.haEnable ∧
      (withDefault "sync" bool false).build (parts etcdFormat.names j) = .ok s.sync ∧
      (opt "tlsSecretName" string).build (parts etcdFormat.names j) = .ok s.tlsSecretName ∧
      (opt "credentialSecretName" string).build (parts etcdFormat.names j) =
        .ok s.credentialSecretName := by
  have build := build_of_record h
  simp only [seq_build_iff, map_build_iff] at build
  obtain ⟨_, ⟨_, ⟨_, ⟨_, ⟨_, ⟨_, ⟨_, ⟨address, haddress, rfl⟩, etcdApi, hapi, rfl⟩, path, hpath, rfl⟩,
    discoverySrv, hsrv, rfl⟩, haEnable, hha, rfl⟩, sync, hsync, rfl⟩, tls, htls, rfl⟩, credentials,
    hcredentials, rfl⟩ := build
  exact ⟨haddress, hapi, hpath, hsrv, hha, hsync, htls, hcredentials⟩

theorem etcd_survives : etcdFormat.Survives where
  same s _ _ := etcd_same s
  again j s _ _ := etcd_same s
  absent j s h name optional absent := by
    obtain ⟨address, etcdApi, path, srv, -, -, tls, credentials⟩ := etcd_parts h
    simp only [etcdFormat, List.mem_cons, List.not_mem_nil, or_false] at optional
    rcases optional with rfl | rfl | rfl | rfl | rfl | rfl
    · simp [etcdFormat, EtcdSpec.toJson, field?, opt_absent absent address, lookup]
    · simp [etcdFormat, EtcdSpec.toJson, field?, opt_absent absent etcdApi, lookup]
    · simp [etcdFormat, EtcdSpec.toJson, field?, opt_absent absent path, lookup]
    · simp [etcdFormat, EtcdSpec.toJson, field?, opt_absent absent srv, lookup]
    · simp [etcdFormat, EtcdSpec.toJson, field?, opt_absent absent tls, lookup]
    · simp [etcdFormat, EtcdSpec.toJson, field?, opt_absent absent credentials, lookup]
  defaulted j s h name value default absent := by
    obtain ⟨-, -, -, -, haEnable, sync, -, -⟩ := etcd_parts h
    simp only [etcdFormat, List.mem_cons, Prod.mk.injEq, List.not_mem_nil, or_false] at default
    rcases default with ⟨rfl, rfl⟩ | ⟨rfl, rfl⟩
    · simp [etcdFormat, EtcdSpec.toJson, field?, withDefault_absent absent haEnable, lookup]
    · simp [etcdFormat, EtcdSpec.toJson, field?, withDefault_absent absent sync, lookup]

/-! ## Status -/

def conditionFormat : Format Condition where
  decoder := condition
  encode := Condition.toJson
  names := ["type", "status", "lastTransitionTime", "reason", "message"]
  optional := ["reason", "message"]
  defaults := []
  times c := [c.lastTransitionTime]

theorem conditionStatus_text (s : ConditionStatus) : conditionStatus (.string s.text) = .ok s := by
  cases s <;> rfl

theorem phase_text (p : Phase) : phase (.string p.text) = .ok p := by cases p <;> rfl

theorem timestamp_text {t : Timestamp} (h : t.ReadsBack) : timestamp (.string t.text) = .ok t := by
  have read : Timestamp.read t.text = .ok t := h
  simp only [timestamp, single, read]
  rfl

example : timestamp (.string (⟨1709208000, 5000000⟩ : Timestamp).text) =
    .ok ⟨1709208000, 5000000⟩ := by
  decide +kernel

theorem condition_same {c : Condition} (time : c.lastTransitionTime.ReadsBack) :
    condition c.toJson = .ok c := by
  refine record_of_build ?_ ?_ ?_
  · exact (((((lawful_required _ _).map _).seq (lawful_required _ _)).seq
      (lawful_required _ _)).seq (lawful_opt _ _)).seq (lawful_opt _ _)
  · have names : conditionFormat.names.Nodup := by decide
    refine names.sublist ?_
    simp only [List.map_append]
    exact ((List.Sublist.refl _).append (keys_optEntry _ _)).append (keys_optEntry _ _)
  · refine seq_build (seq_build (seq_build (seq_build (map_build ?_) ?_) ?_) ?_) ?_
    · exact required_build (j := .string c.type) (by simp [lookup]) rfl
    · exact required_build (by simp [lookup]) (conditionStatus_text c.status)
    · exact required_build (by simp [lookup]) (timestamp_text time)
    · exact optString_build (by simp [lookup])
    · exact optString_build (by simp [lookup])

theorem condition_parts {c : Condition} (h : condition j = .ok c) :
    (opt "reason" string).build (parts conditionFormat.names j) = .ok c.reason ∧
      (opt "message" string).build (parts conditionFormat.names j) = .ok c.message := by
  have build := build_of_record h
  simp only [seq_build_iff, map_build_iff] at build
  obtain ⟨_, ⟨_, ⟨_, ⟨_, ⟨type, -, rfl⟩, status, -, rfl⟩, time, -, rfl⟩, reason, hreason, rfl⟩,
    message, hmessage, rfl⟩ := build
  exact ⟨hreason, hmessage⟩

theorem condition_survives : conditionFormat.Survives where
  same c _ times := condition_same (times c.lastTransitionTime List.mem_cons_self)
  again j c _ times := condition_same (times c.lastTransitionTime List.mem_cons_self)
  absent j c h name optional absent := by
    obtain ⟨reason, message⟩ := condition_parts h
    simp only [conditionFormat, List.mem_cons, List.not_mem_nil, or_false] at optional
    rcases optional with rfl | rfl
    · simp [conditionFormat, Condition.toJson, field?, opt_absent absent reason, lookup]
    · simp [conditionFormat, Condition.toJson, field?, opt_absent absent message, lookup]
  defaulted j c _ name value default := by cases default

/-- The observed generation has 64 bits. -/
def statusFormat : Format RoleStatus where
  decoder := roleStatus
  encode := RoleStatus.toJson
  names := ["phase", "observedGeneration", "conditions"]
  optional := ["observedGeneration", "conditions"]
  defaults := [("phase", .string "Unknown")]
  fits s := ∀ n, s.observedGeneration = some n → -2 ^ 63 ≤ n ∧ n < 2 ^ 63
  times s := s.conditions.map Condition.lastTransitionTime

theorem int64_ofInt {n : Int} (least : -2 ^ 63 ≤ n) (most : n < 2 ^ 63) :
    int64 (ofInt n) = .ok n := by
  have read : int64 (ofInt n) = if -9223372036854775808 ≤ n ∧ n ≤ 9223372036854775807 then .ok n
      else .error (.wrongValue (.number (.int n)) "i64") := rfl
  rw [read, if_pos (by omega)]

theorem int64_range {n : Int} (h : int64 j = .ok n) : -2 ^ 63 ≤ n ∧ n < 2 ^ 63 := by
  simp only [int64, integer, single] at h
  split at h
  · split at h
    · next bounds =>
      cases h
      omega
    · cases h
  · cases h

theorem status_same {s : RoleStatus} (fits : statusFormat.fits s)
    (times : ∀ t ∈ statusFormat.times s, t.ReadsBack) : roleStatus s.toJson = .ok s := by
  refine record_of_build ?_ ?_ ?_
  · exact (((lawful_withDefault _ _ _).map _).seq (lawful_opt _ _)).seq (lawful_withDefault _ _ _)
  · have names : statusFormat.names.Nodup := by decide
    refine names.sublist ?_
    simp only [List.map_append]
    exact ((List.Sublist.refl _).append (keys_optEntry _ _)).append (keys_unless _)
  · have items : list condition (.array (s.conditions.map Condition.toJson)) = .ok s.conditions :=
      list_ok fun c hc => condition_same (times _ (List.mem_map_of_mem hc))
    refine seq_build (seq_build (map_build ?_) ?_) ?_
    · exact withDefault_build (by simp [lookup]) (phase_text s.phase)
    · refine opt_build (show lookup _ _ = s.observedGeneration.map ofInt by simp [lookup]) ?_
      intro n observed
      obtain ⟨least, most⟩ := fits n observed
      have read : int64 (ofInt n) = .ok n := int64_ofInt least most
      exact map_ok_iff.2 ⟨n, read, rfl⟩
    · exact unless_build (by simp [lookup]) items

theorem status_parts {s : RoleStatus} (h : roleStatus j = .ok s) :
    (withDefault "phase" phase .unknown).build (parts statusFormat.names j) = .ok s.phase ∧
      (opt "observedGeneration" int64).build (parts statusFormat.names j) =
        .ok s.observedGeneration ∧
      (withDefault "conditions" (list condition) []).build (parts statusFormat.names j) =
        .ok s.conditions := by
  have build := build_of_record h
  simp only [seq_build_iff, map_build_iff] at build
  obtain ⟨_, ⟨_, ⟨phase, hphase, rfl⟩, observed, hobserved, rfl⟩, conditions, hconditions, rfl⟩ :=
    build
  exact ⟨hphase, hobserved, hconditions⟩

theorem status_fits {s : RoleStatus} (h : roleStatus j = .ok s) : statusFormat.fits s := by
  intro n observed
  obtain ⟨-, generation, -⟩ := status_parts h
  rw [observed] at generation
  obtain ⟨i, -, read⟩ := exists_of_opt_build generation
  exact int64_range read

theorem status_survives : statusFormat.Survives where
  same s := status_same
  again j s h := status_same (status_fits h)
  absent j s h name optional absent := by
    obtain ⟨-, generation, conditions⟩ := status_parts h
    simp only [statusFormat, List.mem_cons, List.not_mem_nil, or_false] at optional
    rcases optional with rfl | rfl
    · simp [statusFormat, RoleStatus.toJson, field?, opt_absent absent generation, lookup]
    · simp [statusFormat, RoleStatus.toJson, field?, list_absent absent conditions, lookup]
  defaulted j s h name value default absent := by
    obtain ⟨rfl, rfl⟩ := Prod.mk.inj (List.mem_singleton.1 default)
    have phase : s.phase = .unknown := withDefault_absent absent (status_parts h).1
    simp [statusFormat, RoleStatus.toJson, field?, phase, Phase.text, lookup]

/-- The conditions are read one by one, and written one by one if there are any. -/
theorem status_conditions {s : RoleStatus} {js : List Json} (h : roleStatus j = .ok s)
    (listed : lookup "conditions" (parts statusFormat.names j) = some (.array js)) :
    List.Forall₂ (fun i c => condition i = .ok c) js s.conditions ∧
      s.toJson.field? "conditions" =
        if js = [] then none else some (.array (s.conditions.map Condition.toJson)) := by
  obtain ⟨-, -, conditions⟩ := status_parts h
  simp only [withDefault, listed] at conditions
  have each := list_ok_iff.1 conditions
  have empty : s.conditions = [] ↔ js = [] := by
    rw [← List.length_eq_zero_iff, ← each.length_eq, List.length_eq_zero_iff]
  refine ⟨each, ?_⟩
  simp [RoleStatus.toJson, field?, lookup, empty]

/-! ## All of them -/

/-- What is written of a specification or a status is read as it was. What has been read stays as it is:
an optional part that was left out is left out when it is written, and any other has its default, which is
the kind's for the path. -/
theorem stored_data_survives :
    gcpFormat.Survives ∧ awsFormat.Survives ∧ etcdFormat.Survives ∧ statusFormat.Survives ∧
      conditionFormat.Survives ∧
      (∀ j s js, roleStatus j = .ok s →
        lookup "conditions" (parts statusFormat.names j) = some (.array js) →
        List.Forall₂ (fun i c => condition i = .ok c) js s.conditions ∧
          s.toJson.field? "conditions" =
            if js = [] then none else some (.array (s.conditions.map Condition.toJson))) ∧
      ∀ kind j spec, roleSpec kind j = .ok spec →
        lookup "path" (parts (specNames kind) j) = none → spec.path = kind.defaultPath :=
  ⟨gcp_survives, aws_survives, etcd_survives, status_survives, condition_survives,
    fun _ _ _ => status_conditions, fun _ _ _ => roleSpec_path⟩

end RoleOperator.Json.Decode
