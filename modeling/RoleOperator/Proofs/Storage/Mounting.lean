import Mathlib.Logic.Function.Iterate
import RoleOperator.Proofs.Storage.Stanza

/-!
# Mounts of the storage

What a storage adds to a pod template is appended to lists of its first container and of its pod, or
nothing is added at all. The stanza names files of the TLS secret exactly if the secret is mounted, unless
a value that breaks its line forges such a name.
-/
namespace RoleOperator

/-! ## Templates -/

/-- A list that need not be there with more entries at its end. Nothing more leaves it absent. -/
def appended (xs : Option (List Json)) (more : List Json) : Option (List Json) :=
  if more = [] then xs else some (xs.getD [] ++ more)

@[simp] theorem appended_nil (xs : Option (List Json)) : appended xs [] = xs := rfl

theorem appended_append (xs : Option (List Json)) (ys zs : List Json) :
    appended (appended xs ys) zs = appended xs (ys ++ zs) := by
  unfold appended
  by_cases hy : ys = []
  · simp [hy]
  · by_cases hz : zs = [] <;> simp [hy, hz]

/-- Entries for the lists of a template: mounts and environment of its first container, volumes of its
pod. -/
structure Additions where
  mounts : List Json := []
  env : List Json := []
  volumes : List Json := []

namespace Additions

def append (a b : Additions) : Additions :=
  ⟨a.mounts ++ b.mounts, a.env ++ b.env, a.volumes ++ b.volumes⟩

def copies (n : ℕ) (a : Additions) : Additions where
  mounts := (List.replicate n a.mounts).flatten
  env := (List.replicate n a.env).flatten
  volumes := (List.replicate n a.volumes).flatten

theorem copies_succ (n : ℕ) (a : Additions) : a.copies (n + 1) = (a.copies n).append a := by
  simp [copies, append, List.replicate_succ']

/-- With a secret there is one mount that cannot be written to and one volume of its name from the
secret, and without one there is neither. -/
def FitsTls (a : Additions) : Option String → Prop
  | none => a.mounts = [] ∧ a.volumes = []
  | some secret => ∃ mount volume name,
      a.mounts = [mount] ∧ a.volumes = [volume] ∧
      mount.field? "name" = some name ∧ volume.field? "name" = some name ∧
      mount.field? "readOnly" = some (.bool true) ∧
      mount.field? "mountPath" = some (.string EtcdSpec.tlsDirectory) ∧
      (volume.field? "secret").bind (·.field? "secretName") = some (.string secret)

/-- The value of a variable is that of a key of a secret. -/
def RefersTo (entry : Json) (secret key : String) : Prop :=
  ∃ reference, (entry.field? "valueFrom").bind (·.field? "secretKeyRef") = some reference ∧
    reference.field? "name" = some (.string secret) ∧ reference.field? "key" = some (.string key)

/-- With a secret there are variables for its user and its password, and without one there is none. -/
def FitsCredentials (a : Additions) : Option String → Prop
  | none => a.env = []
  | some secret => ∃ user password, a.env = [user, password] ∧
      RefersTo user secret "username" ∧ RefersTo password secret "password"

end Additions

namespace PodTemplate

def primary? (t : PodTemplate) : Option Container := t.spec.bind (·.containers.head?)

/-- The template with entries appended to its lists. One without a container stays as it is. -/
def extended (t : PodTemplate) (more : Additions) : PodTemplate :=
  match t.spec with
  | some s =>
    match s.containers with
    | first :: rest =>
      let grown : Container :=
        { first with
          volumeMounts := appended first.volumeMounts more.mounts
          env := appended first.env more.env }
      { t with spec := some { s with
          containers := grown :: rest
          volumes := appended s.volumes more.volumes } }
    | [] => t
  | none => t

variable {t : PodTemplate} {more : Additions}

theorem exists_of_primary? {first : Container} (h : t.primary? = some first) :
    ∃ s rest, t.spec = some s ∧ s.containers = first :: rest := by
  obtain ⟨s, hs, headed⟩ := Option.bind_eq_some_iff.1 h
  obtain ⟨rest, whole⟩ := List.head?_eq_some_iff.1 headed
  exact ⟨s, rest, hs, whole⟩

theorem containers_of_none (h : t.primary? = none) {s : PodSpec} (hs : t.spec = some s) :
    s.containers = [] := by
  simpa [primary?, hs] using h

theorem mapPrimary?_of_none (h : t.primary? = none) (f : Container → Container) :
    t.mapPrimary? f = none := by
  cases hs : t.spec with
  | none => simp [mapPrimary?, hs]
  | some s => simp [mapPrimary?, hs, containers_of_none h hs]

theorem extended_of_none (h : t.primary? = none) : t.extended more = t := by
  cases hs : t.spec with
  | none => simp [extended, hs]
  | some s => simp [extended, hs, containers_of_none h hs]

theorem extended_nothing (t : PodTemplate) : t.extended {} = t := by
  cases h : t.primary? with
  | none => exact extended_of_none h
  | some first =>
    obtain ⟨⟨_, volumes, others⟩, rest, hs, rfl⟩ := exists_of_primary? h
    obtain ⟨metadata, _⟩ := t
    subst hs
    rfl

theorem primary?_extended_eq_none_iff (t : PodTemplate) (more : Additions) :
    (t.extended more).primary? = none ↔ t.primary? = none := by
  cases h : t.primary? with
  | none => simp [extended_of_none h, h]
  | some first =>
    obtain ⟨s, rest, hs, whole⟩ := exists_of_primary? h
    simp [extended, primary?, hs, whole]

theorem extended_extended (t : PodTemplate) (a b : Additions) :
    (t.extended a).extended b = t.extended (a.append b) := by
  cases h : t.primary? with
  | none => rw [extended_of_none h, extended_of_none h, extended_of_none h]
  | some first =>
    obtain ⟨s, rest, hs, whole⟩ := exists_of_primary? h
    simp [extended, hs, whole, appended_append, Additions.append]

end PodTemplate

namespace EtcdSpec

variable {s : EtcdSpec}

/-! ## What is added -/

def tlsAdditions (secret : String) : Additions where
  mounts := [Container.readOnlyMount tlsVolume tlsDirectory]
  volumes := [PodSpec.secretVolume tlsVolume secret]

def credentialAdditions (secret : String) : Additions where
  env := [Container.secretVariable "ETCD_USERNAME" secret "username",
    Container.secretVariable "ETCD_PASSWORD" secret "password"]

/-- Everything that the storage needs in a template. -/
def additions (s : EtcdSpec) : Additions :=
  (s.tlsSecret.elim {} tlsAdditions).append (s.credentialSecret.elim {} credentialAdditions)

/-- A step adds its entries, or fails and adds none for want of a container. -/
def Adds (step : PodTemplate → Except Fault Unit × PodTemplate) (needed : Prop) (more : Additions) :
    Prop :=
  ∀ t : PodTemplate, (step t).2 = t.extended more ∧
    ((step t).1 = .error noContainers ∧ needed ∧ t.primary? = none ∨
      (step t).1 = .ok () ∧ ¬ (needed ∧ t.primary? = none))

theorem adds_mountTls (secret : String) : Adds (mountTls secret) True (tlsAdditions secret) := by
  intro t
  cases h : t.primary? with
  | none =>
    rw [mountTls, PodTemplate.mapPrimary?_of_none h, PodTemplate.extended_of_none h]
    simp
  | some first =>
    obtain ⟨s, rest, hs, whole⟩ := PodTemplate.exists_of_primary? h
    simp [mountTls, PodTemplate.mapPrimary?, PodTemplate.extended, PodTemplate.mapSpec, hs, whole,
      appended, Container.addMount, PodSpec.addVolume, tlsAdditions]

theorem adds_passCredentials (secret : String) :
    Adds (passCredentials secret) True (credentialAdditions secret) := by
  intro t
  cases h : t.primary? with
  | none =>
    rw [passCredentials, PodTemplate.mapPrimary?_of_none h, PodTemplate.extended_of_none h]
    simp
  | some first =>
    obtain ⟨s, rest, hs, whole⟩ := PodTemplate.exists_of_primary? h
    simp [passCredentials, PodTemplate.mapPrimary?, PodTemplate.extended, hs, whole,
      appended, Container.addEnv, credentialAdditions]

theorem adds_withSecret {step : String → PodTemplate → Except Fault Unit × PodTemplate}
    {more : String → Additions} (each : ∀ name, Adds (step name) True (more name))
    (secret : Option String) :
    Adds (withSecret secret step) (secret.isSome) (secret.elim {} more) := by
  cases secret with
  | none =>
    intro t
    simp [withSecret, PodTemplate.extended_nothing]
  | some name => simpa [Adds, withSecret] using each name

theorem adds_apply (s : EtcdSpec) :
    Adds s.apply (s.tlsSecret.isSome ∨ s.credentialSecret.isSome) s.additions := by
  intro t
  obtain ⟨mounted, outcome⟩ := adds_withSecret adds_mountTls s.tlsSecret t
  unfold apply
  cases first : withSecret s.tlsSecret mountTls t with
  | mk r t' =>
    obtain rfl : t' = t.extended (s.tlsSecret.elim {} tlsAdditions) := by
      simpa [first] using mounted
    rcases outcome with ⟨failed, named, bare⟩ | ⟨passed, free⟩
    · obtain rfl : r = .error noContainers := by simpa [first] using failed
      simp [PodTemplate.extended_of_none bare, named, bare]
    · obtain rfl : r = .ok () := by simpa [first] using passed
      have later := adds_withSecret adds_passCredentials s.credentialSecret
        (t.extended (s.tlsSecret.elim {} tlsAdditions))
      rw [PodTemplate.extended_extended, PodTemplate.primary?_extended_eq_none_iff] at later
      refine ⟨later.1, later.2.imp (fun h => ?_) fun h => ?_⟩
      · exact ⟨h.1, .inr h.2.1, h.2.2⟩
      · refine ⟨h.1, fun ⟨named, bare⟩ => ?_⟩
        rcases named with tls | credential
        · exact free ⟨tls, bare⟩
        · exact h.2 ⟨credential, bare⟩

/-- The template after a number of applications. -/
def applied (s : EtcdSpec) (n : ℕ) (t : PodTemplate) : PodTemplate := (fun t => (s.apply t).2)^[n] t

theorem applied_eq (s : EtcdSpec) (n : ℕ) (t : PodTemplate) :
    s.applied n t = t.extended (s.additions.copies n) := by
  induction n with
  | zero => exact t.extended_nothing.symm
  | succ n ih =>
    rw [applied, Function.iterate_succ_apply', ← applied, ih, (adds_apply s _).1,
      PodTemplate.extended_extended, Additions.copies_succ]

/-! ## Files of the secret in the stanza -/

/-- The text is the name of a file parameter. -/
def IsTlsName (name : List Char) : Prop :=
  ∃ middle, name = "tls_".toList ++ middle ++ "_file".toList

theorem head?_of_isTlsName {name : List Char} (h : IsTlsName name) : name.head? = some 't' := by
  obtain ⟨middle, rfl⟩ := h
  rfl

theorem isTlsName_iff {name : String} (listed : name ∈ settingNames) :
    IsTlsName name.toList ↔ (tlsFile? name).isSome := by
  have headed : ∀ name ∈ settingNames, name.toList.head? = some 't' → (tlsFile? name).isSome := by
    decide
  have built : ∀ name ∈ settingNames, (tlsFile? name).isSome → name.toList =
      "tls_".toList ++ (name.toList.drop 4).take (name.length - 9) ++ "_file".toList := by
    decide
  exact ⟨fun h => headed name listed (head?_of_isTlsName h), fun h => ⟨_, built name listed h⟩⟩

theorem setting?_of_tlsFile? {name file : String} (h : tlsFile? name = some file) :
    s.setting? name = s.tlsSecret.map fun _ => tlsAsset file := by
  have unlike : ∀ other, tlsFile? other = none → name ≠ other := by
    intro other none e
    simp [e, none] at h
  have rest : s.setting? name = s.tlsSecret.bind fun _ => (tlsFile? name).map tlsAsset := by
    simp only [setting?, unlike "address" rfl, unlike "etcd_api" rfl, unlike "path" rfl,
      unlike "discovery_srv" rfl, unlike "ha_enabled" rfl, unlike "sync" rfl, if_false]
  rw [rest, h]
  cases s.tlsSecret <;> rfl

/-- A parameter for a file of the secret stands in the stanza only if the secret is named, with a file in
its mount. -/
theorem tlsAsset_of_isTlsName {p : String × String} (hp : p ∈ s.parameters)
    (h : IsTlsName p.1.toList) :
    s.tlsSecret.isSome ∧ ∃ file, tlsFile? p.1 = some file ∧ p.2 = tlsAsset file := by
  obtain ⟨listed, found⟩ := mem_parameters.1 hp
  obtain ⟨file, hfile⟩ := Option.isSome_iff_exists.1 ((isTlsName_iff listed).1 h)
  rw [setting?_of_tlsFile? hfile, Option.map_eq_some_iff] at found
  obtain ⟨secret, named, written⟩ := found
  exact ⟨by simp [named], file, hfile, written.symm⟩

theorem tlsFile?_plain {name file : String} (h : tlsFile? name = some file) :
    '/' ∉ file.toList ∧ '\n' ∉ (tlsAsset file).toList ∧ '"' ∉ (tlsAsset file).toList := by
  unfold tlsFile? at h
  split at h
  · obtain rfl := Option.some.inj h
    decide
  · split at h
    · obtain rfl := Option.some.inj h
      decide
    · split at h
      · obtain rfl := Option.some.inj h
        decide
      · cases h

/-! ## Lines of the text that name a file -/

/-- The lines that a value goes on with behind its first line break. -/
def continued (value : String) : List (List Char) := (Text.lines (value.toList ++ ['"'])).tail

/-- The name on a line, up to its first blank, is one of a file parameter. -/
def NamesTls (line : List Char) : Prop := IsTlsName (Text.cut ' ' line).1

/-- The value on a line is a file in the mount. -/
def InMount (line : List Char) : Prop :=
  ∃ name file, readLine upToFirstQuote line = some (name, tlsAsset file) ∧ '/' ∉ file.toList

theorem lines_lineOf {p : String × String} (hp : p ∈ s.parameters) :
    ∃ first, Text.lines (lineOf p) = first :: continued p.2 ∧
      (Text.cut ' ' first).1 = p.1.toList := by
  obtain ⟨plain, unbroken⟩ := name_plain (mem_parameters.1 hp).1
  obtain ⟨first, rest, whole⟩ :=
    List.exists_cons_of_ne_nil (Text.lines_ne_nil (p.2.toList ++ ['"']))
  have front : lineOf p = (p.1.toList ++ [' ', '=', ' ', '"']) ++ (p.2.toList ++ ['"']) := by
    rw [lineOf_eq]
    simp
  have free : '\n' ∉ p.1.toList ++ [' ', '=', ' ', '"'] := by simp [unbroken]
  refine ⟨p.1.toList ++ ' ' :: ('=' :: ' ' :: '"' :: first), ?_, ?_⟩
  · rw [front, Text.lines_append_of_not_mem free, continued, whole]
    simp
  · rw [Text.cut_of_mem _ plain]

theorem lineOf_inMount {p : String × String} (hp : p ∈ s.parameters) (h : IsTlsName p.1.toList) :
    Text.lines (lineOf p) = [lineOf p] ∧ InMount (lineOf p) := by
  obtain ⟨-, file, hfile, value⟩ := tlsAsset_of_isTlsName hp h
  obtain ⟨flat, unbroken, unquoted⟩ := tlsFile?_plain hfile
  rw [← value] at unbroken unquoted
  refine ⟨Text.lines_of_not_mem ((newline_not_mem_lineOf hp).2 unbroken), p.1, file, ?_, flat⟩
  rw [← value]
  exact (readLine_lineOf upToFirstQuote hp).2 ((upToFirstQuote_append _).2 unquoted)

/-- Lines that name a file are those of the parameters, and lines on which a value goes on. -/
theorem namesTls_line_iff {line : List Char} (named : NamesTls line) :
    line ∈ Text.lines s.stanza.toList ↔
      (∃ p ∈ s.parameters, IsTlsName p.1.toList ∧ line = lineOf p) ∨
        ∃ p ∈ s.parameters, line ∈ continued p.2 := by
  have headed := head?_of_isTlsName named
  have front : line ≠ [] ∧ line ≠ opening ∧ line ≠ closing := by
    refine ⟨?_, ?_, ?_⟩ <;> (rintro rfl; revert headed; decide)
  have within : line ∈ Text.lines s.stanza.toList ↔
      ∃ p ∈ s.parameters, line ∈ Text.lines (lineOf p) := by
    simp [lines_stanza, front]
  rw [within]
  constructor
  · intro ⟨p, hp, here⟩
    obtain ⟨first, whole, name⟩ := lines_lineOf hp
    rw [whole] at here
    rcases List.mem_cons.1 here with rfl | later
    · have own : IsTlsName p.1.toList := name ▸ named
      rw [(lineOf_inMount hp own).1] at whole
      exact .inl ⟨p, hp, own, (List.cons.inj whole).1.symm⟩
    · exact .inr ⟨p, hp, later⟩
  · rintro (⟨p, hp, own, rfl⟩ | ⟨p, hp, later⟩)
    · exact ⟨p, hp, by simp [(lineOf_inMount hp own).1]⟩
    · obtain ⟨first, whole, -⟩ := lines_lineOf hp
      exact ⟨p, hp, by simp [whole, later]⟩

theorem namesTls_lineOf {p : String × String} (hp : p ∈ s.parameters) :
    NamesTls (lineOf p) ↔ IsTlsName p.1.toList := by
  rw [NamesTls, lineOf_eq, Text.cut_of_mem _ (name_plain (mem_parameters.1 hp).1).1]

/-- The text names files of the secret exactly if the secret is mounted, and files of the mount only. -/
def TextAgrees (s : EtcdSpec) : Prop :=
  ((∃ line ∈ Text.lines s.stanza.toList, NamesTls line) ↔ s.additions.mounts ≠ []) ∧
    ∀ line ∈ Text.lines s.stanza.toList, NamesTls line → InMount line

theorem mounts_ne_nil_iff (s : EtcdSpec) : s.additions.mounts ≠ [] ↔ s.tlsSecret.isSome := by
  cases h : s.tlsSecret <;> cases hc : s.credentialSecret <;>
    simp [additions, Additions.append, tlsAdditions, credentialAdditions, h, hc]

theorem exists_tls_parameter_iff (s : EtcdSpec) :
    (∃ p ∈ s.parameters, IsTlsName p.1.toList) ↔ s.additions.mounts ≠ [] := by
  rw [mounts_ne_nil_iff]
  constructor
  · intro ⟨p, hp, own⟩
    exact (tlsAsset_of_isTlsName hp own).1
  · intro named
    have file : tlsFile? "tls_ca_file" = some "ca.crt" := rfl
    have listed : "tls_ca_file" ∈ settingNames := by decide
    obtain ⟨secret, hs⟩ := Option.isSome_iff_exists.1 named
    refine ⟨("tls_ca_file", tlsAsset "ca.crt"), mem_parameters.2 ⟨listed, ?_⟩, ?_⟩
    · rw [setting?_of_tlsFile? file, hs]
      rfl
    · exact (isTlsName_iff listed).2 (by simp [file])

theorem textAgrees_iff (s : EtcdSpec) :
    s.TextAgrees ↔ ∀ p ∈ s.parameters, ∀ line ∈ continued p.2, NamesTls line →
      s.additions.mounts ≠ [] ∧ InMount line := by
  constructor
  · intro ⟨mounted, inside⟩ p hp line later named
    have here := (namesTls_line_iff named).2 (.inr ⟨p, hp, later⟩)
    exact ⟨mounted.1 ⟨line, here, named⟩, inside line here named⟩
  · intro forged
    refine ⟨⟨?_, ?_⟩, ?_⟩
    · intro ⟨line, here, named⟩
      rcases (namesTls_line_iff named).1 here with ⟨p, hp, own, -⟩ | ⟨p, hp, later⟩
      · exact (exists_tls_parameter_iff s).1 ⟨p, hp, own⟩
      · exact (forged p hp line later named).1
    · intro mounted
      obtain ⟨p, hp, own⟩ := (exists_tls_parameter_iff s).2 mounted
      have named := (namesTls_lineOf hp).2 own
      exact ⟨lineOf p, (namesTls_line_iff named).2 (.inl ⟨p, hp, own, rfl⟩), named⟩
    · intro line here named
      rcases (namesTls_line_iff named).1 here with ⟨p, hp, own, rfl⟩ | ⟨p, hp, later⟩
      · exact (lineOf_inMount hp own).2
      · exact (forged p hp line later named).2

/-! ## Agreement -/

theorem additions_fitsTls (s : EtcdSpec) : s.additions.FitsTls s.tlsSecret := by
  cases h : s.tlsSecret <;> cases hc : s.credentialSecret <;>
    simp [additions, Additions.append, tlsAdditions, credentialAdditions, h, hc, Additions.FitsTls,
      Container.readOnlyMount, PodSpec.secretVolume, Json.field?, Json.lookup]

theorem additions_fitsCredentials (s : EtcdSpec) :
    s.additions.FitsCredentials s.credentialSecret := by
  cases h : s.tlsSecret <;> cases hc : s.credentialSecret <;>
    simp [additions, Additions.append, tlsAdditions, credentialAdditions, h, hc,
      Additions.FitsCredentials, Additions.RefersTo, Container.secretVariable, Json.field?,
      Json.lookup]

theorem apply_error_iff (s : EtcdSpec) (t : PodTemplate) :
    (∃ e, (s.apply t).1 = .error e) ↔
      (s.tlsSecret.isSome ∨ s.credentialSecret.isSome) ∧ t.primary? = none := by
  obtain ⟨-, ⟨failed, needed⟩ | ⟨passed, free⟩⟩ := adds_apply s t
  · simp only [failed, needed, and_true]
    exact ⟨fun _ => trivial, fun _ => ⟨_, rfl⟩⟩
  · simp [passed, free]

theorem apply_of_error {t : PodTemplate} {e : Fault} (h : (s.apply t).1 = .error e) :
    s.apply t = (.error noContainers, t) := by
  obtain ⟨whole, ⟨failed, -, bare⟩ | ⟨passed, -⟩⟩ := adds_apply s t
  · rw [PodTemplate.extended_of_none bare] at whole
    exact Prod.ext failed whole
  · rw [passed] at h
    cases h

theorem apply_applied (s : EtcdSpec) (n : ℕ) (t : PodTemplate) :
    (s.apply (s.applied n t)).1 = (s.apply t).1 := by
  obtain ⟨-, later⟩ := adds_apply s (s.applied n t)
  rw [applied_eq, PodTemplate.primary?_extended_eq_none_iff, ← applied_eq] at later
  obtain ⟨-, ⟨failed, now⟩ | ⟨passed, free⟩⟩ := adds_apply s t
  · obtain ⟨failed', -⟩ | ⟨-, free'⟩ := later
    · rw [failed, failed']
    · exact absurd now free'
  · obtain ⟨-, now'⟩ | ⟨passed', -⟩ := later
    · exact absurd now' free
    · rw [passed, passed']

/-- Applying a storage fails exactly if it needs a container that is not there, and then leaves the
template alone; else its additions are appended, again at each repetition. The parameters agree with the
mount, and the stanza does not depend on names of secrets. Its text agrees with the mount exactly if no
value goes on, behind a line break, with a file that is not mounted. -/
theorem apply_agrees (s : EtcdSpec) :
    (∀ t : PodTemplate,
      ((∃ e, (s.apply t).1 = .error e) ↔
        (s.tlsSecret.isSome ∨ s.credentialSecret.isSome) ∧ t.primary? = none) ∧
      (∀ e, (s.apply t).1 = .error e → s.apply t = (.error noContainers, t)) ∧
      ∀ n, (s.apply (s.applied n t)).1 = (s.apply t).1 ∧
        s.applied n t = t.extended (s.additions.copies n)) ∧
    s.additions.FitsTls s.tlsSecret ∧ s.additions.FitsCredentials s.credentialSecret ∧
    (∀ tls credential : Option String, (nonEmpty tls).isSome = s.tlsSecret.isSome →
      { s with tlsSecretName := tls, credentialSecretName := credential }.stanza = s.stanza) ∧
    ((∃ p ∈ s.parameters, IsTlsName p.1.toList) ↔ s.additions.mounts ≠ []) ∧
    (∀ p ∈ s.parameters, IsTlsName p.1.toList →
      ∃ file, p.2 = tlsAsset file ∧ '/' ∉ file.toList) ∧
    (s.TextAgrees ↔ ∀ p ∈ s.parameters, ∀ line ∈ continued p.2, NamesTls line →
      s.additions.mounts ≠ [] ∧ InMount line) := by
  refine ⟨fun t => ⟨apply_error_iff s t, fun e => apply_of_error, fun n => ?_⟩, additions_fitsTls s,
    additions_fitsCredentials s, fun tls credential same => ?_, exists_tls_parameter_iff s,
    fun p hp own => ?_, textAgrees_iff s⟩
  · exact ⟨apply_applied s n t, applied_eq s n t⟩
  · have parameters_eq :
        { s with tlsSecretName := tls, credentialSecretName := credential }.parameters =
          s.parameters := by
      have named : ({ s with tlsSecretName := tls, credentialSecretName := credential } :
          EtcdSpec).tlsSecret.isSome = s.tlsSecret.isSome := same
      simp only [parameters, named]
    delta stanza
    rw [parameters_eq]
  · obtain ⟨-, file, hfile, value⟩ := tlsAsset_of_isTlsName hp own
    exact ⟨file, value, (tlsFile?_plain hfile).1⟩

theorem templated_agrees : templated.TextAgrees ∧ templated.additions.mounts ≠ [] := by
  have quiet : ∀ p ∈ templated.parameters, continued p.2 = [] := by decide
  refine ⟨(apply_agrees templated).2.2.2.2.2.2.2 fun p hp line later => ?_, by decide⟩
  rw [quiet p hp] at later
  exact absurd later List.not_mem_nil

/-- The address ends its line and names a file of its own. -/
def forgedCa : EtcdSpec where
  address := some "http://etcd:2379\"\ntls_ca_file = \"/tmp/ca.crt"

/-- The stanza names a file where nothing is mounted. -/
theorem forgedCa_unmounted :
    ¬ forgedCa.TextAgrees ∧ (∀ t : PodTemplate, forgedCa.apply t = (.ok (), t)) ∧
      ∃ line ∈ Text.lines forgedCa.stanza.toList,
        readLine upToFirstQuote line = some ("tls_ca_file", "/tmp/ca.crt") := by
  have here : "tls_ca_file = \"/tmp/ca.crt\"".toList ∈ Text.lines forgedCa.stanza.toList := by
    decide +kernel
  have named : NamesTls "tls_ca_file = \"/tmp/ca.crt\"".toList := ⟨"ca".toList, by decide⟩
  refine ⟨fun agrees => ?_, fun t => rfl, _, here, by decide⟩
  exact agrees.1.1 ⟨_, here, named⟩ (by decide)

end EtcdSpec
end RoleOperator
