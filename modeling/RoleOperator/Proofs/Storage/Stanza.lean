import Mathlib.Data.List.Basic
import RoleOperator.Proofs.Text.Lines
import RoleOperator.Storage.Etcd

/-!
# Stanza of the storage

A stanza is read back line by line. What is read are the parameters exactly if no value has a line break,
and no quote either for a reader to whom the first quote ends a value. Values are written as they are,
so that one with a break and quotes can pass for two parameters.
-/
namespace RoleOperator.EtcdSpec

variable {s : EtcdSpec}

/-! ## Parameters -/

/-- Names of the parameters, in the order in which they are written. -/
def settingNames : List String :=
  ["address", "etcd_api", "path", "discovery_srv", "ha_enabled", "sync", "tls_ca_file",
    "tls_cert_file", "tls_key_file"]

/-- The file of the TLS secret behind a parameter. -/
def tlsFile? (name : String) : Option String :=
  if name = "tls_ca_file" then some "ca.crt"
  else if name = "tls_cert_file" then some "tls.crt"
  else if name = "tls_key_file" then some "tls.key"
  else none

/-- What a parameter is set to, if it is present. -/
def setting? (s : EtcdSpec) (name : String) : Option String :=
  if name = "address" then nonEmpty s.address
  else if name = "etcd_api" then nonEmpty s.etcdApi
  else if name = "path" then nonEmpty s.path
  else if name = "discovery_srv" then nonEmpty s.discoverySrv
  else if name = "ha_enabled" then some (toString s.haEnable)
  else if name = "sync" then some (toString s.sync)
  else s.tlsSecret.bind fun _ => (tlsFile? name).map tlsAsset

theorem filterMap_cons_toList {α β : Type} (f : α → Option β) (x : α) (xs : List α) :
    (x :: xs).filterMap f = (f x).toList ++ xs.filterMap f := by
  cases h : f x <;> simp [h]

/-- Each parameter that is present is written once, in its place. -/
theorem parameters_eq (s : EtcdSpec) :
    s.parameters = settingNames.filterMap fun name => (s.setting? name).map (name, ·) := by
  simp only [settingNames, filterMap_cons_toList]
  cases h : s.tlsSecret <;> simp [parameters, setting?, tlsFile?, Option.toList_map, h]

theorem mem_parameters {p : String × String} :
    p ∈ s.parameters ↔ p.1 ∈ settingNames ∧ s.setting? p.1 = some p.2 := by
  rw [parameters_eq, List.mem_filterMap]
  constructor
  · intro ⟨name, listed, found⟩
    obtain ⟨v, hv, rfl⟩ := Option.map_eq_some_iff.1 found
    exact ⟨listed, hv⟩
  · intro ⟨listed, found⟩
    exact ⟨p.1, listed, by simp [found]⟩

theorem parameters_ne_nil (s : EtcdSpec) : s.parameters ≠ [] := by
  have listed : "sync" ∈ settingNames := by decide
  have sync : ("sync", toString s.sync) ∈ s.parameters := mem_parameters.2 ⟨listed, rfl⟩
  exact List.ne_nil_of_mem sync

/-! ## Lines -/

/-- The first line of a stanza. -/
def opening : List Char := "storage \"etcd\" \x7b".toList

/-- The last line of a stanza. -/
def closing : List Char := ['\x7d']

def lineOf (p : String × String) : List Char := (parameterLine p).toList

theorem lineOf_eq (p : String × String) :
    lineOf p = p.1.toList ++ ' ' :: '=' :: ' ' :: '"' :: (p.2.toList ++ ['"']) := by
  simp [lineOf, parameterLine]

theorem toList_stanza (s : EtcdSpec) :
    s.stanza.toList =
      [] ++ '\n' :: (opening ++ '\n' :: (['\n'].intercalate (s.parameters.map lineOf) ++
        '\n' :: (closing ++ '\n' :: []))) := by
  have front : "\nstorage \"etcd\" \x7b\n".toList = '\n' :: (opening ++ ['\n']) := by decide
  have back : "\n\x7d\n".toList = '\n' :: (closing ++ ['\n']) := by decide
  have mark : "\n".toList = ['\n'] := by decide
  delta stanza
  rw [String.toList_append, String.toList_append, front, back, String.toList_intercalate, mark,
    List.map_map]
  simp only [List.nil_append, List.cons_append, List.append_assoc]
  rfl

/-- A line break in a value begins another line. -/
theorem lines_stanza (s : EtcdSpec) :
    Text.lines s.stanza.toList =
      [] :: opening :: (s.parameters.flatMap fun p => Text.lines (lineOf p)) ++ [closing, []] := by
  have listed : s.parameters.map lineOf ≠ [] := by simpa using s.parameters_ne_nil
  have first : Text.lines opening = [opening] := Text.lines_of_not_mem (by decide)
  have last : Text.lines closing = [closing] := Text.lines_of_not_mem (by decide)
  rw [toList_stanza]
  simp only [Text.lines_break, Text.lines_intercalate listed, first, last, List.flatMap_map]
  rfl

theorem name_plain {name : String} (h : name ∈ settingNames) :
    ' ' ∉ name.toList ∧ '\n' ∉ name.toList := by
  revert name
  decide

/-- No value of a parameter has a line break. -/
def Unbroken (s : EtcdSpec) : Prop := ∀ p ∈ s.parameters, '\n' ∉ p.2.toList

theorem newline_not_mem_lineOf {p : String × String} (hp : p ∈ s.parameters) :
    '\n' ∉ lineOf p ↔ '\n' ∉ p.2.toList := by
  have named := (name_plain (mem_parameters.1 hp).1).2
  rw [lineOf_eq]
  simp [named]

theorem lines_of_unbroken (h : s.Unbroken) :
    (s.parameters.flatMap fun p => Text.lines (lineOf p)) = s.parameters.map lineOf := by
  have one : ∀ p ∈ s.parameters, Text.lines (lineOf p) = [lineOf p] := fun p hp =>
    Text.lines_of_not_mem ((newline_not_mem_lineOf hp).2 (h p hp))
  rw [List.flatMap_congr one, ← List.map_eq_flatMap]

/-- The stanza has one line for each parameter exactly if no value has a line break. -/
theorem lines_stanza_iff (s : EtcdSpec) :
    Text.lines s.stanza.toList = [] :: opening :: s.parameters.map lineOf ++ [closing, []] ↔
      s.Unbroken := by
  constructor
  · intro h p hp
    have here : lineOf p ∈ Text.lines s.stanza.toList := by
      rw [h]
      simp [List.mem_map_of_mem hp]
    exact (newline_not_mem_lineOf hp).1 (Text.not_mem_of_mem_lines here)
  · intro unbroken
    rw [lines_stanza, lines_of_unbroken unbroken]

/-! ## Reading -/

/-- The text up to the quote at its end. -/
def upToLastQuote (cs : List Char) : Option (List Char) :=
  if cs.getLast? = some '"' then some cs.dropLast else none

/-- The text up to its first quote, which has to be its end. -/
def upToFirstQuote (cs : List Char) : Option (List Char) :=
  match Text.cut '"' cs with
  | (value, some []) => some value
  | _ => none

/-- The name and the value on a line; `unquote` finds the value behind its first quote. -/
def readLine (unquote : List Char → Option (List Char)) (line : List Char) :
    Option (String × String) :=
  match Text.cut ' ' line with
  | (name, some ('=' :: ' ' :: '"' :: quoted)) =>
    (unquote quoted).map fun value => (String.ofList name, String.ofList value)
  | _ => none

/-- The parameters of a stanza, line by line. Empty lines do not count. -/
def readStanza (unquote : List Char → Option (List Char)) (text : String) :
    Option (List (String × String)) :=
  match (Text.lines text.toList).filter (· ≠ []) with
  | first :: rest =>
    if first = opening ∧ rest.getLast? = some closing then rest.dropLast.mapM (readLine unquote)
    else none
  | [] => none

theorem mem_of_mapM_eq_some {α β : Type} {f : α → Option β} {xs : List α} {ys : List β}
    (h : xs.mapM f = some ys) {y : β} (hy : y ∈ ys) : ∃ x ∈ xs, f x = some y := by
  induction xs generalizing ys with
  | nil =>
    obtain rfl : ys = [] := by simpa using h.symm
    exact absurd hy List.not_mem_nil
  | cons x xs ih =>
    simp only [List.mapM_cons, Option.bind_eq_bind, Option.bind_eq_some_iff] at h
    obtain ⟨first, hx, rest, hxs, whole⟩ := h
    obtain rfl : first :: rest = ys := by simpa using whole
    rcases List.mem_cons.1 hy with rfl | later
    · exact ⟨x, List.mem_cons_self, hx⟩
    · obtain ⟨x', hx', hf⟩ := ih hxs later
      exact ⟨x', List.mem_cons_of_mem _ hx', hf⟩

theorem mapM_map_eq_some_iff {α β : Type} {f : β → Option α} {g : α → β} {xs : List α} :
    (xs.map g).mapM f = some xs ↔ ∀ x ∈ xs, f (g x) = some x := by
  induction xs with
  | nil => simp
  | cons x xs ih =>
    rw [List.map_cons, List.mapM_cons]
    cases hx : f (g x) with
    | none => simp [hx]
    | some y =>
      cases hxs : (xs.map g).mapM f with
      | none =>
        have rest : ¬ ∀ x ∈ xs, f (g x) = some x := by
          rw [← ih, hxs]
          simp
        simp [hx, rest]
      | some ys => simp [hx, ← ih, hxs]

theorem upToLastQuote_append (v : List Char) : upToLastQuote (v ++ ['"']) = some v := by
  simp [upToLastQuote]

theorem upToFirstQuote_append (v : List Char) : upToFirstQuote (v ++ ['"']) = some v ↔ '"' ∉ v := by
  constructor
  · intro h
    have free := Text.not_mem_cut '"' (v ++ ['"'])
    unfold upToFirstQuote at h
    split at h
    · next value divided =>
      obtain rfl : value = v := by simpa using h
      rwa [divided] at free
    · cases h
  · intro free
    simp [upToFirstQuote, Text.cut_of_mem [] free]

theorem readLine_lineOf (unquote : List Char → Option (List Char)) {p : String × String}
    (hp : p ∈ s.parameters) :
    readLine unquote (lineOf p) = some p ↔ unquote (p.2.toList ++ ['"']) = some p.2.toList := by
  have named := (name_plain (mem_parameters.1 hp).1).1
  rw [lineOf_eq, readLine, Text.cut_of_mem _ named]
  cases h : unquote (p.2.toList ++ ['"']) with
  | none => simp [h]
  | some value =>
    obtain ⟨name, v⟩ := p
    simp [h, ← String.toList_inj]

/-- What is read of a line stands on it. -/
theorem subset_of_readLine {unquote : List Char → Option (List Char)}
    (inner : ∀ {cs v}, unquote cs = some v → v ⊆ cs) {line : List Char} {p : String × String}
    (h : readLine unquote line = some p) : p.2.toList ⊆ line := by
  unfold readLine at h
  split at h
  · next name quoted divided =>
    obtain ⟨value, found, rfl⟩ := Option.map_eq_some_iff.1 h
    intro c hc
    have here : c ∈ quoted := inner found (by simpa using hc)
    simp [Text.eq_of_cut divided, here]
  · cases h

theorem readStanza_stanza (unquote : List Char → Option (List Char)) (s : EtcdSpec) :
    readStanza unquote s.stanza =
      ((s.parameters.flatMap fun p => Text.lines (lineOf p)).filter (· ≠ [])).mapM
        (readLine unquote) := by
  have first : opening ≠ [] := by decide
  have last : closing ≠ [] := by decide
  simp [readStanza, lines_stanza, first, last]

/-- The parameters are read back exactly if no value has a line break and each is found between its
quotes. -/
theorem readStanza_iff {unquote : List Char → Option (List Char)}
    (inner : ∀ {cs v}, unquote cs = some v → v ⊆ cs) (s : EtcdSpec) :
    readStanza unquote s.stanza = some s.parameters ↔
      s.Unbroken ∧ ∀ p ∈ s.parameters, unquote (p.2.toList ++ ['"']) = some p.2.toList := by
  rw [readStanza_stanza]
  have unbroken_of (h : ((s.parameters.flatMap fun p => Text.lines (lineOf p)).filter
      (· ≠ [])).mapM (readLine unquote) = some s.parameters) : s.Unbroken := by
    intro p hp broken
    obtain ⟨line, here, found⟩ := mem_of_mapM_eq_some h hp
    obtain ⟨q, -, onLine⟩ := List.mem_flatMap.1 (List.mem_of_mem_filter here)
    exact Text.not_mem_of_mem_lines onLine (subset_of_readLine inner found broken)
  have each (unbroken : s.Unbroken) :
      (s.parameters.flatMap fun p => Text.lines (lineOf p)).filter (· ≠ []) =
        s.parameters.map lineOf := by
    rw [lines_of_unbroken unbroken, List.filter_eq_self]
    intro line hl
    obtain ⟨p, -, rfl⟩ := List.mem_map.1 hl
    simp [lineOf_eq]
  constructor
  · intro h
    have unbroken := unbroken_of h
    rw [each unbroken, mapM_map_eq_some_iff] at h
    exact ⟨unbroken, fun p hp => (readLine_lineOf unquote hp).1 (h p hp)⟩
  · rintro ⟨unbroken, h⟩
    rw [each unbroken, mapM_map_eq_some_iff]
    exact fun p hp => (readLine_lineOf unquote hp).2 (h p hp)

theorem upToLastQuote_subset {cs v : List Char} (h : upToLastQuote cs = some v) : v ⊆ cs := by
  unfold upToLastQuote at h
  split at h
  · obtain rfl := Option.some.inj h
    exact List.dropLast_subset cs
  · cases h

theorem upToFirstQuote_subset {cs v : List Char} (h : upToFirstQuote cs = some v) : v ⊆ cs := by
  unfold upToFirstQuote at h
  split at h
  · next value divided =>
    obtain rfl := Option.some.inj h
    rw [Text.eq_of_cut divided]
    exact List.subset_append_left value _
  · cases h

/-! ## Faithfulness -/

/-- Each parameter that is present is written once, in its place. It has a line of its own, and is read
back from it, exactly if no value has a line break, nor a quote if values end at their first quote; and
stanzas without such values are the same for the same parameters only. -/
theorem stanza_faithful (s : EtcdSpec) :
    (s.parameters = settingNames.filterMap fun name => (s.setting? name).map (name, ·)) ∧
    (Text.lines s.stanza.toList = [] :: opening :: s.parameters.map lineOf ++ [closing, []] ↔
      s.Unbroken) ∧
    (readStanza upToLastQuote s.stanza = some s.parameters ↔ s.Unbroken) ∧
    (readStanza upToFirstQuote s.stanza = some s.parameters ↔
      s.Unbroken ∧ ∀ p ∈ s.parameters, '"' ∉ p.2.toList) ∧
    (s.Unbroken → ∀ t : EtcdSpec, t.Unbroken →
      (s.stanza = t.stanza ↔ s.parameters = t.parameters)) := by
  have last (t : EtcdSpec) : readStanza upToLastQuote t.stanza = some t.parameters ↔ t.Unbroken := by
    rw [readStanza_iff upToLastQuote_subset]
    simp only [upToLastQuote_append, implies_true, and_true]
  have first : readStanza upToFirstQuote s.stanza = some s.parameters ↔
      s.Unbroken ∧ ∀ p ∈ s.parameters, '"' ∉ p.2.toList := by
    simp only [readStanza_iff upToFirstQuote_subset, upToFirstQuote_append]
  refine ⟨parameters_eq s, lines_stanza_iff s, last s, first, fun hs t ht => ⟨fun h => ?_, fun h => ?_⟩⟩
  · have reads : some s.parameters = some t.parameters := by
      rw [← (last s).2 hs, ← (last t).2 ht, h]
    exact Option.some.inj reads
  · delta stanza
    rw [h]

/-- A server behind a gateway, with braces and an equals sign in its texts. -/
def templated : EtcdSpec where
  address := some "http://{etcd}:2379?zone=a b"
  path := some "vault/"
  tlsSecretName := some "etcd-tls"

theorem templated_faithful :
    templated.Unbroken ∧ readStanza upToFirstQuote templated.stanza = some templated.parameters := by
  have plain : ∀ p ∈ templated.parameters, '\n' ∉ p.2.toList ∧ '"' ∉ p.2.toList := by decide
  have unbroken : templated.Unbroken := fun p hp => (plain p hp).1
  exact ⟨unbroken, (stanza_faithful templated).2.2.2.1.2 ⟨unbroken, fun p hp => (plain p hp).2⟩⟩

def honest : EtcdSpec where
  address := some "http://etcd:2379"
  path := some "other/"

/-- The address ends its line and writes another one. -/
def forged : EtcdSpec where
  address := some "http://etcd:2379\"\npath = \"other/"

/-- The forged path cannot be told from one that was set. -/
theorem forged_passes :
    forged.stanza = honest.stanza ∧ forged.parameters ≠ honest.parameters ∧
      ¬ ∃ read : String → List (String × String), ∀ s : EtcdSpec, read s.stanza = s.parameters := by
  have same : forged.stanza = honest.stanza := by rfl
  have differ : forged.parameters ≠ honest.parameters := by decide
  refine ⟨same, differ, fun ⟨read, faithful⟩ => differ ?_⟩
  rw [← faithful forged, ← faithful honest, same]

end RoleOperator.EtcdSpec
