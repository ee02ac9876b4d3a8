import Mathlib.Data.List.TakeDrop
import Mathlib.Data.List.TakeWhile
import RoleOperator.ObjectKey

/-!
# Texts of object keys

A text is read as the key that is written as that text, so different texts are read as different
keys.
-/
namespace RoleOperator.ObjectKey

/-- Reading a key and writing it again gives the same text. -/
theorem text_of_parse? {raw : String} {key : ObjectKey} (h : parse? raw = some key) :
    key.text = raw := by
  unfold parse? at h
  rw [List.span_eq_takeWhile_dropWhile] at h
  have hsplit : raw.toList.takeWhile (· ≠ '/') ++ raw.toList.dropWhile (· ≠ '/') = raw.toList :=
    List.takeWhile_append_dropWhile
  cases hrest : raw.toList.dropWhile (· ≠ '/') with
  | nil =>
    simp only [hrest, List.append_nil] at h hsplit
    split at h
    · cases h
    · cases h
      simp only [text]
      rw [hsplit, String.ofList_toList]
  | cons c second =>
    have hc : c = '/' := by
      have := List.head?_dropWhile_not (p := fun c => decide (c ≠ '/')) raw.toList
      rw [hrest] at this
      simpa using this
    subst hc
    simp only [hrest] at h hsplit
    split at h
    · cases h
    · cases h
      rw [← String.toList_inj]
      simpa [text] using hsplit

theorem eq_of_parse? {raw raw' : String} {key : ObjectKey} (h : parse? raw = some key)
    (h' : parse? raw' = some key) : raw = raw' :=
  (text_of_parse? h).symm.trans (text_of_parse? h')

variable {raw : String} {key : ObjectKey}

/-- What a namespace or a name has to be to stand in a written key. -/
def IsPart (s : String) : Prop := s ≠ "" ∧ '/' ∉ s.toList

/-- A key whose parts can be written. -/
structure WellFormed (key : ObjectKey) : Prop where
  ns : ∀ ns, key.ns = some ns → IsPart ns
  name : IsPart key.name

theorem isPart_ofList {cs : List Char} (some : cs ≠ []) (free : '/' ∉ cs) :
    IsPart (String.ofList cs) := by
  refine ⟨fun empty => some ?_, by rwa [String.toList_ofList]⟩
  simpa using congrArg String.toList empty

theorem IsPart.isEmpty {s : String} (h : IsPart s) : s.toList.isEmpty = false := by
  simpa using h.1

theorem IsPart.forall_ne {s : String} (h : IsPart s) : ∀ c ∈ s.toList, decide (c ≠ '/') :=
  fun c hc => by simpa using fun slash : c = '/' => h.2 (slash ▸ hc)

theorem parse?_name {name : String} (h : IsPart name) : parse? name = some ⟨none, name⟩ := by
  have whole : name.toList.span (· ≠ '/') = (name.toList, []) := by
    rw [List.span_eq_takeWhile_dropWhile, List.takeWhile_eq_self_iff.2 h.forall_ne,
      List.dropWhile_eq_nil_iff.2 h.forall_ne]
  unfold parse?
  rw [whole]
  simp [h.isEmpty]

theorem parse?_both {ns name : String} (hns : IsPart ns) (h : IsPart name) :
    parse? (ns ++ "/" ++ name) = some ⟨some ns, name⟩ := by
  have halves : (ns ++ "/" ++ name).toList.span (· ≠ '/') = (ns.toList, '/' :: name.toList) := by
    have whole : (ns ++ "/" ++ name).toList = ns.toList ++ '/' :: name.toList := by simp
    rw [whole, List.span_eq_takeWhile_dropWhile, List.takeWhile_append_of_pos hns.forall_ne,
      List.dropWhile_append_of_pos hns.forall_ne]
    simp
  unfold parse?
  rw [halves]
  simp [hns.isEmpty, h.isEmpty, h.2]

theorem wellFormed_of_parse? (h : parse? raw = some key) : key.WellFormed := by
  unfold parse? at h
  rw [List.span_eq_takeWhile_dropWhile] at h
  have free : '/' ∉ raw.toList.takeWhile (· ≠ '/') := fun hm => by
    simpa using List.mem_takeWhile_imp hm
  split at h
  · next first he =>
    obtain ⟨rfl, -⟩ := Prod.mk.inj he
    split at h
    · cases h
    · next some =>
      cases h
      exact ⟨by rintro ns ⟨⟩, isPart_ofList (by simpa using some) free⟩
  · next first c second he =>
    obtain ⟨rfl, -⟩ := Prod.mk.inj he
    split at h
    · cases h
    · next some =>
      cases h
      simp only [Bool.or_eq_true, not_or, List.isEmpty_iff, List.contains_eq_mem,
        decide_eq_true_eq] at some
      obtain ⟨⟨front, back⟩, single⟩ := some
      refine ⟨?_, isPart_ofList back single⟩
      rintro ns ⟨⟩
      exact isPart_ofList front free

theorem parse?_eq_some_iff : parse? raw = some key ↔ key.WellFormed ∧ key.text = raw := by
  refine ⟨fun h => ⟨wellFormed_of_parse? h, text_of_parse? h⟩, ?_⟩
  rintro ⟨⟨hns, hname⟩, rfl⟩
  obtain ⟨ns | ns, name⟩ := key
  · exact parse?_name hname
  · exact parse?_both (hns ns rfl) hname

theorem parse_eq_ok_iff : parse raw = .ok key ↔ parse? raw = some key := by
  unfold parse
  split
  · next k h => simp [h]
  · next h => simp [h]

/-- The texts of keys are the parts, and two parts with a slash between them. -/
theorem exists_wellFormed_iff : (∃ key : ObjectKey, key.WellFormed ∧ key.text = raw) ↔
    IsPart raw ∨ ∃ ns name, IsPart ns ∧ IsPart name ∧ raw = ns ++ "/" ++ name := by
  constructor
  · rintro ⟨⟨ns | ns, name⟩, ⟨hns, hname⟩, rfl⟩
    · exact Or.inl hname
    · exact Or.inr ⟨ns, name, hns ns rfl, hname, rfl⟩
  · rintro (h | ⟨ns, name, hns, h, rfl⟩)
    · exact ⟨⟨none, raw⟩, ⟨by rintro ns ⟨⟩, h⟩, rfl⟩
    · refine ⟨⟨some ns, name⟩, ⟨?_, h⟩, rfl⟩
      rintro _ ⟨⟩
      exact hns

end RoleOperator.ObjectKey

