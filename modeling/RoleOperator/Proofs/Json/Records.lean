import RoleOperator.Json.Decode

/-!
# Records

What is asked of the entries of a record, field by field. Reading a record and putting it together from
its parts come to the same, and a list of entries without a name twice that the parts can be put together
from is read as that record.
-/
namespace RoleOperator.Json

variable {α β : Type} {es es' : List (String × Json)} {name : String} {j : Json}

theorem bind_ok_iff {ε : Type} {x : Except ε α} {f : α → Except ε β} {b : β} :
    x >>= f = .ok b ↔ ∃ a, x = .ok a ∧ f a = .ok b := by
  cases x <;> simp [Bind.bind, Except.bind]

theorem map_ok_iff {ε : Type} {x : Except ε α} {f : α → β} {b : β} :
    x.map f = .ok b ↔ ∃ a, x = .ok a ∧ f a = b := by
  cases x <;> simp [Except.map]

/-! ## Entries -/

@[simp] theorem lookup_append (name : String) (es es' : List (String × Json)) :
    lookup name (es ++ es') = (lookup name es').or (lookup name es) := by
  induction es with
  | nil => simp [lookup]
  | cons e rest ih =>
    obtain ⟨k, j⟩ := e
    simp only [List.cons_append, lookup, ih]
    cases lookup name es' <;> simp

theorem lookup_eq_none_iff : lookup name es = none ↔ name ∉ es.map Prod.fst := by
  induction es with
  | nil => simp [lookup]
  | cons e rest ih =>
    obtain ⟨k, j⟩ := e
    simp only [lookup, Option.orElse_eq_or, Option.or_eq_none_iff, ih, List.map_cons,
      List.mem_cons, not_or]
    rw [and_comm]
    simp [eq_comm]

theorem lookup_of_mem (distinct : (es.map Prod.fst).Nodup) (h : (name, j) ∈ es) :
    lookup name es = some j := by
  induction es with
  | nil => cases h
  | cons e rest ih =>
    obtain ⟨k, i⟩ := e
    obtain ⟨fresh, others⟩ := List.nodup_cons.1 distinct
    rcases List.mem_cons.1 h with he | later
    · cases he
      have none : lookup name rest = none := lookup_eq_none_iff.2 fresh
      simp [lookup, none]
    · simp [lookup, ih others later]

namespace Decode.Fields

/-! ## Putting a record together -/

variable {f : Fields (α → β)} {x : Fields α} {fields : List Field} {seen : List String} {a : α}
  {b : β} {unique : Bool}

theorem seq_build_iff : (f <*> x).build es = .ok b ↔
    ∃ g, f.build es = .ok g ∧ ∃ a, x.build es = .ok a ∧ g a = b := by
  have whole : (f <*> x).build es =
      f.build es >>= fun g => x.build es >>= fun a => .ok (g a) := rfl
  simp only [whole, bind_ok_iff, Except.ok.injEq]

theorem map_build_iff {f : α → β} :
    (f <$> x).build es = .ok b ↔ ∃ a, x.build es = .ok a ∧ f a = b := by
  have whole : (f <$> x).build es = x.build es >>= fun a => .ok (f a) := rfl
  simp only [whole, bind_ok_iff, Except.ok.injEq]

/-- The entry passes the check of the field, and is not missing where it is required. -/
def Answers (es : List (String × Json)) (f : Field) : Prop :=
  (∀ j, lookup f.name es = some j → f.check j = .ok ()) ∧
    (lookup f.name es = none → f.absence ≠ .refused)

/-- Only from entries that answer all fields a record can be put together. -/
def Lawful (x : Fields α) : Prop := ∀ es a, x.build es = .ok a → ∀ f ∈ x.fields, Answers es f

theorem check_of_ok {d : Decoder α} (h : d j = .ok a) : d.check j = .ok () := by
  simp [Decoder.check, h, Except.map]

theorem lawful_required (name : String) (d : Decoder α) : (required name d).Lawful := by
  intro es a build f hf
  obtain rfl := List.mem_singleton.1 hf
  simp only [required] at build
  cases found : lookup name es with
  | none => simp [found] at build
  | some j =>
    rw [found] at build
    refine ⟨fun i hi => ?_, fun none => ?_⟩
    · obtain rfl : j = i := Option.some.inj (found.symm.trans hi)
      exact check_of_ok build
    · cases found.symm.trans none

theorem lawful_opt (name : String) (d : Decoder α) : (opt name d).Lawful := by
  intro es a build f hf
  obtain rfl := List.mem_singleton.1 hf
  refine ⟨fun i hi => ?_, by rintro - ⟨⟩⟩
  have found : lookup name es = some i := hi
  simp only [opt, found] at build
  exact check_of_ok build

theorem lawful_withDefault (name : String) (d : Decoder α) (default : α) :
    (withDefault name d default).Lawful := by
  intro es a build f hf
  obtain rfl := List.mem_singleton.1 hf
  refine ⟨fun i hi => ?_, by rintro - ⟨⟩⟩
  have found : lookup name es = some i := hi
  simp only [withDefault, found] at build
  exact check_of_ok build

theorem Lawful.map (h : x.Lawful) (f : α → β) : (f <$> x).Lawful := by
  intro es b build g hg
  obtain ⟨a, one, -⟩ := map_build_iff.1 build
  exact h es a one g hg

theorem Lawful.seq (hf : f.Lawful) (hx : x.Lawful) : (f <*> x).Lawful := by
  intro es b build g hg
  obtain ⟨k, one, a, other, -⟩ := seq_build_iff.1 build
  rcases List.mem_append.1 hg with hg | hg
  · exact hf es k one g hg
  · exact hx es a other g hg

/-! ## Reading a record -/

theorem visit_ok (distinct : (es.map Prod.fst).Nodup) (fresh : ∀ e ∈ es, e.1 ∉ seen)
    (checks : ∀ e ∈ es, ∀ f ∈ fields, f.name = e.1 → f.check e.2 = .ok ()) :
    visit fields unique seen es = .ok () := by
  induction es generalizing seen with
  | nil => rfl
  | cons e rest ih =>
    obtain ⟨k, j⟩ := e
    obtain ⟨single, others⟩ := List.nodup_cons.1 distinct
    obtain ⟨new, news⟩ := List.forall_mem_cons.1 fresh
    obtain ⟨check, later⟩ := List.forall_mem_cons.1 checks
    rw [visit]
    cases found : fields.find? (·.name = k) with
    | none => exact ih others news later
    | some f =>
      have named : f.name = k := by simpa using List.find?_some found
      have once : seen.contains k = false := by simpa using new
      have passed : f.check j = .ok () := check f (List.mem_of_find?_eq_some found) named
      have apart : ∀ e ∈ rest, e.1 ∉ k :: seen := by
        intro e he hk
        rcases List.mem_cons.1 hk with rfl | hk
        · exact single (List.mem_map.2 ⟨e, he, rfl⟩)
        · exact news e he hk
      simp only [once, Bool.and_false, Bool.false_eq_true, if_false, passed]
      exact ih others apart later

/-- Entries without a name twice from which a record can be put together are read as that record. -/
theorem ofEntries_of_build (lawful : x.Lawful) (distinct : (es.map Prod.fst).Nodup)
    (build : x.build es = .ok a) : x.ofEntries unique es = .ok a := by
  have answers := lawful es a build
  have visited : visit x.fields unique [] es = .ok () := by
    refine visit_ok distinct (fun _ _ => List.not_mem_nil) fun e he f hf named => ?_
    refine (answers f hf).1 e.2 ?_
    rw [named]
    exact lookup_of_mem distinct he
  have complete : missing? x.fields es = none := by
    simp only [missing?, Option.map_eq_none_iff, List.find?_eq_none]
    intro f hf missing
    simp only [Bool.and_eq_true, decide_eq_true_eq, Option.isNone_iff_eq_none] at missing
    exact (answers f hf).2 missing.2 missing.1
  simp only [ofEntries, visited, complete]
  exact build

theorem build_of_ofEntries (h : x.ofEntries unique es = .ok a) : x.build es = .ok a := by
  obtain ⟨_, -, built⟩ := bind_ok_iff.1 h
  split at built
  · cases built
  · exact built

/-- Fields by position are the names with the items. -/
theorem byPosition_eq {expected : String} {n : Nat} {xs : List Json}
    (h : byPosition expected n fields xs = .ok es) : es = (fields.map Field.name).zip xs := by
  induction fields generalizing n xs es with
  | nil =>
    simp only [byPosition] at h
    split at h
    · cases h
      rfl
    · cases h
  | cons f fs ih =>
    cases xs with
    | nil =>
      simp only [byPosition] at h
      split at h
      · rw [ih h]
        simp
      · cases h
    | cons j rest =>
      obtain ⟨_, -, later⟩ := bind_ok_iff.1 h
      obtain ⟨es', placed, he⟩ := bind_ok_iff.1 later
      cases he
      rw [ih placed]
      rfl

end Decode.Fields

namespace Decode

open Fields (Lawful)

variable {x : Fields α} {a : α}

/-- The parts of a record whose fields have these names, in an object or by position. -/
def parts (names : List String) : Json → List (String × Json)
  | .object es => es
  | .array xs => names.zip xs
  | _ => []

theorem build_of_record (h : record name x j = .ok a) :
    x.build (parts (x.fields.map Field.name) j) = .ok a := by
  cases j with
  | object es => exact Fields.build_of_ofEntries h
  | array xs =>
    obtain ⟨es, placed, built⟩ := bind_ok_iff.1 h
    rw [Fields.byPosition_eq placed] at built
    exact built
  | null | bool | number | string => cases h

theorem record_of_build (lawful : x.Lawful) (distinct : (es.map Prod.fst).Nodup)
    (build : x.build es = .ok a) : record name x (.object es) = .ok a :=
  Fields.ofEntries_of_build lawful distinct build

end Decode
end RoleOperator.Json
