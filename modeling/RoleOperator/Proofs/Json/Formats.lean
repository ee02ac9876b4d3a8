import Mathlib.Data.List.Forall2
import RoleOperator.Proofs.Json.Records
import RoleOperator.Role.Spec

/-!
# Formats

A format writes what a decoder reads. A part that has nothing to say is left out when it is written, and
read as nothing when it is left out; other parts are written in any case, with their defaults if they were
left out before.
-/
namespace RoleOperator

/-- The written form of the time is read as the time. -/
def Timestamp.ReadsBack (t : Timestamp) : Prop := read t.text = .ok t

namespace Json

variable {α β : Type} {es : List (String × Json)} {name k : String} {j : Json}

/-! ## Entries of parts that may be left out -/

@[simp] theorem lookup_optEntry (f : α → Json) (o : Option α) :
    lookup k (optEntry name f o) = if name = k then o.map f else none := by
  cases o <;> simp [optEntry, lookup]

@[simp] theorem lookup_unless (p : Prop) [Decidable p] :
    lookup k (if p then [] else [(name, j)]) =
      if name = k then if p then none else some j else none := by
  split <;> simp [lookup]

@[simp] theorem lookup_listEntry (xs : List String) : lookup k (listEntry name xs) =
    if name = k then if xs = [] then none else some (ofStrings xs) else none := by
  simp [listEntry]

theorem keys_optEntry (f : α → Json) (o : Option α) :
    ((optEntry name f o).map Prod.fst).Sublist [name] := by
  cases o <;> simp [optEntry]

theorem keys_unless (p : Prop) [Decidable p] :
    ((if p then [] else [(name, j)]).map Prod.fst).Sublist [name] := by
  split <;> simp

theorem keys_listEntry (xs : List String) :
    ((listEntry name xs).map Prod.fst).Sublist [name] := keys_unless (xs.isEmpty = true)

namespace Decode

/-- The part is left out, or null stands in its place. -/
def Absent (name : String) (es : List (String × Json)) : Prop :=
  lookup name es = none ∨ lookup name es = some .null

/-! ## Lists -/

theorem list_ok_iff {d : Decoder α} {js : List Json} {xs : List α} :
    list d (.array js) = .ok xs ↔ List.Forall₂ (fun j x => d j = .ok x) js xs := by
  change js.mapM d.ofJson = .ok xs ↔ _
  induction js generalizing xs with
  | nil =>
    rw [List.forall₂_nil_left_iff]
    exact ⟨fun h => (Except.ok.inj h).symm, fun h => congrArg Except.ok h.symm⟩
  | cons j rest ih =>
    simp only [List.mapM_cons, bind_ok_iff, ih, List.forall₂_cons_left_iff]
    constructor
    · rintro ⟨x, first, others, later, he⟩
      exact ⟨x, others, first, later, (Except.ok.inj he).symm⟩
    · rintro ⟨x, others, first, later, rfl⟩
      exact ⟨x, first, others, later, rfl⟩

/-- A list of written values is read as the list of the values. -/
theorem list_ok {d : Decoder α} {encode : α → Json} {xs : List α}
    (each : ∀ x ∈ xs, d (encode x) = .ok x) : list d (.array (xs.map encode)) = .ok xs := by
  rw [list_ok_iff, List.forall₂_map_left_iff, List.forall₂_same]
  exact each

theorem strings_ok (xs : List String) : list string (ofStrings xs) = .ok xs :=
  list_ok fun _ _ => rfl

namespace Fields

variable {f : Fields (α → β)} {x : Fields α} {g : α → β} {a : α} {d : Decoder α} {default : α}

/-! ## Parts that are there -/

theorem seq_build (hf : f.build es = .ok g) (hx : x.build es = .ok a) :
    (f <*> x).build es = .ok (g a) := seq_build_iff.2 ⟨g, hf, a, hx, rfl⟩

theorem map_build (hx : x.build es = .ok a) : (g <$> x).build es = .ok (g a) :=
  map_build_iff.2 ⟨a, hx, rfl⟩

theorem required_build (found : lookup name es = some j) (h : d j = .ok a) :
    (required name d).build es = .ok a := by
  simp only [required, found]
  exact h

theorem withDefault_build (found : lookup name es = some j) (h : d j = .ok a) :
    (withDefault name d default).build es = .ok a := by
  simp only [withDefault, found]
  exact h

theorem opt_build {encode : α → Json} {o : Option α} (found : lookup name es = o.map encode)
    (each : ∀ a, o = some a → optional d (encode a) = .ok (some a)) :
    (opt name d).build es = .ok o := by
  simp only [opt, found]
  cases o with
  | none => rfl
  | some a => exact each a rfl

theorem optString_build {o : Option String} (found : lookup name es = o.map .string) :
    (opt name string).build es = .ok o := opt_build found fun _ _ => rfl

theorem unless_build {xs : List α} (found : lookup name es = if xs = [] then none else some j)
    (h : list d j = .ok xs) :
    (withDefault name (list d) []).build es = .ok xs := by
  cases xs with
  | nil => simp [withDefault, found]
  | cons x rest => exact withDefault_build (by simp [found]) h

theorem exists_of_opt_build (h : (opt name d).build es = .ok (some a)) :
    ∃ j, lookup name es = some j ∧ d j = .ok a := by
  simp only [opt] at h
  split at h
  · next j found =>
    refine ⟨j, found, ?_⟩
    cases j with
    | null => cases h
    | bool | number | string | array | object =>
      obtain ⟨_, read, he⟩ := map_ok_iff.1 h
      cases he
      exact read
  · cases h

/-! ## Parts that are left out -/

theorem opt_absent {o : Option α} (absent : Absent name es) (h : (opt name d).build es = .ok o) :
    o = none := by
  rcases absent with absent | absent <;> simp only [opt, absent] at h <;> cases h <;> rfl

theorem list_absent {xs : List α} (absent : Absent name es)
    (h : (withDefault name (list d) []).build es = .ok xs) : xs = [] := by
  rcases absent with absent | absent <;> simp only [withDefault, absent] at h <;> cases h
  rfl

theorem withDefault_absent (absent : lookup name es = none)
    (h : (withDefault name d default).build es = .ok a) : a = default := by
  simp only [withDefault, absent] at h
  cases h
  rfl

end Fields

/-! ## Reading and writing -/

/-- A decoder, what writes the values it reads, and what becomes of their parts. -/
structure Format (α : Type) where
  decoder : Decoder α
  encode : α → Json
  /-- The names of all parts in the order of declaration. -/
  names : List String
  /-- The parts that are left out when they have nothing to say. -/
  optional : List String
  /-- The parts that are written in any case, with what they are if they were left out. -/
  defaults : List (String × Json)
  /-- The numbers have the width that they are read with. -/
  fits : α → Prop := fun _ => True
  /-- The times that are part of a value. -/
  times : α → List Timestamp := fun _ => []

namespace Format

/-- What is written is read as it was, and what was read stays as it is from then on. -/
structure Survives (f : Format α) : Prop where
  same : ∀ a, f.fits a → (∀ t ∈ f.times a, t.ReadsBack) → f.decoder (f.encode a) = .ok a
  again : ∀ j a, f.decoder j = .ok a → (∀ t ∈ f.times a, t.ReadsBack) →
    f.decoder (f.encode a) = .ok a
  absent : ∀ j a, f.decoder j = .ok a → ∀ name ∈ f.optional, Absent name (parts f.names j) →
    (f.encode a).field? name = none
  defaulted : ∀ j a, f.decoder j = .ok a → ∀ name value, (name, value) ∈ f.defaults →
    lookup name (parts f.names j) = none → (f.encode a).field? name = some value

end Format

end Decode
end Json
end RoleOperator
