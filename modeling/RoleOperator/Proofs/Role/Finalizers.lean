import RoleOperator.Role.Basic

/-!
# Finalizers of a role

A patch writes only what shows in the JSON form of a role. Of the finalizers everything shows.
-/
namespace RoleOperator

theorem Json.ofStrings_inj {xs ys : List String} :
    Json.ofStrings xs = Json.ofStrings ys ↔ xs = ys := by
  rw [Json.ofStrings, Json.ofStrings, Json.array.injEq]
  exact List.map_inj_right fun _ _ h => Json.string.inj h

theorem Json.optEntry_inj {α : Type} {name : String} {f : α → Json}
    (inj : ∀ x y, f x = f y ↔ x = y) {a b : Option α} :
    Json.optEntry name f a = Json.optEntry name f b ↔ a = b := by
  cases a <;> cases b <;> simp [Json.optEntry, inj]

namespace Role

variable {r : Role} {fs : List String}

theorem withFinalizers_toJson_eq :
    (r.withFinalizers fs).toJson = r.toJson ↔ r.metadata.finalizers = some fs := by
  have shown : (r.withFinalizers fs).toJson = r.toJson ↔
      Json.optEntry "finalizers" Json.ofStrings (some fs) =
        Json.optEntry "finalizers" Json.ofStrings r.metadata.finalizers := by
    simp [toJson, withFinalizers, Metadata.toJson, kind]
  rw [shown, Json.optEntry_inj fun _ _ => Json.ofStrings_inj]
  exact eq_comm

theorem addFinalizer_eq (r : Role) : r.addFinalizer = r.withFinalizers
    (if r.kind.finalizer ∈ r.metadata.finalizerList then r.metadata.finalizerList
      else r.metadata.finalizerList ++ [r.kind.finalizer]) := by
  by_cases held : r.kind.finalizer ∈ r.metadata.finalizerList
  · have present : r.metadata.finalizers = some r.metadata.finalizerList := by
      cases hf : r.metadata.finalizers with
      | none => simp [Metadata.finalizerList, hf] at held
      | some fs => simp [Metadata.finalizerList, hf]
    have already : r.hasFinalizer := List.contains_iff_mem.2 held
    rw [addFinalizer, if_pos already, if_pos held, withFinalizers, ← present]
  · have missing : ¬ r.hasFinalizer := fun h => held (List.contains_iff_mem.1 h)
    rw [addFinalizer, if_neg missing, if_neg held]

theorem hasFinalizer_addFinalizer (r : Role) : r.addFinalizer.hasFinalizer := by
  refine List.contains_iff_mem.2 ?_
  rw [addFinalizer_eq]
  change r.kind.finalizer ∈ (if _ then _ else _)
  split
  · assumption
  · exact List.mem_append_right _ (List.mem_singleton_self _)

/-- Taking the token off a role that carries it always shows. -/
theorem removeFinalizer_toJson_ne (h : r.hasFinalizer) : r.removeFinalizer.toJson ≠ r.toJson := by
  intro same
  have kept := withFinalizers_toJson_eq.1 same
  rw [hasFinalizer, Metadata.finalizerList, kept] at h
  simp at h

/-- On a role without the token a removal shows exactly if there is no list to take it from. -/
theorem removeFinalizer_toJson_eq (h : r.hasFinalizer = false) :
    r.removeFinalizer.toJson = r.toJson ↔ r.metadata.finalizers ≠ none := by
  have unheld : ¬ r.kind.finalizer ∈ r.metadata.finalizerList := by
    simpa [hasFinalizer, List.contains_iff_mem] using h
  have kept : r.metadata.finalizerList.filter (· ≠ r.kind.finalizer) = r.metadata.finalizerList := by
    apply List.filter_eq_self.2
    intro token listed
    have other : token ≠ r.kind.finalizer := by
      rintro rfl
      exact unheld listed
    simpa using other
  rw [removeFinalizer, withFinalizers_toJson_eq, kept]
  cases finalizers : r.metadata.finalizers with
  | none => simp
  | some fs => simp [Metadata.finalizerList, finalizers]

/-- An absent list becomes an empty one. -/
theorem removeFinalizer_of_none (h : r.metadata.finalizers = none) :
    r.removeFinalizer = r.withFinalizers [] := by
  simp [removeFinalizer, Metadata.finalizerList, h]

end Role
end RoleOperator
