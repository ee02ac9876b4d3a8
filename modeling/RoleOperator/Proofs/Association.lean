import Mathlib.Algebra.Ring.Nat

/-!
# Lists by key

Association lists, where a new entry is put in front and takes the place of an older one, lists of keys
and histories, where the new one comes last, and lists by position, where one entry is put in the place
of another.
-/
namespace RoleOperator

variable {α β : Type} [BEq α] [LawfulBEq α] [DecidableEq α]

theorem lookup_filter_ne (entries : List (α × β)) (a b : α) :
    (entries.filter (·.1 ≠ b)).lookup a = if a = b then none else entries.lookup a := by
  induction entries with
  | nil => simp
  | cons e rest ih =>
    obtain ⟨c, x⟩ := e
    by_cases hc : c = b
    · subst hc
      rw [List.filter_cons_of_neg (by simp), ih]
      split
      · rfl
      · next hne => rw [List.lookup_cons, beq_false_of_ne hne]
    · rw [List.filter_cons_of_pos (by simpa using hc), List.lookup_cons, List.lookup_cons, ih]
      by_cases ha : a = c
      · subst ha
        simp [hc]
      · simp [beq_false_of_ne ha]

theorem lookup_replace (entries : List (α × β)) (a b : α) (x : β) :
    ((b, x) :: entries.filter (·.1 ≠ b)).lookup a = if a = b then some x else entries.lookup a := by
  rw [List.lookup_cons, lookup_filter_ne]
  by_cases h : a = b
  · simp [h]
  · simp [h, beq_false_of_ne h]

theorem nodup_snoc {γ : Type} {keys : List γ} {key : γ} (h : keys.Nodup) (hk : key ∉ keys) :
    (keys ++ [key]).Nodup :=
  (List.perm_append_singleton key keys).nodup_iff.2 (List.nodup_cons.2 ⟨hk, h⟩)

omit [BEq α] [LawfulBEq α] in
theorem filter_ne_of_not_mem {keys : List α} {key : α} (h : key ∉ keys) :
    keys.filter (· ≠ key) = keys := by
  refine List.filter_eq_self.2 fun k hk => ?_
  rw [decide_eq_true_eq]
  rintro rfl
  exact h hk

omit [BEq α] [LawfulBEq α] in
theorem length_filter_ne {keys : List α} {key : α} (h : keys.Nodup) (hk : key ∈ keys) :
    (keys.filter (· ≠ key)).length + 1 = keys.length := by
  induction keys with
  | nil => cases hk
  | cons k rest ih =>
    obtain ⟨fresh, distinct⟩ := List.nodup_cons.1 h
    by_cases he : k = key
    · subst he
      rw [List.filter_cons_of_neg (by simp), filter_ne_of_not_mem fresh, List.length_cons]
    · have later : key ∈ rest := (List.mem_cons.1 hk).resolve_left fun h => he h.symm
      rw [List.filter_cons_of_pos (by simpa using he), List.length_cons, ih distinct later,
        List.length_cons]

omit [BEq α] [LawfulBEq α] [DecidableEq α] in
/-- What relates each entry of a history to those before it does so for one more entry. -/
theorem forall_split_snoc {P : List α → α → Prop} {xs : List α} {x : α}
    (h : ∀ before y after, xs = before ++ y :: after → P before y) (hx : P xs x) :
    ∀ before y after, xs ++ [x] = before ++ y :: after → P before y := by
  intro before y after he
  rcases List.eq_nil_or_concat after with rfl | ⟨rest, last, rfl⟩
  · obtain ⟨rfl, hy⟩ := List.append_inj' he rfl
    obtain rfl : x = y := List.singleton_inj.1 hy
    exact hx
  · rw [List.concat_eq_append, ← List.cons_append, ← List.append_assoc] at he
    exact h before y rest (List.append_inj' he rfl).1

section Positions

variable {γ : Type} {xs : List γ} {i : Nat} {x : γ}

theorem getElem?_set_of (was : xs[i]? = some x) (y : γ) (j : Nat) :
    (xs.set i y)[j]? = if i = j then some y else xs[j]? := by
  obtain ⟨hi, _⟩ := List.getElem?_eq_some_iff.1 was
  rw [List.getElem?_set, if_pos hi]

theorem sum_map_set (f : γ → Nat) (was : xs[i]? = some x) (y : γ) :
    ((xs.set i y).map f).sum + f x = (xs.map f).sum + f y := by
  obtain ⟨hi, rfl⟩ := List.getElem?_eq_some_iff.1 was
  obtain ⟨before, after, whole, -, changed⟩ := @List.exists_of_set γ i y xs hi
  rw [changed]
  generalize xs[i] = x at whole ⊢
  subst whole
  simp only [List.map_append, List.map_cons, List.sum_append, List.sum_cons]
  omega

end Positions

end RoleOperator
