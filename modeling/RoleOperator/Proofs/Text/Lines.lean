import Mathlib.Data.List.TakeWhile
import RoleOperator.Text.Pieces

/-!
# Lines

The lines of a text are its pieces between line breaks. A text that is put together from texts with line
breaks between them has the lines of these texts, and no line holds a break.
-/
namespace RoleOperator.Text

variable {cs ds : List Char} {mark : Char}

theorem pieces_eq_splitOnP (p : Char → Bool) (cs : List Char) : pieces p cs = cs.splitOnP p := by
  induction cs with
  | nil => rfl
  | cons c cs ih =>
    rw [pieces, ih, List.splitOnP_cons_eq_if_modifyHead]
    obtain ⟨first, rest, whole⟩ := List.exists_cons_of_ne_nil (List.splitOnP_ne_nil p cs)
    rw [whole, List.modifyHead_cons]

def lines (cs : List Char) : List (List Char) := pieces (· = '\n') cs

theorem lines_eq_splitOnP (cs : List Char) : lines cs = cs.splitOnP (· = '\n') :=
  pieces_eq_splitOnP _ cs

theorem lines_ne_nil (cs : List Char) : lines cs ≠ [] := by
  rw [lines_eq_splitOnP]
  exact List.splitOnP_ne_nil _ cs

theorem lines_break (cs ds : List Char) : lines (cs ++ '\n' :: ds) = lines cs ++ lines ds := by
  simp only [lines_eq_splitOnP]
  exact List.splitOnP_append_cons cs ds (by simp)

theorem lines_of_not_mem (h : '\n' ∉ cs) : lines cs = [cs] := by
  rw [lines_eq_splitOnP]
  refine List.splitOnP_eq_singleton fun c hc => decide_eq_false ?_
  rintro rfl
  exact h hc

theorem lines_append_of_not_mem (h : '\n' ∉ cs) (ds : List Char) :
    lines (cs ++ ds) = (lines ds).modifyHead (cs ++ ·) := by
  obtain ⟨first, rest, whole⟩ := List.exists_cons_of_ne_nil (lines_ne_nil ds)
  induction cs with
  | nil => simp [whole]
  | cons c cs ih =>
    obtain ⟨here, later⟩ : '\n' ≠ c ∧ '\n' ∉ cs := by simpa using h
    rw [List.cons_append, lines_eq_splitOnP, List.splitOnP_cons_eq_if_modifyHead,
      ← lines_eq_splitOnP, ih later, whole]
    simp [here.symm]

theorem lines_intercalate {texts : List (List Char)} (some : texts ≠ []) :
    lines (['\n'].intercalate texts) = texts.flatMap lines := by
  induction texts with
  | nil => exact absurd rfl some
  | cons t rest ih =>
    cases rest with
    | nil => simp
    | cons t' rest =>
      rw [List.intercalate_cons_cons, List.append_assoc, List.singleton_append, lines_break,
        ih (by simp)]
      rfl

/-- No line holds a break. -/
theorem not_mem_of_mem_lines {l : List Char} (h : l ∈ lines cs) : '\n' ∉ l := by
  induction cs generalizing l with
  | nil =>
    obtain rfl : l = [] := by simpa [lines, pieces] using h
    exact List.not_mem_nil
  | cons c cs ih =>
    rw [lines_eq_splitOnP, List.splitOnP_cons_eq_if_modifyHead, ← lines_eq_splitOnP] at h
    split at h
    · rcases List.mem_cons.1 h with rfl | h
      · exact List.not_mem_nil
      · exact ih h
    · next unbroken =>
      obtain ⟨first, rest, whole⟩ := List.exists_cons_of_ne_nil (lines_ne_nil cs)
      rw [whole, List.modifyHead_cons] at h
      have free : ∀ m ∈ lines cs, '\n' ∉ m := fun m hm => ih hm
      rw [whole] at free
      rcases List.mem_cons.1 h with rfl | h
      · have here : '\n' ≠ c := fun e => unbroken (by simp [← e])
        simp [here, free first List.mem_cons_self]
      · exact free l (List.mem_cons_of_mem _ h)

/-! ## Cuts -/

theorem cut_of_mem (ds : List Char) (h : mark ∉ cs) : cut mark (cs ++ mark :: ds) = (cs, some ds) := by
  have others : ∀ c ∈ cs, decide (c ≠ mark) := fun c hc => by
    simpa using fun e : c = mark => h (e ▸ hc)
  have front : (cs ++ mark :: ds).takeWhile (· ≠ mark) = cs := by
    rw [List.takeWhile_append_of_pos others]
    simp
  simp only [cut, front, List.drop_left]

theorem cut_of_not_mem (h : mark ∉ cs) : cut mark cs = (cs, none) := by
  have others : ∀ c ∈ cs, decide (c ≠ mark) := fun c hc => by
    simpa using fun e : c = mark => h (e ▸ hc)
  have whole : cs.takeWhile (· ≠ mark) = cs := List.takeWhile_eq_self_iff.2 others
  simp only [cut, whole, List.drop_length]

theorem eq_of_cut {front rest : List Char} (h : cut mark cs = (front, some rest)) :
    cs = front ++ mark :: rest := by
  by_cases hm : mark ∈ cs
  · obtain ⟨front', rest', rfl, free⟩ := List.eq_append_cons_of_mem hm
    obtain ⟨rfl, rfl⟩ : front' = front ∧ rest' = rest := by simpa [cut_of_mem rest' free] using h
    rfl
  · simp [cut_of_not_mem hm] at h

/-- What stands before the first mark has none. -/
theorem not_mem_cut (mark : Char) (cs : List Char) : mark ∉ (cut mark cs).1 := by
  by_cases h : mark ∈ cs
  · obtain ⟨front, rest, rfl, free⟩ := List.eq_append_cons_of_mem h
    rw [cut_of_mem rest free]
    exact free
  · rwa [cut_of_not_mem h]

end RoleOperator.Text
