import Mathlib.Data.List.DropRight
import Mathlib.Data.List.TakeWhile
import RoleOperator.Text.Pieces

/-!
# Trimming

Trimming takes characters off both ends, and nothing else. Where these are all one mark, two texts are
trimmed to the same text exactly if they differ in nothing but how often the mark stands at their ends.
A text is blank exactly if nothing is left of it.
-/
namespace RoleOperator.Text

section Any

variable {p : Char → Bool} {core front behind : List Char}

theorem exists_trimBoth (p : Char → Bool) (cs : List Char) :
    ∃ front behind, cs = front ++ trimBoth p cs ++ behind ∧ (∀ c ∈ front, p c) ∧
      ∀ c ∈ behind, p c := by
  refine ⟨cs.takeWhile p, (trimStart p cs).rtakeWhile p, ?_,
    fun c => List.mem_takeWhile_imp, fun c => List.mem_rtakeWhile_imp⟩
  have inside : trimBoth p cs ++ (trimStart p cs).rtakeWhile p = trimStart p cs :=
    List.rdropWhile_append_rtakeWhile
  rw [List.append_assoc, inside]
  exact List.takeWhile_append_dropWhile.symm

/-- A text without such characters is what trimming leaves of it between them. -/
theorem trimBoth_append (fronts : ∀ c ∈ front, p c) (free : ∀ c ∈ core, ¬ p c)
    (behinds : ∀ c ∈ behind, p c) : trimBoth p (front ++ core ++ behind) = core := by
  have started : trimBoth p (front ++ core ++ behind) = trimEnd p (trimStart p (core ++ behind)) := by
    rw [trimBoth, trimStart, List.append_assoc, List.dropWhile_append_of_pos fronts, trimStart]
  rw [started]
  cases core with
  | nil =>
    rw [List.nil_append, trimStart, List.dropWhile_eq_nil_iff.2 behinds]
    rfl
  | cons c rest =>
    have front : trimStart p (c :: rest ++ behind) = c :: rest ++ behind :=
      List.dropWhile_cons_of_neg (free c List.mem_cons_self)
    have back : (c :: rest).reverse.dropWhile p = (c :: rest).reverse := by
      refine List.dropWhile_eq_self_iff.2 fun some => free _ ?_
      exact List.mem_reverse.1 (List.getElem_mem some)
    rw [front, trimEnd, List.reverse_append,
      List.dropWhile_append_of_pos (by simpa using behinds), back, List.reverse_reverse]

end Any

variable {mark : Char} {cs ds : List Char}

/-- A text with the mark in front of it `i` times and behind it `j` times. -/
def padded (mark : Char) (i j : Nat) (cs : List Char) : List Char :=
  List.replicate i mark ++ cs ++ List.replicate j mark

/-- The two texts differ in nothing but how often the mark stands at their ends. -/
def SameInside (mark : Char) (cs ds : List Char) : Prop :=
  ∃ core i j k l, cs = padded mark i j core ∧ ds = padded mark k l core

theorem trimStart_replicate (n : Nat) :
    trimStart (· = mark) (List.replicate n mark ++ cs) = trimStart (· = mark) cs := by
  have all : ∀ c ∈ List.replicate n mark, decide (c = mark) := by
    intro c hc
    simp [List.eq_of_mem_replicate hc]
  rw [trimStart, List.dropWhile_append_of_pos all, trimStart]

theorem trimEnd_replicate (n : Nat) :
    trimEnd (· = mark) (cs ++ List.replicate n mark) = trimEnd (· = mark) cs := by
  have front : (List.replicate n mark ++ cs.reverse).dropWhile (· = mark) =
      cs.reverse.dropWhile (· = mark) := trimStart_replicate n
  rw [trimEnd, List.reverse_append, List.reverse_replicate, front, trimEnd]

theorem trimBoth_padded (i j : Nat) (cs : List Char) :
    trimBoth (· = mark) (padded mark i j cs) = trimBoth (· = mark) cs := by
  rw [padded, List.append_assoc, trimBoth, trimStart_replicate, trimBoth]
  by_cases only : trimStart (· = mark) cs = []
  · -- A text of marks alone has nothing inside.
    have marks : ∀ c ∈ cs ++ List.replicate j mark, decide (c = mark) := by
      intro c hc
      rcases List.mem_append.1 hc with hc | hc
      · exact List.dropWhile_eq_nil_iff.1 only c hc
      · simp [List.eq_of_mem_replicate hc]
    have none : trimStart (· = mark) (cs ++ List.replicate j mark) = [] :=
      List.dropWhile_eq_nil_iff.2 marks
    rw [none, only]
  · have front : trimStart (· = mark) (cs ++ List.replicate j mark) =
        trimStart (· = mark) cs ++ List.replicate j mark := by
      have some : (cs.dropWhile (· = mark)).isEmpty = false := by
        simpa [trimStart] using only
      rw [trimStart, List.dropWhile_append, some, trimStart]
      rfl
    rw [front, trimEnd_replicate]

/-- Trimming takes marks off both ends and nothing else. -/
theorem exists_padded (mark : Char) (cs : List Char) :
    ∃ i j, cs = padded mark i j (trimBoth (· = mark) cs) := by
  obtain ⟨front, behind, whole, fronts, behinds⟩ := exists_trimBoth (· = mark) cs
  have marks : front = List.replicate front.length mark :=
    List.eq_replicate_of_mem fun c hc => by simpa using fronts c hc
  have marks' : behind = List.replicate behind.length mark :=
    List.eq_replicate_of_mem fun c hc => by simpa using behinds c hc
  refine ⟨front.length, behind.length, ?_⟩
  rw [padded, ← marks, ← marks']
  exact whole

theorem sameInside_iff :
    SameInside mark cs ds ↔ trimBoth (· = mark) cs = trimBoth (· = mark) ds := by
  constructor
  · rintro ⟨core, i, j, k, l, rfl, rfl⟩
    rw [trimBoth_padded, trimBoth_padded]
  · intro same
    obtain ⟨i, j, hcs⟩ := exists_padded mark cs
    obtain ⟨k, l, hds⟩ := exists_padded mark ds
    exact ⟨trimBoth (· = mark) cs, i, j, k, l, hcs, same ▸ hds⟩

/-- No mark is left in front. -/
theorem head?_trimBoth (mark : Char) (cs : List Char) :
    (trimBoth (· = mark) cs).head? ≠ some mark := by
  intro first
  obtain ⟨rest, whole⟩ : trimBoth (· = mark) cs <+: cs.dropWhile (· = mark) :=
    List.rdropWhile_prefix _ _
  have unmarked := List.head?_dropWhile_not (fun c => decide (c = mark)) cs
  rw [← whole, List.head?_append, first] at unmarked
  simp at unmarked

/-! ## Blank texts -/

/-- There is nothing but white space in the text. -/
def Blank (s : String) : Prop := ∀ c ∈ s.toList, isBlank c

instance : DecidablePred Blank := fun s => decidable_of_iff (s.toList.all isBlank) List.all_eq_true

theorem blank_append {s t : String} : Blank (s ++ t) ↔ Blank s ∧ Blank t := by
  simp only [Blank, String.toList_append, List.forall_mem_append]

/-- Trimming takes white space only, so what it leaves is blank only if all was. -/
theorem blank_trim {s : String} : Blank (trim s) ↔ Blank s := by
  obtain ⟨front, behind, whole, fronts, behinds⟩ := exists_trimBoth isBlank s.toList
  rw [Blank, Blank, trim, String.toList_ofList]
  constructor
  · intro blank
    rw [whole]
    exact List.forall_mem_append.2 ⟨List.forall_mem_append.2 ⟨fronts, blank⟩, behinds⟩
  · intro blank c hc
    refine blank c ?_
    rw [whole]
    exact List.mem_append_left _ (List.mem_append_right _ hc)

theorem trim_eq_empty {s : String} : trim s = "" ↔ Blank s := by
  constructor
  · intro nothing
    rw [← blank_trim, nothing]
    exact List.forall_mem_nil _
  · intro blank
    have started : trimStart isBlank s.toList = [] := List.dropWhile_eq_nil_iff.2 blank
    rw [trim, trimBoth, started]
    rfl

end RoleOperator.Text
