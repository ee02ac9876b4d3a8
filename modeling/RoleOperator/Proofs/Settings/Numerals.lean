import Mathlib.Data.Nat.Digits.Defs
import RoleOperator.Proofs.Text.Trimming
import RoleOperator.Settings

/-!
# Numerals

The texts that are read as numbers: decimal digits, with a plus sign in front of them or none, and
white space around. A number that needs more bits than its setting has is not read.
-/
namespace RoleOperator.Settings

variable {cs sign digits : List Char} {s raw : String} {bits n m : Nat}

/-- The number that decimal digits stand for, by their places. -/
def placeValue (digits : List Char) : Nat :=
  Nat.ofDigits 10 (digits.reverse.map fun c => c.toNat - 48)

structure IsSignless (digits : List Char) : Prop where
  nonempty : digits ≠ []
  digit : ∀ c ∈ digits, c.isDigit

/-- A plus sign or nothing. -/
def IsSign (sign : List Char) : Prop := sign = [] ∨ sign = ['+']

/-- The text is a numeral with white space around it, and the number is what it stands for. -/
def Denotes (raw : String) (n : Nat) : Prop :=
  ∃ before sign digits after, raw.toList = before ++ (sign ++ digits) ++ after ∧
    (∀ c ∈ before, Text.isBlank c) ∧ IsSign sign ∧ IsSignless digits ∧ placeValue digits = n ∧
    ∀ c ∈ after, Text.isBlank c

/-! ## Digits -/

theorem placeValue_eq_foldl (digits : List Char) :
    placeValue digits = digits.foldl (fun n c => n * 10 + (c.toNat - 48)) 0 := by
  rw [placeValue, Nat.ofDigits_eq_foldr, List.foldr_map, List.foldr_reverse]
  congr 1
  funext n c
  simp only [Nat.cast_id]
  ring

theorem digits?_eq_some_iff : digits? cs = some n ↔ IsSignless cs ∧ placeValue cs = n := by
  rw [placeValue_eq_foldl]
  cases cs with
  | nil => simpa [digits?] using fun h : IsSignless [] => absurd rfl h.nonempty
  | cons c rest =>
    simp only [digits?]
    split
    · next all =>
      have signless : IsSignless (c :: rest) := ⟨List.cons_ne_nil _ _, List.all_eq_true.1 all⟩
      simp [signless]
    · next none =>
      have other : ¬ IsSignless (c :: rest) := fun h => none (List.all_eq_true.2 h.digit)
      simp [other]

theorem not_isBlank_of_isDigit {c : Char} (h : c.isDigit) : ¬ Text.isBlank c := by
  simp only [Char.isDigit, Bool.and_eq_true, decide_eq_true_eq, ge_iff_le,
    UInt32.le_iff_toNat_le] at h
  have zero : '0'.val.toNat = 48 := rfl
  have nine : '9'.val.toNat = 57 := rfl
  simp only [Text.isBlank, Bool.or_eq_true, Bool.and_eq_true, decide_eq_true_eq, beq_iff_eq]
  omega

/-! ## Numerals -/

/-- What is left when the sign is taken off. -/
def unsigned : List Char → List Char
  | '+' :: rest => rest
  | cs => cs

theorem exists_sign (cs : List Char) : ∃ sign, IsSign sign ∧ cs = sign ++ unsigned cs := by
  unfold unsigned
  split
  · next rest => exact ⟨['+'], Or.inr rfl, rfl⟩
  · exact ⟨[], Or.inl rfl, rfl⟩

/-- No digit is a sign, so the sign can be told from the digits. -/
theorem unsigned_append (signed : IsSign sign) (signless : IsSignless digits) :
    unsigned (sign ++ digits) = digits := by
  rcases signed with rfl | rfl
  · rw [List.nil_append]
    unfold unsigned
    split
    · have plus := signless.digit '+' List.mem_cons_self
      exact absurd plus (by decide)
    · rfl
  · rfl

theorem numeral?_eq_some_iff :
    numeral? bits s = some n ↔ digits? (unsigned s.toList) = some n ∧ n < 2 ^ bits := by
  simp only [numeral?]
  split
  · next m read =>
    have read : digits? (unsigned s.toList) = some m := read
    simp only [read, Nat.pow_eq, Option.ite_none_right_eq_some, Option.some.injEq]
    constructor
    · rintro ⟨fits, rfl⟩
      exact ⟨rfl, fits⟩
    · rintro ⟨rfl, fits⟩
      exact ⟨fits, rfl⟩
  · next unread =>
    have unread : digits? (unsigned s.toList) = none := unread
    simp [unread]

/-- What the text of a variable is read as. -/
theorem numeral?_trim_eq_some_iff :
    numeral? bits (Text.trim raw) = some n ↔ Denotes raw n ∧ n < 2 ^ bits := by
  constructor
  · intro h
    obtain ⟨before, after, whole, befores, afters⟩ :=
      Text.exists_trimBoth Text.isBlank raw.toList
    obtain ⟨sign, signed, inside⟩ := exists_sign (Text.trimBoth Text.isBlank raw.toList)
    rw [numeral?_eq_some_iff, Text.trim, String.toList_ofList] at h
    obtain ⟨signless, value⟩ := digits?_eq_some_iff.1 h.1
    rw [inside] at whole
    exact ⟨⟨before, sign, _, after, whole, befores, signed, signless, value, afters⟩, h.2⟩
  · rintro ⟨⟨before, sign, digits, after, whole, befores, signed, signless, rfl, afters⟩, fits⟩
    have solid : ∀ c ∈ sign ++ digits, ¬ Text.isBlank c := by
      intro c hc
      rcases List.mem_append.1 hc with hc | hc
      · rcases signed with rfl | rfl
        · cases hc
        · rw [List.mem_singleton.1 hc]
          decide
      · exact not_isBlank_of_isDigit (signless.digit c hc)
    rw [numeral?_eq_some_iff, Text.trim, String.toList_ofList, whole,
      Text.trimBoth_append befores solid afters, unsigned_append signed signless]
    exact ⟨digits?_eq_some_iff.2 ⟨signless, rfl⟩, fits⟩

theorem Denotes.unique (h : Denotes raw n) (h' : Denotes raw m) : n = m := by
  -- A width in which both numbers fit.
  have fits : n < 2 ^ (n + m) := Nat.lt_of_lt_of_le n.lt_two_pow_self
    (Nat.pow_le_pow_right two_pos (Nat.le_add_right n m))
  have fits' : m < 2 ^ (n + m) := Nat.lt_of_lt_of_le m.lt_two_pow_self
    (Nat.pow_le_pow_right two_pos (Nat.le_add_left m n))
  have read := numeral?_trim_eq_some_iff.2 ⟨h, fits⟩
  have read' := numeral?_trim_eq_some_iff.2 ⟨h', fits'⟩
  exact Option.some.inj (read.symm.trans read')

end RoleOperator.Settings
