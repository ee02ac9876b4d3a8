import RoleOperator.Proofs.Program.Discipline

/-!
# Runs of programs

The ways in which a program can go: the exchanges from its beginning to its end, whatever the answers,
and its result. What a program abides by holds of all its runs.
-/
namespace RoleOperator

namespace Program

variable {α β : Type} {xs : List Exchange} {b : β}

def Yields : Program α → List Exchange → α → Prop
  | .done a, xs, b => xs = [] ∧ b = a
  | .ask c next, xs, b => ∃ x rest, xs = ⟨c, x⟩ :: rest ∧ (next x).Yields rest b

theorem yields_pure {a b : α} : (pure a : Program α).Yields xs b ↔ xs = [] ∧ b = a := Iff.rfl

theorem yields_ask {c : Call} {next : c.Answer → Program α} {x : c.Answer} {rest : List Exchange}
    {a : α} : (ask c next).Yields (⟨c, x⟩ :: rest) a ↔ (next x).Yields rest a := by
  constructor
  · rintro ⟨_, _, ⟨⟩, h⟩
    exact h
  · intro h
    exact ⟨x, rest, rfl, h⟩

theorem yields_perform {c : Call} {x : c.Answer} : (perform c).Yields xs x ↔ xs = [⟨c, x⟩] := by
  constructor
  · rintro ⟨y, rest, rfl, rfl, rfl⟩
    rfl
  · rintro rfl
    exact ⟨x, [], rfl, rfl, rfl⟩

theorem yields_bind {p : Program α} {f : α → Program β} :
    (p >>= f).Yields xs b ↔ ∃ ys zs a, xs = ys ++ zs ∧ p.Yields ys a ∧ (f a).Yields zs b := by
  change (p.bind f).Yields xs b ↔ _
  induction p generalizing xs with
  | done a =>
    constructor
    · intro h
      exact ⟨[], xs, a, rfl, ⟨rfl, rfl⟩, h⟩
    · rintro ⟨ys, zs, _, rfl, ⟨rfl, rfl⟩, h⟩
      exact h
  | ask c next ih =>
    constructor
    · rintro ⟨x, rest, rfl, h⟩
      obtain ⟨ys, zs, a, rfl, hp, hf⟩ := (ih x).1 h
      exact ⟨⟨c, x⟩ :: ys, zs, a, rfl, ⟨x, ys, rfl, hp⟩, hf⟩
    · rintro ⟨ys, zs, a, rfl, ⟨x, rest, rfl, hp⟩, hf⟩
      exact ⟨x, rest ++ zs, rfl, (ih x).2 ⟨rest, zs, a, rfl, hp, hf⟩⟩

theorem yields_map {p : Program α} {f : α → β} :
    (f <$> p).Yields xs b ↔ ∃ a, p.Yields xs a ∧ b = f a := by
  constructor
  · intro run
    obtain ⟨ys, zs, a, rfl, first, ending⟩ := yields_bind.1 run
    obtain ⟨rfl, rfl⟩ := yields_pure.1 ending
    exact ⟨a, by rwa [List.append_nil], rfl⟩
  · rintro ⟨a, run, rfl⟩
    exact yields_bind.2 ⟨xs, [], a, (List.append_nil xs).symm, run, rfl, rfl⟩

/-- A run that begins with a single call. -/
theorem yields_perform_bind {c : Call} {f : c.Answer → Program β} :
    (perform c >>= f).Yields xs b ↔ ∃ x rest, xs = ⟨c, x⟩ :: rest ∧ (f x).Yields rest b := Iff.rfl

theorem Abides.of_yields {allowed : List Exchange → Call → Prop} {ends : List Exchange → α → Prop}
    {p : Program α} {past : List Exchange} {a : α} (h : p.Abides allowed ends past)
    (run : p.Yields xs a) : ends (past ++ xs) a := by
  induction p generalizing past xs with
  | done a =>
    obtain ⟨rfl, rfl⟩ := run
    rwa [List.append_nil]
  | ask c next ih =>
    obtain ⟨x, rest, rfl, run⟩ := run
    have hr := ih x (h.2 x) run
    rwa [List.append_assoc] at hr

theorem exists_yields (reply : (c : Call) → c.Answer) (p : Program α) : ∃ xs a, p.Yields xs a := by
  induction p with
  | done a => exact ⟨[], a, rfl, rfl⟩
  | ask c next ih =>
    obtain ⟨xs, a, run⟩ := ih (reply c)
    exact ⟨⟨c, reply c⟩ :: xs, a, reply c, xs, rfl, run⟩

/-- What remains of a program after these exchanges. -/
def Remains (whole : Program α) (past : List Exchange) (rest : Program α) : Prop :=
  ∀ more a, rest.Yields more a → whole.Yields (past ++ more) a

theorem Remains.all (p : Program α) : p.Remains [] p := fun _ _ run => run

theorem Remains.answer {whole : Program α} {past : List Exchange} {c : Call}
    {next : c.Answer → Program α} (h : whole.Remains past (.ask c next)) (x : c.Answer) :
    whole.Remains (past ++ [⟨c, x⟩]) (next x) := by
  intro more a run
  rw [List.append_assoc]
  exact h _ a ⟨x, more, rfl, run⟩

theorem Remains.done {whole : Program α} {past : List Exchange} {a : α}
    (h : whole.Remains past (.done a)) : whole.Yields past a := by
  have run := h [] a ⟨rfl, rfl⟩
  rwa [List.append_nil] at run

/-- A program that has a call to make is not at its end. -/
theorem Remains.length_lt {whole : Program α} {past : List Exchange} {c : Call}
    {next : c.Answer → Program α} {bound : Nat} (reply : (c : Call) → c.Answer)
    (bounded : ∀ xs a, whole.Yields xs a → xs.length ≤ bound)
    (h : whole.Remains past (.ask c next)) : past.length < bound := by
  obtain ⟨more, a, run⟩ := exists_yields reply (next (reply c))
  have length := bounded _ a (h (⟨c, reply c⟩ :: more) a ⟨reply c, more, rfl, run⟩)
  rw [List.length_append, List.length_cons] at length
  omega

end Program

namespace Program

theorem run_bind {m : Type → Type} [Monad m] [LawfulMonad m] {α β : Type}
    (answer : (c : Call) → m c.Answer) (p : Program α) (f : α → Program β) :
    (p >>= f).run answer = p.run answer >>= fun a => (f a).run answer := by
  change (p.bind f).run answer = _
  induction p with
  | done a => simp only [bind, run, pure_bind]
  | ask c next ih => simp only [bind, run, bind_assoc, ih]

end Program

namespace Patch

variable {key : ObjectKey} {target : WriteTarget} {change : Role → Role} {past : List Exchange}
  {result : Except Fault Role}

/-- A patch reads its key and writes the change of what it has read, and makes no other calls. -/
def Tried (key : ObjectKey) (target : WriteTarget) (change : Role → Role) (past : List Exchange) :
    Prop :=
  ∀ x ∈ past, x.1 = .get key ∨
    ∃ v, ⟨.get key, .ok (some v)⟩ ∈ past ∧ x.1 = .write (change v) target

/-- What a patch ends with: the version that it wrote or found as it should be. -/
inductive Settles (key : ObjectKey) (target : WriteTarget) (change : Role → Role)
    (past : List Exchange) : Except Fault Role → Prop where
  | found {v : Role} (last : past.getLast? = some ⟨.get key, .ok (some v)⟩)
      (same : (change v).toJson = v.toJson) : Settles key target change past (.ok (change v))
  | wrote {v u : Role} (read : ⟨.get key, .ok (some v)⟩ ∈ past)
      (last : past.getLast? = some ⟨.write (change v) target, .ok u⟩) :
      Settles key target change past (.ok u)
  | gaveUp (e : Fault) : Settles key target change past (.error e)

theorem Tried.append (h : Tried key target change past) {more : List Exchange}
    (hm : ∀ x ∈ more, x.1 = .get key ∨
      ∃ v, ⟨.get key, .ok (some v)⟩ ∈ past ++ more ∧ x.1 = .write (change v) target) :
    Tried key target change (past ++ more) := by
  intro x hx
  rcases List.mem_append.1 hx with hx | hx
  · refine (h x hx).imp_right ?_
    rintro ⟨v, hv, he⟩
    exact ⟨v, List.mem_append_left more hv, he⟩
  · exact hm x hx

theorem Tried.read (h : Tried key target change past) (x : (Call.get key).Answer) :
    Tried key target change (past ++ [⟨.get key, x⟩]) := by
  refine h.append fun y hy => ?_
  rw [List.mem_singleton.1 hy]
  exact Or.inl rfl

theorem Tried.write (h : Tried key target change past) {v : Role} (x : Except Fault Role) :
    Tried key target change
      (past ++ [⟨.get key, .ok (some v)⟩, ⟨.write (change v) target, x⟩]) := by
  refine h.append fun y hy => ?_
  rcases List.mem_cons.1 hy with rfl | hy
  · exact Or.inl rfl
  · rw [List.mem_singleton.1 hy]
    exact Or.inr ⟨v, by simp, rfl⟩

theorem rule_tried : Patch.Rule (Tried key target change) (fun _ _ => True)
    (fun past r => Tried key target change past ∧ Settles key target change past r) key target
    change where
  read _ := trivial
  unread h := ⟨h.read _, .gaveUp _⟩
  absent h := ⟨h.read _, .gaveUp _⟩
  unchanged h same := ⟨h.read _, .found (by simp) same⟩
  write _ _ := trivial
  written {_ role _} h _ := ⟨h.write _, .wrote (v := role) (by simp) (by simp)⟩
  refused h _ := ⟨h.write _, .gaveUp _⟩
  again h _ _ := h.write _

/-- All that a patch can do, whatever it is answered. -/
theorem tried_of_yields {xs : List Exchange} (run : (patch key target change).Yields xs result) :
    Tried key target change xs ∧ Settles key target change xs result := by
  have untried : Tried key target change [] := by simp [Tried]
  exact (rule_tried.patch untried).of_yields run

end Patch
end RoleOperator
