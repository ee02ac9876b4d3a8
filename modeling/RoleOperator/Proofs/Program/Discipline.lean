import RoleOperator.Store.Patch

/-!
# Discipline of programs

What a program may do next depends on the answers that it has had. A program abides by a rule if,
however its calls are answered, each of them is allowed after the exchanges before it, and the result
is one that may follow all of them. A finished part of a program hands its exchanges on to the rest.
-/
namespace RoleOperator

/-- A call and its answer. -/
abbrev Exchange := (c : Call) × c.Answer

namespace Program

variable {α β : Type} {allowed : List Exchange → Call → Prop} {past : List Exchange}

def Abides (allowed : List Exchange → Call → Prop) (ends : List Exchange → α → Prop) :
    Program α → List Exchange → Prop
  | .done a, past => ends past a
  | .ask c next, past => allowed past c ∧ ∀ x, (next x).Abides allowed ends (past ++ [⟨c, x⟩])

@[simp] theorem abides_pure {ends : List Exchange → α → Prop} {a : α} :
    (pure a : Program α).Abides allowed ends past ↔ ends past a := Iff.rfl

@[simp] theorem abides_perform {c : Call} {ends : List Exchange → c.Answer → Prop} :
    (perform c).Abides allowed ends past ↔ allowed past c ∧ ∀ x, ends (past ++ [⟨c, x⟩]) x := Iff.rfl

@[simp] theorem abides_bind {p : Program α} {f : α → Program β} {ends : List Exchange → β → Prop} :
    (p >>= f).Abides allowed ends past ↔
      p.Abides allowed (fun past a => (f a).Abides allowed ends past) past := by
  change (p.bind f).Abides allowed ends past ↔ _
  induction p generalizing past with
  | done a => exact Iff.rfl
  | ask c next ih => exact and_congr_right fun _ => forall_congr' fun x => ih x

@[simp] theorem abides_map {p : Program α} {f : α → β} {ends : List Exchange → β → Prop} :
    (f <$> p).Abides allowed ends past ↔
      p.Abides allowed (fun past a => ends past (f a)) past := abides_bind (f := fun a => pure (f a))

theorem Abides.mono {p : Program α} {ends ends' : List Exchange → α → Prop}
    (h : p.Abides allowed ends past) (weaker : ∀ past a, ends past a → ends' past a) :
    p.Abides allowed ends' past := by
  induction p generalizing past with
  | done a => exact weaker past a h
  | ask c next ih => exact ⟨h.1, fun x => ih x (h.2 x)⟩

end Program

/-! ## Patches -/

/-- A rule that a patch abides by, with what holds before each of its reads. -/
structure Patch.Rule (before : List Exchange → Prop) (allowed : List Exchange → Call → Prop)
    (ends : List Exchange → Except Fault Role → Prop) (key : ObjectKey) (target : WriteTarget)
    (change : Role → Role) : Prop where
  read {past} : before past → allowed past (.get key)
  unread {past e} : before past → ends (past ++ [⟨.get key, .error e⟩]) (.error e)
  absent {past} : before past →
    ends (past ++ [⟨.get key, .ok none⟩]) (.error (.notFound key.text))
  unchanged {past role} : before past → (change role).toJson = role.toJson →
    ends (past ++ [⟨.get key, .ok (some role)⟩]) (.ok (change role))
  write {past role} : before past → (change role).toJson ≠ role.toJson →
    allowed (past ++ [⟨.get key, .ok (some role)⟩]) (.write (change role) target)
  written {past role w} : before past → (change role).toJson ≠ role.toJson →
    ends (past ++ [⟨.get key, .ok (some role)⟩, ⟨.write (change role) target, .ok w⟩]) (.ok w)
  refused {past role e} : before past → (change role).toJson ≠ role.toJson →
    ends (past ++ [⟨.get key, .ok (some role)⟩, ⟨.write (change role) target, .error e⟩]) (.error e)
  again {past role e} : before past → (change role).toJson ≠ role.toJson → e.isConflict →
    before (past ++ [⟨.get key, .ok (some role)⟩, ⟨.write (change role) target, .error e⟩])

namespace Patch.Rule

variable {before : List Exchange → Prop} {allowed : List Exchange → Call → Prop}
  {ends : List Exchange → Except Fault Role → Prop} {key : ObjectKey} {target : WriteTarget}
  {change : Role → Role} {past : List Exchange}

theorem once (rule : Patch.Rule before allowed ends key target change) (h : before past)
    {onConflict : Fault → Program (Except Fault Role)}
    (conflict : ∀ role e, (change role).toJson ≠ role.toJson → e.isConflict →
      (onConflict e).Abides allowed ends
        (past ++ [⟨.get key, .ok (some role)⟩, ⟨.write (change role) target, .error e⟩])) :
    (Patch.once key target change onConflict).Abides allowed ends past := by
  refine ⟨rule.read h, ?_⟩
  rintro (e | _ | role)
  · exact rule.unread h
  · exact rule.absent h
  dsimp only
  -- A change that does not show is not written.
  by_cases same : (change role).toJson = role.toJson
  · rw [if_pos same]
    exact rule.unchanged h same
  rw [if_neg same]
  refine ⟨rule.write h same, fun answer => ?_⟩
  rw [List.append_assoc]
  rcases answer with e | w
  · dsimp only
    split
    · next hc => exact conflict role e same hc
    · exact rule.refused h same
  · exact rule.written h same

theorem loop (rule : Patch.Rule before allowed ends key target change) (retries : Nat)
    (h : before past) : (Patch.loop key target change retries).Abides allowed ends past := by
  induction retries generalizing past with
  | zero => exact rule.once h fun role e same _ => rule.refused h same
  | succ retries ih => exact rule.once h fun role e same hc => ih (rule.again h same hc)

theorem patch (rule : Patch.Rule before allowed ends key target change) (h : before past) :
    (patch key target change).Abides allowed ends past := rule.loop _ h

end Patch.Rule
end RoleOperator
