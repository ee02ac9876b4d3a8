import Std.Data.String.ToNat
import RoleOperator.Proofs.Association
import RoleOperator.Store.ObjectTable

/-!
# Versions of stored objects

A version is given out once. So two objects with the same version are the same object under the same
key, whatever was stored, replaced and removed in between.
-/
namespace RoleOperator.ObjectTable

variable {t t' : ObjectTable} {key k : ObjectKey} {role v : Role} {target : WriteTarget}

/-- The version that will be given out next. -/
def fresh (t : ObjectTable) : String := toString t.nextVersion

def GivenOut (t : ObjectTable) (version : Option String) : Prop :=
  ∃ n < t.nextVersion, version = some (toString n)

/-- The object may be stored or not, but its version stands for it and for no other. -/
structure Known (t : ObjectTable) (key : ObjectKey) (v : Role) : Prop where
  given : t.GivenOut v.metadata.resourceVersion
  only : ∀ k role, t.get? k = some role →
    role.metadata.resourceVersion = v.metadata.resourceVersion → k = key ∧ role = v

/-- Objects are stored under their own key, and known by their version. -/
structure Sound (t : ObjectTable) : Prop where
  named : ∀ k role, t.get? k = some role → role.metadata.key? = some k
  known : ∀ k role, t.get? k = some role → t.Known k role

/-- What a request can do to the objects: nothing, or it stores an object with the next version, or
it gives out that version and removes an object. -/
inductive Evolves (t t' : ObjectTable) : Prop where
  | same (objects : t'.objects = t.objects) (next : t'.nextVersion = t.nextVersion)
  | store (key : ObjectKey) (role : Role) (named : role.metadata.key? = some key)
      (stamped : role.metadata.resourceVersion = some t.fresh)
      (objects : ∀ k, t'.get? k = if k = key then some role else t.get? k)
      (next : t'.nextVersion = t.nextVersion + 1)
  | remove {key : ObjectKey} (objects : ∀ k, t'.get? k = if k = key then none else t.get? k)
      (next : t'.nextVersion = t.nextVersion + 1)

theorem get?_put (t : ObjectTable) (key : ObjectKey) (role : Role) (k : ObjectKey) :
    (t.put key role).get? k = if k = key then some role else t.get? k :=
  lookup_replace t.objects k key role

theorem get?_remove (t : ObjectTable) (key k : ObjectKey) :
    (t.remove key).get? k = if k = key then none else t.get? k :=
  lookup_filter_ne t.objects k key

/-! ## Requests -/

theorem get?_insert (t : ObjectTable) (named : role.metadata.key? = some key) (k : ObjectKey) :
    (t.insert role).get? k = if k = key then some (role.withVersion t.fresh) else t.get? k := by
  simp only [insert, named]
  exact get?_put _ key _ k

theorem insert_evolves (t : ObjectTable) (role : Role) : Evolves t (t.insert role) := by
  cases named : role.metadata.key? with
  | none =>
    simp only [insert, named]
    exact .same rfl rfl
  | some key =>
    refine .store key (role.withVersion t.fresh) named rfl (get?_insert t named) ?_
    simp only [insert, named]
    rfl

theorem key?_of_key (h : role.key = .ok key) : role.metadata.key? = some key := by
  unfold Role.key Metadata.key at h
  split at h
  · next named =>
    cases h
    exact named
  · cases h

theorem count_get? (t : ObjectTable) (target : WriteTarget) (k : ObjectKey) :
    (t.count target).get? k = t.get? k := by cases target <;> rfl

theorem count_nextVersion (t : ObjectTable) (target : WriteTarget) :
    (t.count target).nextVersion = t.nextVersion := by cases target <;> rfl

/-- A write that is accepted replaces the object with the version that it was made from. -/
theorem write_accepted {updated : Role} (h : t.write role target = (.ok updated, t')) :
    ∃ key current, role.metadata.key? = some key ∧ t.get? key = some current ∧
      current.metadata.resourceVersion = role.metadata.resourceVersion ∧
      updated = role.withVersion t.fresh ∧ t'.nextVersion = t.nextVersion + 1 ∧
      ∀ k, t'.get? k =
        if k = key then
          if updated.isDeleting && updated.metadata.finalizerList.isEmpty then none
          else some updated
        else t.get? k := by
  unfold write at h
  split at h
  · cases h
  next key named =>
  split at h
  · cases h
  split at h
  · cases h
  split at h
  · cases h
  next current stored =>
  split at h
  · cases h
  next version =>
  have same := Decidable.not_not.1 version
  dsimp only [stamp] at h
  split at h
  · next gone =>
    cases h
    refine ⟨key, current, key?_of_key named, stored, same, rfl, count_nextVersion _ target, ?_⟩
    intro k
    rw [if_pos gone, get?_remove, count_get?]
    rfl
  · next stays =>
    cases h
    refine ⟨key, current, key?_of_key named, stored, same, rfl, count_nextVersion _ target, ?_⟩
    intro k
    rw [if_neg stays, get?_put, count_get?]
    rfl

theorem write_refused {e : Fault} (h : t.write role target = (.error e, t')) :
    t' = { t with conflictsLeft := t'.conflictsLeft, failuresLeft := t'.failuresLeft } := by
  unfold write at h
  split at h
  · cases h
    rfl
  split at h
  · cases h
    rfl
  split at h
  · cases h
    rfl
  split at h
  · cases h
    rfl
  split at h
  · cases h
    rfl
  · dsimp only at h
    split at h <;> cases h

theorem write_evolves (t : ObjectTable) (role : Role) (target : WriteTarget) :
    Evolves t (t.write role target).2 := by
  rcases h : t.write role target with ⟨e | updated, t'⟩
  · rw [write_refused h]
    exact .same rfl rfl
  · obtain ⟨key, current, named, _, _, rfl, next, objects⟩ := write_accepted h
    cases gone : ((role.withVersion t.fresh).isDeleting &&
        (role.withVersion t.fresh).metadata.finalizerList.isEmpty) with
    | true => exact .remove (by simpa [gone] using objects) next
    | false =>
      exact .store key (role.withVersion t.fresh) named rfl (by simpa [gone] using objects) next

/-! ## What every request preserves -/

theorem GivenOut.ne_fresh {version : Option String} (h : t.GivenOut version) :
    version ≠ some t.fresh := by
  obtain ⟨n, hn, rfl⟩ := h
  intro he
  have : n = t.nextVersion := Nat.repr_inj.1 (Option.some.inj he)
  omega

theorem GivenOut.mono {version : Option String} (h : t.GivenOut version)
    (later : t.nextVersion ≤ t'.nextVersion) : t'.GivenOut version := by
  obtain ⟨n, hn, he⟩ := h
  exact ⟨n, Nat.lt_of_lt_of_le hn later, he⟩

theorem Evolves.next_le (h : Evolves t t') : t.nextVersion ≤ t'.nextVersion := by
  cases h with
  | same _ next | store _ _ _ _ _ next | remove _ next => omega

theorem Known.evolves (h : t.Known key v) (e : Evolves t t') : t'.Known key v := by
  refine ⟨h.given.mono e.next_le, fun k role stored version => ?_⟩
  cases e with
  | same objects =>
    rw [get?, objects] at stored
    exact h.only k role stored version
  | store _ _ _ stamped objects =>
    rw [objects] at stored
    split at stored
    · cases stored
      exact absurd (version.symm.trans stamped) h.given.ne_fresh
    · exact h.only k role stored version
  | remove objects =>
    rw [objects] at stored
    split at stored
    · cases stored
    · exact h.only k role stored version

theorem sound_empty : Sound {} := ⟨by simp [get?], by simp [get?]⟩

theorem Sound.evolves (h : t.Sound) (e : Evolves t t') : t'.Sound := by
  have old : ∀ k role, t.get? k = some role → role.metadata.key? = some k ∧ t'.Known k role :=
    fun k role stored => ⟨h.named k role stored, (h.known k role stored).evolves e⟩
  suffices all : ∀ k role, t'.get? k = some role → role.metadata.key? = some k ∧ t'.Known k role from
    ⟨fun k role stored => (all k role stored).1, fun k role stored => (all k role stored).2⟩
  intro k role stored
  cases e with
  | same objects =>
    rw [get?, objects] at stored
    exact old k role stored
  | store key role' named stamped objects next =>
    rw [objects] at stored
    split at stored
    · next he =>
      -- The new object is the only one with the version just given out.
      subst he
      cases stored
      refine ⟨named, ⟨⟨t.nextVersion, by omega, stamped⟩, fun k' other stored' version => ?_⟩⟩
      rw [objects] at stored'
      split at stored'
      · next he =>
        cases stored'
        exact ⟨he, rfl⟩
      · exact absurd (version.trans stamped) (h.known k' other stored').given.ne_fresh
    · exact old k role stored
  | remove objects =>
    rw [objects] at stored
    split at stored
    · cases stored
    · exact old k role stored

end RoleOperator.ObjectTable
