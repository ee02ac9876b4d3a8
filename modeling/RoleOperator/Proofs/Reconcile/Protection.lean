import RoleOperator.Proofs.Program.Attempts
import RoleOperator.Proofs.Reconcile.Reporting
import RoleOperator.Proofs.Reconcile.Scene

/-!
# Protection of what is created

A role in Vault outlives its object unless the object carries the finalizer and is not being deleted
yet. Whether it is being deleted is looked up in the cache, while the finalizer is put on the object
as it is stored by then. A reconcile holds on to all that it creates, and it creates a role for an
object that is being deleted exactly if it has read such a version on the way.
-/
namespace RoleOperator.Reconcile

variable {key : ObjectKey} {role v : Role} {held : Option Role} {xs early : List Exchange}
  {result : Except Fault Unit}

/-- Every role is created for a version that carries the finalizer and is not being deleted, and the
finalizer is put on no version that is being deleted. -/
structure Protected (key : ObjectKey) (xs : List Exchange) : Prop where
  created : ∀ role answer, ⟨.create role, answer⟩ ∈ xs → role.hasFinalizer ∧ role.isDeleting = false
  added : ∀ v answer, ⟨.get key, .ok (some v)⟩ ∈ xs → v.hasFinalizer = false →
    ⟨.write v.addFinalizer .object, answer⟩ ∈ xs → v.isDeleting = false

/-- A write that is accepted is answered with a version that carries the finalizer, and the mark of a
deletion, as they were written. -/
def Faithful (xs : List Exchange) : Prop :=
  ∀ w target u, ⟨.write w target, .ok u⟩ ∈ xs →
    u.hasFinalizer = w.hasFinalizer ∧ u.isDeleting = w.isDeleting

def isBind : Call → Bool
  | .bind _ => true
  | _ => false

/-- The exchanges before an adapter is bound. -/
def opening (xs : List Exchange) : List Exchange := xs.takeWhile fun x => !isBind x.1

theorem mem_of_mem_opening {x : Exchange} (h : x ∈ opening xs) : x ∈ xs :=
  (List.takeWhile_prefix _).subset h

/-! ## Before an adapter is bound -/

/-- What a reconcile does before it binds an adapter, and the version that it goes on with. -/
inductive Opens (key : ObjectKey) : List Exchange → Option Role → Prop where
  | absent : Opens key [⟨.cached key, none⟩] none
  | departing {v : Role} (deleting : v.isDeleting) (free : v.hasFinalizer = false) :
      Opens key [⟨.cached key, some v⟩] none
  | finalized {v : Role} (deleting : v.isDeleting) (held : v.hasFinalizer) :
      Opens key [⟨.cached key, some v⟩, ⟨.finalize v, ()⟩] none
  | ready {v : Role} (alive : v.isDeleting = false) (held : v.hasFinalizer) :
      Opens key [⟨.cached key, some v⟩] (some v)
  | taken {v : Role} {ys : List Exchange} {got : Except Fault Role}
      (alive : v.isDeleting = false) (free : v.hasFinalizer = false)
      (patched : (patch key .object Role.addFinalizer).Yields ys got) :
      Opens key (⟨.cached key, some v⟩ :: ys) got.toOption

/-- A reconcile that stops there succeeds, unless the finalizer patch has failed on an object that is not
gone. -/
def Stops (key : ObjectKey) (early : List Exchange) (result : Except Fault Unit) : Prop :=
  result = .ok () ∨ ∃ v ys e, early = ⟨.cached key, some v⟩ :: ys ∧
    (patch key .object Role.addFinalizer).Yields ys (.error e) ∧ e.isNotFound = false ∧
      result = .error e

theorem opens_of_yields (run : (program key).Yields xs result) :
    ∃ early held rest, xs = early ++ rest ∧ Opens key early held ∧
      (held = none ∧ rest = [] ∧ Stops key early result ∨
        ∃ v, held = some v ∧ (sync v key).Yields rest result) := by
  obtain ⟨seen, rest, rfl, went⟩ := Program.yields_perform_bind.1 run
  clear run
  rcases seen with _ | v
  · obtain ⟨rfl, rfl⟩ := Program.yields_pure.1 went
    exact ⟨_, none, [], rfl, .absent, Or.inl ⟨rfl, rfl, Or.inl rfl⟩⟩
  dsimp only at went
  split at went
  · next deleting =>
    split at went
    · next held =>
      obtain ⟨_, _, rfl, ending⟩ := Program.yields_perform_bind.1 went
      obtain ⟨rfl, rfl⟩ := Program.yields_pure.1 ending
      exact ⟨_, none, [], rfl, .finalized deleting held, Or.inl ⟨rfl, rfl, Or.inl rfl⟩⟩
    · next free =>
      obtain ⟨rfl, rfl⟩ := Program.yields_pure.1 went
      exact ⟨_, none, [], rfl, .departing deleting (by simpa using free),
        Or.inl ⟨rfl, rfl, Or.inl rfl⟩⟩
  next alive =>
  have alive : v.isDeleting = false := by simpa using alive
  split at went
  · next held => exact ⟨_, some v, rest, rfl, .ready alive held, Or.inr ⟨v, rfl, went⟩⟩
  next free =>
  have free : v.hasFinalizer = false := by simpa using free
  obtain ⟨ys, zs, got, rfl, patched, ending⟩ := Program.yields_bind.1 went
  have opens : Opens key (⟨.cached key, some v⟩ :: ys) got.toOption := .taken alive free patched
  rcases got with e | u
  · obtain ⟨rfl, rfl⟩ := Program.yields_pure.1 ending
    refine ⟨_, none, [], by simp, opens, Or.inl ⟨rfl, rfl, ?_⟩⟩
    cases gone : e.isNotFound with
    | true => exact Or.inl rfl
    | false => exact Or.inr ⟨v, ys, e, rfl, patched, gone, rfl⟩
  · exact ⟨_, some u, zs, rfl, opens, Or.inr ⟨u, rfl, ending⟩⟩

namespace Opens

theorem preliminary (h : Opens key early held) : ∀ x ∈ early, Preliminary x.1 := by
  cases h with
  | absent | departing | finalized | ready => simp [Preliminary]
  | taken alive free patched =>
    exact List.forall_mem_cons.2 ⟨trivial, preliminary_of_hold patched⟩

/-- A version that is read gets the finalizer, or it has it and is the one to go on with. -/
theorem reads (h : Opens key early held) (hx : ⟨.get key, .ok (some v)⟩ ∈ early) :
    (v.hasFinalizer = false ∧ ∃ answer, ⟨.write v.addFinalizer .object, answer⟩ ∈ early) ∨
      v.hasFinalizer ∧ held = some v := by
  cases h with
  | absent | departing | finalized | ready => simp at hx
  | @taken seen ys got alive free patched =>
    obtain ⟨n, -, tries⟩ := Patch.tries_of_yields patched
    have read : ⟨.get key, .ok (some v)⟩ ∈ ys := by simpa using hx
    rcases tries.reads read with ⟨needed, answer, written⟩ | ⟨same, rfl⟩
    · left
      refine ⟨?_, answer, by simp [written]⟩
      simpa [Role.addFinalizer_toJson_eq] using needed
    · right
      rw [Role.shows_addFinalizer v same]
      exact ⟨Role.addFinalizer_toJson_eq.1 same, rfl⟩

theorem writes (h : Opens key early held) {w : Role} {target : WriteTarget}
    {answer : Except Fault Role} (hx : ⟨.write w target, answer⟩ ∈ early) :
    target = .object ∧ ∃ v, ⟨.get key, .ok (some v)⟩ ∈ early ∧ v.hasFinalizer = false ∧
      w = v.addFinalizer := by
  cases h with
  | absent | departing | finalized | ready => simp at hx
  | @taken seen ys got alive free patched =>
    obtain ⟨n, -, tries⟩ := Patch.tries_of_yields patched
    have written : ⟨.write w target, answer⟩ ∈ ys := by simpa using hx
    obtain ⟨ht, v, read, needed, hw⟩ := tries.writes written
    refine ⟨ht, v, by simp [read], ?_, hw⟩
    simpa [Role.addFinalizer_toJson_eq] using needed

/-- The version to go on with is the one in the cache, or one that was read with the finalizer, or the
answer to a write that put the finalizer on. -/
theorem adopts {u : Role} (h : Opens key early held) (hu : held = some u) :
    (u.isDeleting = false ∧ u.hasFinalizer) ∨
      (⟨.get key, .ok (some u)⟩ ∈ early ∧ u.hasFinalizer) ∨
      ∃ v, ⟨.get key, .ok (some v)⟩ ∈ early ∧ v.hasFinalizer = false ∧
        ⟨.write v.addFinalizer .object, .ok u⟩ ∈ early := by
  cases h with
  | absent | departing | finalized => cases hu
  | ready alive held =>
    cases hu
    exact Or.inl ⟨alive, held⟩
  | @taken seen ys got alive free patched =>
    rcases got with e | u'
    · cases hu
    obtain rfl : u' = u := Option.some.inj hu
    obtain ⟨n, -, tries⟩ := Patch.tries_of_yields patched
    rcases tries.returns with ⟨v, read, same, rfl⟩ | ⟨v, read, needed, written⟩
    · rw [Role.shows_addFinalizer v same]
      exact Or.inr (Or.inl ⟨by simp [read], Role.addFinalizer_toJson_eq.1 same⟩)
    · refine Or.inr (Or.inr ⟨v, by simp [read], ?_, by simp [written]⟩)
      simpa [Role.addFinalizer_toJson_eq] using needed

end Opens

/-! ## After that -/

theorem sync_bind (run : (sync role key).Yields xs result) :
    ∃ bound rest, xs = ⟨.bind role, bound⟩ :: rest := by
  obtain ⟨begun, report, created, now, reported, rfl, creation, -, -⟩ := sync_yields run
  cases creation <;> exact ⟨_, _, rfl⟩

theorem sync_create {other : Role} {answer : Except Fault Unit}
    (run : (sync role key).Yields xs result) (hx : ⟨.create other, answer⟩ ∈ xs) : other = role := by
  obtain ⟨begun, report, created, now, reported, rfl, creation, patched, -⟩ := sync_yields run
  have first : ∀ x ∈ ([] : List Exchange), Preliminary x.1 := by simp
  have inBegun := mem_begun first (Patch.tried_of_yields patched).1 hx trivial
  cases creation <;> simp_all

/-- The status patch leaves the finalizers and the mark of a deletion as it has read them. -/
theorem sync_write {w : Role} {target : WriteTarget} {answer : Except Fault Role}
    (run : (sync role key).Yields xs result) (hx : ⟨.write w target, answer⟩ ∈ xs) :
    target = .status ∧ ∃ v, ⟨.get key, .ok (some v)⟩ ∈ xs ∧ w.metadata = v.metadata := by
  obtain ⟨begun, report, created, now, reported, rfl, creation, patched, -⟩ := sync_yields run
  have written := (List.mem_append.1 hx).resolve_left creation.not_write
  obtain ⟨n, -, tries⟩ := Patch.tries_of_yields patched
  obtain ⟨ht, v, read, -, rfl⟩ := tries.writes written
  exact ⟨ht, v, List.mem_append_right _ read, rfl⟩

theorem opening_eq {rest : List Exchange} (first : ∀ x ∈ early, Preliminary x.1)
    (next : ∀ x ∈ rest.head?, isBind x.1) : opening (early ++ rest) = early := by
  have unbound : ∀ x ∈ early, (!isBind x.1) = true := by
    intro x hx
    have preliminary := first x hx
    cases hc : x.1 <;> simp_all [isBind, Preliminary]
  rw [opening, List.takeWhile_append_of_pos unbound]
  cases rest with
  | nil => simp
  | cons x rest => simp [next x rfl]

/-- A reconcile in two parts: what comes before it binds an adapter, and the rest if it does. -/
theorem parts_of_yields (run : (program key).Yields xs result) :
    ∃ held, Opens key (opening xs) held ∧
      (held = none ∧ xs = opening xs ∨ ∃ v rest, held = some v ∧ xs = opening xs ++ rest ∧
        (sync v key).Yields rest result) := by
  obtain ⟨early, held, rest, rfl, opens, went⟩ := opens_of_yields run
  have next : ∀ x ∈ rest.head?, isBind x.1 := by
    rcases went with ⟨-, rfl, -⟩ | ⟨v, -, synced⟩
    · simp
    · obtain ⟨bound, later, rfl⟩ := sync_bind synced
      simp [isBind]
  have cut := opening_eq opens.preliminary next
  rw [cut]
  refine ⟨held, opens, ?_⟩
  rcases went with ⟨none, rfl, -⟩ | ⟨v, adopted, synced⟩
  · exact Or.inl ⟨none, List.append_nil early⟩
  · exact Or.inr ⟨v, rest, adopted, rfl, synced⟩

/-! ## What is protected -/

section Parts

variable (run : (program key).Yields xs result)
include run

/-- The finalizer is written before an adapter is bound, and on a version that was read without it. -/
theorem object_write {w : Role} {answer : Except Fault Role}
    (hx : ⟨.write w .object, answer⟩ ∈ xs) :
    ∃ v, ⟨.get key, .ok (some v)⟩ ∈ opening xs ∧ v.hasFinalizer = false ∧ w = v.addFinalizer := by
  obtain ⟨held, opens, ⟨-, whole⟩ | ⟨v, rest, -, whole, synced⟩⟩ := parts_of_yields run
  · rw [whole] at hx
    exact (opens.writes hx).2
  · rw [whole] at hx
    rcases List.mem_append.1 hx with first | later
    · exact (opens.writes first).2
    · -- The rest writes the status alone.
      exact absurd (sync_write synced later).1 (by simp)

theorem status_write {w : Role} {answer : Except Fault Role}
    (hx : ⟨.write w .status, answer⟩ ∈ xs) :
    ∃ v, ⟨.get key, .ok (some v)⟩ ∈ xs ∧ w.metadata = v.metadata := by
  obtain ⟨held, opens, ⟨-, whole⟩ | ⟨v, rest, -, whole, synced⟩⟩ := parts_of_yields run
  · rw [whole] at hx
    exact absurd (opens.writes hx).1 (by simp)
  · rw [whole] at hx ⊢
    rcases List.mem_append.1 hx with first | later
    · exact absurd (opens.writes first).1 (by simp)
    · obtain ⟨-, u, read, same⟩ := sync_write synced later
      exact ⟨u, List.mem_append_right _ read, same⟩

/-- A role is created for the version that the first part has left to go on with. -/
theorem create_held {answer : Except Fault Unit} (hx : ⟨.create role, answer⟩ ∈ xs) :
    Opens key (opening xs) (some role) := by
  obtain ⟨held, opens, ⟨-, whole⟩ | ⟨v, rest, rfl, whole, synced⟩⟩ := parts_of_yields run
  · rw [whole] at hx
    exact absurd (opens.preliminary _ hx) id
  · rw [whole] at hx
    rcases List.mem_append.1 hx with first | later
    · exact absurd (opens.preliminary _ first) id
    · rwa [sync_create synced later]

theorem create_hasFinalizer {answer : Except Fault Unit} (faithful : Faithful xs)
    (hx : ⟨.create role, answer⟩ ∈ xs) : role.hasFinalizer := by
  rcases (create_held run hx).adopts rfl with ⟨-, held⟩ | ⟨-, held⟩ | ⟨v, -, -, written⟩
  · exact held
  · exact held
  · rw [(faithful _ _ _ (mem_of_mem_opening written)).1]
    exact Role.hasFinalizer_addFinalizer v

end Parts

/-- A reconcile holds on to all that it creates, whatever happens to the object meanwhile. It keeps off
versions that are being deleted exactly if each one that it reads before it binds an adapter has the
finalizer already, and is not the one to create a role for. -/
theorem protected_iff_reads (run : (program key).Yields xs result) (faithful : Faithful xs) :
    (∀ w answer, ⟨.write w .object, answer⟩ ∈ xs → ∃ v,
      ⟨.get key, .ok (some v)⟩ ∈ opening xs ∧ v.hasFinalizer = false ∧ w = v.addFinalizer) ∧
    (∀ w answer, ⟨.write w .status, answer⟩ ∈ xs → ∃ v,
      ⟨.get key, .ok (some v)⟩ ∈ xs ∧ w.metadata = v.metadata) ∧
    (∀ role answer, ⟨.create role, answer⟩ ∈ xs → role.hasFinalizer) ∧
    (Protected key xs ↔ ∀ v, ⟨.get key, .ok (some v)⟩ ∈ opening xs → v.isDeleting →
      v.hasFinalizer ∧ ∀ role answer, ⟨.create role, answer⟩ ∉ xs) := by
  refine ⟨fun w answer => object_write run, fun w answer => status_write run,
    fun role answer => create_hasFinalizer run faithful, ?_, fun unmarked => ?_⟩
  · intro safe v read deleting
    obtain ⟨held, opens, -⟩ := parts_of_yields run
    rcases opens.reads read with ⟨free, answer, written⟩ | ⟨has, -⟩
    · have alive := safe.added v answer (mem_of_mem_opening read) free (mem_of_mem_opening written)
      simp [alive] at deleting
    · refine ⟨has, fun role answer created => ?_⟩
      have alive := (safe.created role answer created).2
      rcases (create_held run created).reads read with ⟨free, -⟩ | ⟨-, same⟩
      · simp [has] at free
      · obtain rfl : role = v := Option.some.inj same
        simp [alive] at deleting
  constructor
  · intro role answer created
    refine ⟨create_hasFinalizer run faithful created, Bool.eq_false_iff.2 fun deleting => ?_⟩
    rcases (create_held run created).adopts rfl with ⟨alive, -⟩ | ⟨read, -⟩ | ⟨v, read, free, written⟩
    · simp [alive] at deleting
    · exact (unmarked role read deleting).2 role answer created
    · rw [(faithful _ _ _ (mem_of_mem_opening written)).2,
        Scene.harmless_addFinalizer.deleting] at deleting
      simp [(unmarked v read deleting).1] at free
  · intro v answer read free written
    obtain ⟨u, seen, unheld, same⟩ := object_write run written
    have alike : v.isDeleting = u.isDeleting := by
      rw [← Scene.harmless_addFinalizer.deleting v, same, Scene.harmless_addFinalizer.deleting]
    rw [alike]
    refine Bool.eq_false_iff.2 fun deleting => ?_
    simp [(unmarked u seen deleting).1] at unheld

theorem auditorRun_faithful : Faithful auditorRun := by
  intro w target u hx
  simp [auditorRun] at hx
  rcases hx with ⟨⟨rfl, rfl⟩, rfl⟩ | ⟨⟨rfl, rfl⟩, rfl⟩ <;> exact ⟨rfl, rfl⟩

theorem auditorRun_protected : (program auditorKey).Yields auditorRun (.ok ()) ∧
    Faithful auditorRun ∧ Protected auditorKey auditorRun := by
  refine ⟨auditorRun_yields, auditorRun_faithful, ?_⟩
  refine (protected_iff_reads auditorRun_yields auditorRun_faithful).2.2.2.2 fun v read deleting => ?_
  -- The one version that is read before an adapter is bound is not being deleted.
  obtain rfl : v = auditor 2 "write" "2" := by simpa [opening, auditorRun, isBind] using read
  cases deleting

/-- The object as it is by the time it is read: being deleted, and held by somebody else alone. -/
def departingAuditor : Role where
  metadata := { (auditor 1 "read" "2").metadata with
                deletionTimestamp := some ⟨0, 0⟩, finalizers := some ["other.example.com"] }
  spec := (auditor 1 "read" "2").spec

/-- The object with the finalizer, as the store has accepted it. -/
def seizedAuditor : Role := departingAuditor.addFinalizer.withVersion "3"

def reportedAuditor : Role := seizedAuditor.mapStatus fun s => s.setSuccess (some 1)

/-- The cache does not know of the deletion yet. -/
def overtakenRun : List Exchange :=
  [⟨.cached auditorKey, some (auditor 1 "read" "1")⟩,
    ⟨.get auditorKey, .ok (some departingAuditor)⟩,
    ⟨.write departingAuditor.addFinalizer .object, .ok seizedAuditor⟩,
    ⟨.bind seizedAuditor, .ok ()⟩, ⟨.create seizedAuditor, .ok ()⟩,
    ⟨.get auditorKey, .ok (some seizedAuditor)⟩,
    ⟨.write reportedAuditor .status, .ok (reportedAuditor.withVersion "4")⟩]

/-- A role is created for an object that is being deleted already and was on its way out. -/
theorem overtakenRun_unprotected : ¬ ∀ key xs result, (program key).Yields xs result →
    Faithful xs → Protected key xs := by
  intro always
  have run : (program auditorKey).Yields overtakenRun (.ok ()) := by
    repeat apply Program.yields_ask.2
    exact ⟨rfl, rfl⟩
  have faithful : Faithful overtakenRun := by
    intro w target u hx
    simp [overtakenRun] at hx
    rcases hx with ⟨⟨rfl, rfl⟩, rfl⟩ | ⟨⟨rfl, rfl⟩, rfl⟩ <;> exact ⟨rfl, rfl⟩
  have created : ⟨.create seizedAuditor, .ok ()⟩ ∈ overtakenRun := by simp [overtakenRun]
  exact absurd ((always _ _ _ run faithful).created _ _ created).2 (by decide)

end RoleOperator.Reconcile
