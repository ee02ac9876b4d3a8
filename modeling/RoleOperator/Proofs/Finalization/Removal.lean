import RoleOperator.Proofs.Finalization.Course
import RoleOperator.Proofs.Program.Attempts
import RoleOperator.Proofs.Reconcile.Convergence
import RoleOperator.Proofs.Role.Finalizers

/-!
# Removal of the finalizer

A removal is a patch for which an object that is gone is as good as one without the finalizer. It has
nothing to do where the finalizer is absent from the list of finalizers. Where the list itself is
absent it becomes an empty one, and that shows.
-/
namespace RoleOperator.Finalization

variable {key : ObjectKey} {xs : List Exchange} {result : Except Fault Unit} {v : Role}

/-! ## Success -/

/-- The exchange takes the finalizer off, finds nothing to take off, or finds the object gone. -/
inductive Frees (key : ObjectKey) : Exchange → Prop where
  | written (v u : Role) : Frees key ⟨.write v.removeFinalizer .object, .ok u⟩
  | unchanged {v : Role} (same : v.removeFinalizer.toJson = v.toJson) :
      Frees key ⟨.get key, .ok (some v)⟩
  | gone {x : Exchange} {e : Fault} (fails : Patch.fault? x = some e) (notFound : e.isNotFound) :
      Frees key x

/-- The exchanges of a removal, and whether it has succeeded. -/
structure Removal (key : ObjectKey) (xs : List Exchange) (removed : Bool) : Prop where
  tries : ∃ n < Patch.attempts, ∃ patched,
    Patch.Tries key .object Role.removeFinalizer n xs patched
  settles : removed ↔ ∃ x, xs.getLast? = some x ∧ Frees key x

theorem Removal.length_le {removed : Bool} (h : Removal key xs removed) : xs.length ≤ 10 := by
  obtain ⟨n, few, patched, tries⟩ := h.tries
  have length := tries.length_le
  have five : n < 5 := few
  omega

/-- The result of a removal from that of its patch. -/
def forgive : Except Fault Role → Except Fault Unit
  | .ok _ => .ok ()
  | .error e => if e.isNotFound then .ok () else .error e

theorem unregister_yields (run : (unregister key).Yields xs result) :
    ∃ patched, (patch key .object Role.removeFinalizer).Yields xs patched ∧
      result = forgive patched := by
  obtain ⟨ys, zs, patched, rfl, taken, ending⟩ := Program.yields_bind.1 run
  rcases patched with e | u <;>
    · obtain ⟨rfl, rfl⟩ := Program.yields_pure.1 ending
      exact ⟨_, by rwa [List.append_nil], rfl⟩

theorem frees_iff_of_fault {x : Exchange} {e : Fault} (fails : Patch.fault? x = some e) :
    Frees key x ↔ e.isNotFound := by
  constructor
  · intro h
    cases h with
    | written => cases fails
    | unchanged => cases fails
    | gone fails' notFound =>
      obtain rfl : e = _ := Option.some.inj (fails.symm.trans fails')
      exact notFound
  · intro notFound
    exact .gone fails notFound

theorem forgive_isOk {e : Fault} : (forgive (.error e)).isOk = e.isNotFound := by
  cases h : e.isNotFound <;> simp [forgive, h, Except.isOk, Except.toBool]

/-- Whether the last attempt frees the object is decided by its last exchange. -/
theorem last_frees {n : Nat} {patched : Except Fault Role}
    (tries : Patch.Tries key .object Role.removeFinalizer n xs patched) :
    ∃ x, xs.getLast? = some x ∧ ((forgive patched).isOk ↔ Frees key x) := by
  obtain ⟨lost, ending, rfl, concluded⟩ := tries.concludes
  cases concluded with
  | unread e =>
    exact ⟨⟨.get key, .error e⟩, by simp, by rw [forgive_isOk, frees_iff_of_fault rfl]⟩
  | absent =>
    exact ⟨⟨.get key, .ok none⟩, by simp, by rw [forgive_isOk, frees_iff_of_fault rfl]⟩
  | @unchanged v same =>
    exact ⟨⟨.get key, .ok (some v)⟩, by simp, fun _ => .unchanged same, fun _ => rfl⟩
  | @answered v shows =>
    refine ⟨⟨.write v.removeFinalizer .object, patched⟩, by simp, ?_⟩
    cases patched with
    | error e => rw [forgive_isOk, frees_iff_of_fault rfl]
    | ok u => exact ⟨fun _ => .written v u, fun _ => rfl⟩

theorem removal_of_yields (run : (unregister key).Yields xs result) :
    Removal key xs result.isOk := by
  obtain ⟨patched, taken, rfl⟩ := unregister_yields run
  obtain ⟨n, few, tries⟩ := Patch.tries_of_yields taken
  obtain ⟨x, hx, same⟩ := last_frees tries
  exact ⟨⟨n, few, patched, tries⟩, by simp [hx, same]⟩

/-- The patch behind a removal has the same success. -/
theorem Removal.exists_tries {removed : Bool} (h : Removal key xs removed) :
    ∃ n patched, Patch.Tries key .object Role.removeFinalizer n xs patched ∧
      removed = (forgive patched).isOk := by
  obtain ⟨n, -, patched, tries⟩ := h.tries
  obtain ⟨x, hx, same⟩ := last_frees tries
  refine ⟨n, patched, tries, Bool.eq_iff_iff.2 ?_⟩
  rw [h.settles, same]
  simp [hx]

/-! ## Nothing to do -/

/-- A removal that finds this version ends there, with success. -/
def Idle (key : ObjectKey) (v : Role) : Prop :=
  ∀ xs result, (unregister key).Yields (⟨.get key, .ok (some v)⟩ :: xs) result →
    xs = [] ∧ result = .ok ()

/-- The first attempt of a removal that finds the object. -/
theorem unregister_found {xs : List Exchange} :
    (unregister key).Yields (⟨.get key, .ok (some v)⟩ :: xs) result →
      (v.removeFinalizer.toJson = v.toJson ∧ xs = [] ∧ result = .ok ()) ∨
        v.removeFinalizer.toJson ≠ v.toJson ∧
          ∃ answer rest, xs = ⟨.write v.removeFinalizer .object, answer⟩ :: rest := by
  intro run
  obtain ⟨patched, taken, rfl⟩ := unregister_yields run
  obtain ⟨n, -, tries⟩ := Patch.tries_of_yields taken
  cases tries with
  | last concluded =>
    cases concluded with
    | unchanged same => exact Or.inl ⟨same, rfl, rfl⟩
    | answered shows => exact Or.inr ⟨shows, patched, [], rfl⟩
  | again shows conflict rest => exact Or.inr ⟨shows, _, _, rfl⟩

theorem idle_of_same (same : v.removeFinalizer.toJson = v.toJson) : Idle key v := by
  intro xs result run
  rcases unregister_found run with ⟨-, ends⟩ | ⟨shows, -⟩
  · exact ends
  · exact absurd same shows

theorem not_idle (shows : v.removeFinalizer.toJson ≠ v.toJson) : ¬ Idle key v := by
  intro idle
  have run : (unregister key).Yields [⟨.get key, .ok (some v)⟩,
      ⟨.write v.removeFinalizer .object, .ok v⟩] (.ok ()) := by
    refine Program.yields_ask.2 ?_
    simp only [shows, if_false]
    exact Program.yields_ask.2 ⟨rfl, rfl⟩
  exact absurd (idle _ _ run).1 (by simp)

end RoleOperator.Finalization

namespace RoleOperator.Quiet

open Finalization

variable {reply : (c : Call) → c.Answer} {key : ObjectKey} {v : Role} {w : Quiet}

/-- Where there is nothing to take off, everything stays as it is. -/
theorem unregister_same (same : v.removeFinalizer.toJson = v.toJson)
    (stored : w.table.get? key = some v) :
    exec reply (unregister key) w =
      (.ok (), { w with past := w.past ++ [⟨.get key, .ok (some v)⟩] }) := by
  rw [unregister, exec_bind, exec_patch_same stored same]
  rfl

/-- Else the object is written without the finalizer, and goes if it was to be deleted. -/
theorem unregister_shows (reply : (c : Call) → c.Answer)
    (shows : v.removeFinalizer.toJson ≠ v.toJson) (sound : w.table.Sound) (calm : w.table.Calm)
    (stored : w.table.get? key = some v) :
    ∃ w', exec reply (unregister key) w = (.ok (), w') ∧
      writes w'.past = writes w.past ++ [(v.removeFinalizer, .object)] ∧
      w'.table.get? key =
        if v.isDeleting && v.removeFinalizer.metadata.finalizerList.isEmpty then none
        else some (v.removeFinalizer.withVersion w.table.fresh) := by
  have named : v.removeFinalizer.metadata.key? = some key := sound.named key v stored
  obtain ⟨t, accepted⟩ := ObjectTable.write_ok calm .object stored named rfl
  obtain ⟨key', current, named', _, _, _, _, objects⟩ := ObjectTable.write_accepted accepted
  obtain rfl : key = key' := Option.some.inj (named.symm.trans named')
  rw [unregister, exec_bind, exec_patch_shows stored shows accepted]
  refine ⟨_, rfl, ?_, ?_⟩
  · change writes (w.past ++ [_] ++ [_]) = _
    simp [writes]
  · change t.get? key = _
    rw [objects, if_pos rfl]
    rfl

/-- An object that does not carry the finalizer is left alone exactly if it has a list of finalizers.
Without one, a removal writes an empty list, so that the object gets a new version or goes. -/
theorem removal_idle_iff (free : v.hasFinalizer = false) :
    (Idle key v ↔ v.metadata.finalizers ≠ none) ∧
    (v.metadata.finalizers ≠ none → ∀ reply (w : Quiet), w.table.get? key = some v →
      exec reply (unregister key) w =
        (.ok (), { w with past := w.past ++ [⟨.get key, .ok (some v)⟩] })) ∧
    (v.metadata.finalizers = none → ∀ reply (w : Quiet), w.table.Sound → w.table.Calm →
      w.table.get? key = some v →
      ∃ w', exec reply (unregister key) w = (.ok (), w') ∧
        writes w'.past = writes w.past ++ [(v.withFinalizers [], .object)] ∧
        w'.table.get? key =
          if v.isDeleting then none
          else some ((v.withFinalizers []).withVersion w.table.fresh)) := by
  have listed := Role.removeFinalizer_toJson_eq free
  refine ⟨⟨fun idle absent => ?_, fun present => ?_⟩, fun present reply w stored => ?_,
    fun absent reply w sound calm stored => ?_⟩
  · exact not_idle (fun same => listed.1 same absent) idle
  · exact idle_of_same (listed.2 present)
  · exact unregister_same (listed.2 present) stored
  · have shows : v.removeFinalizer.toJson ≠ v.toJson := fun same => listed.1 same absent
    have emptied : v.removeFinalizer = v.withFinalizers [] := Role.removeFinalizer_of_none absent
    obtain ⟨w', run, written, left⟩ := unregister_shows reply shows sound calm stored
    rw [emptied] at written left
    refine ⟨w', run, written, ?_⟩
    simpa [Role.withFinalizers, Metadata.finalizerList] using left

/-- An object on its way out that somebody else holds. -/
def lent : Role := departing.withFinalizers ["other.example.com"]

theorem lent_idle : lent.hasFinalizer = false ∧ Idle ⟨some "demo", "reader"⟩ lent := by
  have free : lent.hasFinalizer = false := by decide
  have listed : lent.metadata.finalizers ≠ none := by decide
  exact ⟨free, (removal_idle_iff free).1.2 listed⟩

/-- An object that has never had a finalizer. -/
def bare : Role :=
  { departing with
    metadata := { departing.metadata with deletionTimestamp := none, finalizers := none } }

/-- It is written all the same. -/
theorem bare_rewritten : ¬ ∀ key v reply (w : Quiet), v.hasFinalizer = false →
    w.table.get? key = some v → writes (exec reply (unregister key) w).2.past = writes w.past := by
  intro always
  let reply := answering departing (.ok departing)
  let w : Quiet := { table := ObjectTable.insert {} bare }
  have stored : w.table.get? ⟨some "demo", "reader"⟩ = some (bare.withVersion "1") := rfl
  have free : (bare.withVersion "1").hasFinalizer = false := rfl
  have shows : (bare.withVersion "1").removeFinalizer.toJson ≠ (bare.withVersion "1").toJson :=
    fun same => (Role.removeFinalizer_toJson_eq free).1 same rfl
  have sound : w.table.Sound := ObjectTable.sound_empty.evolves (ObjectTable.insert_evolves {} bare)
  obtain ⟨w', run, written, -⟩ :=
    unregister_shows reply shows sound ⟨rfl, rfl⟩ stored
  have unwritten := always _ _ reply w free stored
  rw [run, written] at unwritten
  simp at unwritten

end RoleOperator.Quiet
