import Mathlib.Data.List.Induction
import RoleOperator.Proofs.Finalization.Clearing
import RoleOperator.Proofs.Finalization.Successor
import RoleOperator.Proofs.Reconcile.Scene
import RoleOperator.Proofs.Role.Identity

/-!
# What is left in Vault

The whole life of an object: a user creates it and changes what it asks for, it is reconciled now and
then, and at last it is deleted. Each reconcile writes to where the object says at that time, and the
finalization deletes from where it says in the end.
-/
namespace RoleOperator

open Finalization (Backed Spares Deleted Report answering clears_of_completed conduct exchanges
  willing)

namespace VaultRoles

variable {v : VaultRoles} {role : Role} {path : String} {x : Exchange} {xs : List Exchange}

theorem after_other (spares : Spares role x.1) (other : path ≠ role.vaultPath) :
    (v.after x).lookup path = v.lookup path := by
  obtain ⟨call, answer⟩ := x
  cases call with
  | create => cases spares
  | delete r name =>
    obtain ⟨rfl, rfl⟩ := spares
    cases answer with
    | error => rfl
    | ok => exact (lookup_filter_ne v path r.vaultPath).trans (if_neg other)
  | _ => rfl

theorem after_own (spares : Spares role x.1) (gone : v.lookup role.vaultPath = none) :
    (v.after x).lookup role.vaultPath = none := by
  obtain ⟨call, answer⟩ := x
  cases call with
  | create => cases spares
  | delete r name =>
    obtain ⟨rfl, rfl⟩ := spares
    cases answer with
    | error => exact gone
    | ok => exact (lookup_filter_ne v r.vaultPath r.vaultPath).trans (if_pos rfl)
  | _ => exact gone

theorem foldl_other (spares : ∀ x ∈ xs, Spares role x.1) (other : path ≠ role.vaultPath) :
    (xs.foldl after v).lookup path = v.lookup path := by
  induction xs generalizing v with
  | nil => rfl
  | cons x xs ih =>
    rw [List.foldl_cons, ih fun y hy => spares y (List.mem_cons_of_mem x hy)]
    exact after_other (spares x List.mem_cons_self) other

theorem foldl_own (spares : ∀ x ∈ xs, Spares role x.1) (gone : v.lookup role.vaultPath = none) :
    (xs.foldl after v).lookup role.vaultPath = none := by
  induction xs generalizing v with
  | nil => exact gone
  | cons x xs ih =>
    rw [List.foldl_cons]
    exact ih (fun y hy => spares y (List.mem_cons_of_mem x hy))
      (after_own (spares x List.mem_cons_self) gone)

/-- What a completed finalization leaves of the roles. -/
theorem foldl_cleared (spares : ∀ x ∈ xs, Spares role x.1) (deleted : Deleted role xs) :
    (xs.foldl after v).lookup path = if path = role.vaultPath then none else v.lookup path := by
  split
  · next he =>
    obtain ⟨first, rest, rfl⟩ := List.append_of_mem deleted
    rw [he, List.foldl_append, List.foldl_cons]
    refine foldl_own (fun y hy => spares y (by simp [hy])) ?_
    exact (lookup_filter_ne _ role.vaultPath role.vaultPath).trans (if_pos rfl)
  · next other => exact foldl_other spares other

theorem eq_nil_of_lookup (h : ∀ path, v.lookup path = none) : v = [] := by
  cases v with
  | nil => rfl
  | cons e rest => simpa using h e.1

end VaultRoles

namespace Scene

inductive Event where
  | edit (spec : RoleSpec)
  | reconcile (reply : (c : Call) → c.Answer)

/-- The object as it is after a user has changed what it asks for. -/
def edited (v : Role) (spec : RoleSpec) : Role :=
  { v with
    metadata := { v.metadata with generation := v.metadata.generation.map (· + 1) }
    spec := spec }

def marked (v : Role) (time : Timestamp) : Role :=
  { v with metadata := { v.metadata with deletionTimestamp := some time } }

/-- A user changes what the object asks for. Its kind cannot be changed. -/
def edit (s : Scene) (key : ObjectKey) (spec : RoleSpec) : Scene :=
  match s.table.get? key with
  | none => s
  | some v =>
    if spec.kind = v.kind then { s with table := s.table.insert (edited v spec) } else s

def act (s : Scene) (key : ObjectKey) : Event → Scene
  | .edit spec => s.edit key spec
  | .reconcile reply => (exec reply (Reconcile.program key) s).2

def play (s : Scene) (key : ObjectKey) (events : List Event) : Scene := events.foldl (·.act key ·) s

/-- A user deletes the object. It goes at once if nobody holds on to it. -/
def delete (s : Scene) (key : ObjectKey) (time : Timestamp) : Scene :=
  match s.table.get? key with
  | none => s
  | some v =>
    if v.metadata.finalizerList.isEmpty then { s with table := s.table.remove key }
    else { s with table := s.table.insert (marked v time) }

end Scene

open Scene (Event)

/-- An object from its creation to the first reconcile after its deletion. -/
structure Life where
  key : ObjectKey
  role : Role
  named : role.metadata.key? = some key
  alive : role.isDeleting = false
  events : List Event
  deletedAt : Timestamp
  reply : (c : Call) → c.Answer

namespace Life

variable {l : Life} {events : List Event}

/-- The scene after some events of the life. -/
def after (l : Life) (events : List Event) : Scene :=
  Scene.play { table := ({} : ObjectTable).insert l.role } l.key events

def ending (l : Life) : Scene :=
  ((l.after l.events).delete l.key l.deletedAt).act l.key (.reconcile l.reply)

/-- What is known of the scene before the object is deleted. -/
structure Grown (l : Life) (events : List Event) (s : Scene) : Prop where
  sound : s.table.Sound
  alive : ∀ v, s.table.get? l.key = some v → v.isDeleting = false
  handed : s.handed = none
  entries : ∀ path, (s.vault.lookup path).isSome ↔ ∃ w ∈ s.created, w.vaultPath = path
  named : ∀ w ∈ s.created, w.metadata.key? = some l.key
  origin : ∀ w ∈ s.created, ∃ before reply later v, events = before ++ .reconcile reply :: later ∧
    (l.after before).table.get? l.key = some v ∧ w.spec = v.spec

theorem after_snoc (l : Life) (events : List Event) (e : Event) :
    l.after (events ++ [e]) = (l.after events).act l.key e := by
  simp [after, Scene.play]

theorem Grown.edit (h : l.Grown events (l.after events)) (spec : RoleSpec) :
    l.Grown (events ++ [.edit spec]) ((l.after events).edit l.key spec) := by
  have origin : ∀ w ∈ (l.after events).created, ∃ before reply later v,
      events ++ [.edit spec] = before ++ .reconcile reply :: later ∧
        (l.after before).table.get? l.key = some v ∧ w.spec = v.spec := by
    intro w hw
    obtain ⟨before, reply, later, v, rfl, stored, spec_eq⟩ := h.origin w hw
    exact ⟨before, reply, later ++ [.edit spec], v, by simp, stored, spec_eq⟩
  unfold Scene.edit
  split
  · exact { h with origin := origin }
  · next v stored =>
    split
    · have named : (Scene.edited v spec).metadata.key? = some l.key := h.sound.named l.key v stored
      refine ⟨h.sound.evolves (ObjectTable.insert_evolves _ _), ?_, h.handed, h.entries, h.named,
        origin⟩
      intro w hw
      rw [ObjectTable.get?_insert _ named, if_pos rfl] at hw
      cases hw
      exact h.alive v stored
    · exact { h with origin := origin }

theorem reconcile_absent {s : Scene} {key : ObjectKey} {reply : (c : Call) → c.Answer}
    (absent : s.table.get? key = none) : s.act key (.reconcile reply) = s := by
  rw [Scene.act, Reconcile.program, Scene.exec_bind, Scene.exec_perform]
  simp only [Scene.answer, absent]
  rfl

theorem reconcile_deleting {s : Scene} {key : ObjectKey} {reply : (c : Call) → c.Answer} {v : Role}
    (stored : s.table.get? key = some v) (deleting : v.isDeleting) :
    s.act key (.reconcile reply) = if v.hasFinalizer then { s with handed := some v } else s := by
  rw [Scene.act, Reconcile.program, Scene.exec_bind, Scene.exec_perform]
  simp only [Scene.answer, stored, deleting, if_true]
  cases v.hasFinalizer <;> rfl

theorem Grown.reconcile (h : l.Grown events (l.after events)) (reply : (c : Call) → c.Answer) :
    l.Grown (events ++ [.reconcile reply]) ((l.after events).act l.key (.reconcile reply)) := by
  have origin : ∀ w ∈ (l.after events).created, ∃ before reply' later v,
      events ++ [.reconcile reply] = before ++ .reconcile reply' :: later ∧
        (l.after before).table.get? l.key = some v ∧ w.spec = v.spec := by
    intro w hw
    obtain ⟨before, reply', later, v, he, stored, spec_eq⟩ := h.origin w hw
    exact ⟨before, reply', later ++ [.reconcile reply], v, by simp [he], stored, spec_eq⟩
  cases stored : (l.after events).table.get? l.key with
  | none =>
    rw [reconcile_absent stored]
    exact { h with origin := origin }
  | some v =>
    have synced : Scene.Synced l.key v.spec (l.after events)
        ((l.after events).act l.key (.reconcile reply)) :=
      Scene.reconcile_synced h.sound stored (h.alive v stored)
    obtain ⟨sound, ⟨w, stored', _, lives⟩, handed, effect⟩ := synced
    have alive : ∀ u, ((l.after events).act l.key (.reconcile reply)).table.get? l.key = some u →
        u.isDeleting = false := by
      intro u hu
      cases stored'.symm.trans hu
      exact lives
    rcases effect with ⟨vault, created⟩ | ⟨r, body, spec_eq, named, _, vault, created⟩
    · refine ⟨sound, alive, handed.trans h.handed, ?_, ?_, ?_⟩
      · rw [vault, created]
        exact h.entries
      · rw [created]
        exact h.named
      · rw [created]
        exact origin
    · refine ⟨sound, alive, handed.trans h.handed, ?_, ?_, ?_⟩
      · intro path
        rw [vault, created, lookup_replace]
        by_cases he : path = r.vaultPath
        · simp [he]
        · simp [he, h.entries, Ne.symm he]
      · rw [created]
        intro u hu
        rcases List.mem_append.1 hu with hu | hu
        · exact h.named u hu
        · rw [List.mem_singleton.1 hu]
          exact named
      · rw [created]
        intro u hu
        rcases List.mem_append.1 hu with hu | hu
        · exact origin u hu
        · exact ⟨events, reply, [], v, rfl, stored, by rw [List.mem_singleton.1 hu, spec_eq]⟩

theorem grown (l : Life) (events : List Event) : l.Grown events (l.after events) := by
  induction events using List.reverseRecOn with
  | nil =>
    refine ⟨ObjectTable.sound_empty.evolves (ObjectTable.insert_evolves _ _), ?_, rfl, ?_, ?_, ?_⟩
    · intro v hv
      have stored : (({} : ObjectTable).insert l.role).get? l.key = some v := hv
      rw [ObjectTable.get?_insert _ l.named, if_pos rfl] at stored
      cases stored
      exact l.alive
    · simp [after, Scene.play]
    · simp [after, Scene.play]
    · simp [after, Scene.play]
  | append_singleton events e ih =>
    rw [after_snoc]
    cases e with
    | edit spec => exact ih.edit spec
    | reconcile reply => exact ih.reconcile reply

/-! ## After the deletion -/

/-- The object is handed over as it was when it was deleted, and nothing is created any more. -/
theorem ending_of_handed {role : Role} (handed : l.ending.handed = some role) :
    ∃ v, (l.after l.events).table.get? l.key = some v ∧ role.spec = v.spec ∧
      role.metadata.key? = some l.key ∧ l.ending.vault = (l.after l.events).vault ∧
      l.ending.created = (l.after l.events).created := by
  have h := l.grown l.events
  unfold ending Scene.delete at handed ⊢
  cases stored : (l.after l.events).table.get? l.key with
  | none =>
    simp only [stored, reconcile_absent stored, h.handed] at handed
    cases handed
  | some v =>
    have named := h.sound.named l.key v stored
    simp only [stored] at handed ⊢
    split at handed
    · -- Nobody held on to the object, so it is not there any more.
      have absent : ((l.after l.events).table.remove l.key).get? l.key = none := by
        rw [ObjectTable.get?_remove, if_pos rfl]
      rw [reconcile_absent absent, h.handed] at handed
      cases handed
    · next held =>
      have named' : (Scene.marked v l.deletedAt).metadata.key? = some l.key := named
      have stored' := ObjectTable.get?_insert (l.after l.events).table named' l.key
      rw [if_pos rfl] at stored'
      rw [reconcile_deleting stored' rfl] at handed
      rw [if_neg held, reconcile_deleting stored' rfl]
      split at handed
      · next token =>
        cases handed
        rw [if_pos token]
        exact ⟨v, rfl, rfl, named, rfl, rfl⟩
      · rw [h.handed] at handed
        cases handed

/-- That Vault is empty again after the completed finalization of a deleted object. -/
def NothingLeft : Prop :=
  ∀ (l : Life) settings begin registry role actions report, l.ending.handed = some role →
    conduct settings begin registry role actions = some report →
    Backed l.ending.table report.marks → report.outcome = some .completed →
    (exchanges report.marks).foldl VaultRoles.after l.ending.vault = []

/-- The object is moved to another engine between two reconciles. -/
def moved : Life where
  key := ⟨some "demo", "reader"⟩
  role := {
    metadata := { name := some "reader", ns := some "demo", generation := some 1 }
    spec := .gcp { secretType := "access_token", project := "ackube", bindings := "" } }
  named := rfl
  alive := rfl
  events := [.reconcile willing,
    .edit (.gcp
      { path := "gcp-team", secretType := "access_token", project := "ackube", bindings := "" }),
    .reconcile willing]
  deletedAt := ⟨0, 0⟩
  reply := willing

def leaver : Role where
  metadata := {
    name := some "reader", ns := some "demo", generation := some 2, resourceVersion := some "6"
    deletionTimestamp := some ⟨0, 0⟩, finalizers := some [Kind.gcp.finalizer] }
  spec := .gcp
    { path := "gcp-team", secretType := "access_token", project := "ackube", bindings := "" }
  status := some { phase := .success, observedGeneration := some 2 }

set_option maxRecDepth 4000 in
theorem moved_handed : moved.ending.handed = some leaver := rfl

/-- Everything succeeds, and the second read finds that the object has gone. -/
def departure : List Finalization.Action :=
  let stripped := leaver.removeFinalizer.withVersion "7"
  let gone : (c : Call) → c.Answer
    | .get _ => .ok none
    | c => willing c
  [.issue, .answer willing, .issue, .answer willing, .issue, .answer (answering leaver (.ok stripped)),
    .issue, .answer (answering leaver (.ok stripped)), .proceed false, .issue, .answer gone,
    .proceed false]

def departureMarks : List Finalization.Mark :=
  [.issued 0 (.bind leaver), .returned 0 (.bind leaver) (.ok ()),
    .issued 0 (.delete leaver leaver.vaultName),
    .returned 0 (.delete leaver leaver.vaultName) (.ok ()),
    .issued 0 (.get moved.key), .returned 0 (.get moved.key) (.ok (some leaver)),
    .issued 0 (.write leaver.removeFinalizer .object),
    .returned 0 (.write leaver.removeFinalizer .object)
      (.ok (leaver.removeFinalizer.withVersion "7")),
    .issued 0 (.get moved.key), .returned 0 (.get moved.key) (.ok none)]

theorem departure_completed :
    conduct {} 0 {} leaver departure = some ⟨some .completed, departureMarks⟩ := rfl

set_option maxRecDepth 4000 in
/-- The finalization deletes from the new engine, and what was written to the old one stays. -/
theorem old_engine_keeps : ¬ NothingLeft := by
  intro nothing
  have backed : Backed moved.ending.table departureMarks :=
    .issued <| .other (by simp) <| .issued <| .other (by simp) <| .issued <| .get <| .issued <|
      .write <| .issued <| .get .nil
  have left := nothing moved {} 0 {} leaver departure _ moved_handed departure_completed backed rfl
  have one : ((exchanges departureMarks).foldl VaultRoles.after moved.ending.vault).length = 1 := rfl
  rw [left] at one
  cases one

/-- After a completed finalization of a deleted object, an entry is left in Vault at each path that was
written to in its life and is not where the object says in the end; a path was written to if the
object said so at one of its reconciles. Nothing is left if its roles path was the same at all of them. -/
theorem left_iff_written_elsewhere {role : Role} (handed : l.ending.handed = some role)
    {settings : FinalizationSettings} {begin : Nat} {registry : Registry}
    {actions : List Finalization.Action} {report : Report}
    (h : conduct settings begin registry role actions = some report)
    (completed : report.outcome = some .completed) :
    (∃ v, (l.after l.events).table.get? l.key = some v ∧ role.vaultPath = v.vaultPath) ∧
    (∀ path,
      (((exchanges report.marks).foldl VaultRoles.after l.ending.vault).lookup path).isSome ↔
        path ≠ role.vaultPath ∧ ∃ w ∈ l.ending.created, w.vaultPath = path) ∧
    (∀ w ∈ l.ending.created, ∃ before reply later v,
      l.events = before ++ .reconcile reply :: later ∧
        (l.after before).table.get? l.key = some v ∧ w.vaultPath = v.vaultPath) ∧
    ((∀ before reply later v, l.events = before ++ .reconcile reply :: later →
        (l.after before).table.get? l.key = some v → v.spec.rolesPath = role.spec.rolesPath) →
      (exchanges report.marks).foldl VaultRoles.after l.ending.vault = []) := by
  obtain ⟨final, last, spec_eq, named, vault, created⟩ := ending_of_handed handed
  obtain ⟨deleted, spares⟩ := clears_of_completed h completed
  have grown := l.grown l.events
  have entries : ∀ path,
      (((exchanges report.marks).foldl VaultRoles.after l.ending.vault).lookup path).isSome ↔
        path ≠ role.vaultPath ∧ ∃ w ∈ l.ending.created, w.vaultPath = path := by
    intro path
    rw [VaultRoles.foldl_cleared spares deleted, created, vault, ← grown.entries]
    split <;> simp_all
  have written : ∀ w ∈ l.ending.created, ∃ before reply later v,
      l.events = before ++ .reconcile reply :: later ∧
        (l.after before).table.get? l.key = some v ∧ w.vaultPath = v.vaultPath := by
    intro w hw
    rw [created] at hw
    obtain ⟨before, reply, later, v, he, stored, same⟩ := grown.origin w hw
    have name := Role.vaultName_of_key (grown.named w hw) ((l.grown before).sound.named l.key v stored)
    exact ⟨before, reply, later, v, he, stored, by rw [Role.vaultPath, Role.vaultPath, same, name]⟩
  refine ⟨⟨final, last, ?_⟩, entries, written, fun steady => ?_⟩
  · have name := Role.vaultName_of_key named (grown.sound.named l.key final last)
    rw [Role.vaultPath, Role.vaultPath, spec_eq, name]
  · refine VaultRoles.eq_nil_of_lookup fun path => ?_
    by_contra left
    obtain ⟨other, w, hw, rfl⟩ := (entries path).1 (Option.isSome_iff_ne_none.2 left)
    obtain ⟨before, reply, later, v, he, stored, path_eq⟩ := written w hw
    have name := Role.vaultName_of_key ((l.grown before).sound.named l.key v stored) named
    have roles := steady before reply later v he stored
    exact other (by rw [path_eq, Role.vaultPath, Role.vaultPath, roles, name])

set_option maxRecDepth 4000 in
theorem moved_leaves_entry :
    moved.ending.handed = some leaver ∧
      conduct {} 0 {} leaver departure = some ⟨some .completed, departureMarks⟩ ∧
      (((exchanges departureMarks).foldl VaultRoles.after moved.ending.vault).lookup
        "gcp/roleset/k8s.demo.reader").isSome := by
  refine ⟨moved_handed, departure_completed, ?_⟩
  refine ((left_iff_written_elsewhere moved_handed departure_completed rfl).2.1 _).2 ⟨by decide, ?_⟩
  have created : moved.ending.created.map Role.vaultPath =
      ["gcp/roleset/k8s.demo.reader", "gcp-team/roleset/k8s.demo.reader"] := rfl
  have written : "gcp/roleset/k8s.demo.reader" ∈ moved.ending.created.map Role.vaultPath := by
    simp [created]
  exact List.mem_map.1 written

end Life
end RoleOperator
