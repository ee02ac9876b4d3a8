import RoleOperator.Proofs.Program.Discipline
import RoleOperator.Proofs.Store.Versions

/-!
# Patches in contention

Any number of patches work on one table at the same time, call by call, while others put objects into
it and writes are made to fail. What a patch writes replaces what it has just read, or it is refused.
-/
namespace RoleOperator

/-- A change that leaves the version of an object alone. -/
structure Mutation where
  apply : Role → Role
  version_kept : ∀ r, (apply r).metadata.resourceVersion = r.metadata.resourceVersion

/-- A patch with the calls it has made and what it has yet to do. -/
structure Patching where
  key : ObjectKey
  target : WriteTarget
  change : Mutation
  past : List Exchange := []
  rest : Program (Except Fault Role)

structure Contention where
  table : ObjectTable := {}
  patches : List Patching := []

/-- An answer from the table. A read can be made to fail, and a patch makes no other calls. -/
def ObjectTable.answer? (t : ObjectTable) (fault : Option Fault) :
    (c : Call) → Option (c.Answer × ObjectTable)
  | .get key => some (fault.elim (.ok (t.get? key)) .error, t)
  | .write role target => some (t.write role target)
  | _ => none

namespace Contention

inductive Action where
  | begin (key : ObjectKey) (target : WriteTarget) (change : Mutation)
  | advance (i : Nat) (fault : Option Fault)
  | insert (role : Role)
  | reject (writes : Nat)
  | fail (writes : Nat)

def advance (c : Contention) (i : Nat) (fault : Option Fault) : Option Contention :=
  c.patches[i]?.bind fun p =>
    match p.rest with
    | .done _ => none
    | .ask call next =>
      (c.table.answer? fault call).map fun (x, t) =>
        { table := t
          patches := c.patches.set i { p with past := p.past ++ [⟨call, x⟩], rest := next x } }

def step (c : Contention) : Action → Option Contention
  | .begin key target change =>
    some { c with
      patches := c.patches ++ [{ key, target, change, rest := patch key target change.apply }] }
  | .advance i fault => c.advance i fault
  | .insert role => some { c with table := c.table.insert role }
  | .reject writes => some { c with table := { c.table with conflictsLeft := writes } }
  | .fail writes => some { c with table := { c.table with failuresLeft := writes } }

def run (c : Contention) : List Action → Option Contention
  | [] => some c
  | a :: rest => (c.step a).bind fun c => c.run rest

end Contention

namespace Patching

variable {p : Patching} {past : List Exchange}

/-- A write that was accepted. -/
def Accepted : Exchange → Prop
  | ⟨.write _ _, .ok _⟩ => True
  | _ => False

/-- A patch reads its key, and writes the change of what it has just read. -/
def Allowed (p : Patching) (past : List Exchange) : Call → Prop
  | .get key => key = p.key
  | .write role target => target = p.target ∧
      ∃ v, past.getLast? = some ⟨.get p.key, .ok (some v)⟩ ∧ role = p.change.apply v
  | _ => False

/-- Until its end a patch gets no write through, and an error says that there was none. -/
def Ends (past : List Exchange) : Except Fault Role → Prop
  | .ok _ => True
  | .error _ => ∀ x ∈ past, ¬ Accepted x

theorem unaccepted_append (h : ∀ x ∈ past, ¬ Accepted x) {news : List Exchange}
    (hn : ∀ x ∈ news, ¬ Accepted x) : ∀ x ∈ past ++ news, ¬ Accepted x := by
  intro x hx
  rcases List.mem_append.1 hx with hx | hx
  · exact h x hx
  · exact hn x hx

theorem rule (p : Patching) :
    Patch.Rule (fun past => ∀ x ∈ past, ¬ Accepted x) p.Allowed Ends p.key p.target
      p.change.apply where
  read _ := rfl
  unread h := unaccepted_append h (by simp [Accepted])
  absent h := unaccepted_append h (by simp [Accepted])
  unchanged _ _ := trivial
  write _ _ := ⟨rfl, _, by simp, rfl⟩
  written _ _ := trivial
  refused h _ := unaccepted_append h (by simp [Accepted])
  again h _ _ := unaccepted_append h (by simp [Accepted])

end Patching

namespace Contention

variable {c c' : Contention} {i : Nat} {fault : Option Fault} {a : Action} {actions : List Action}

/-! ## One step -/

theorem advance_eq_some (h : c.advance i fault = some c') :
    ∃ (p : Patching) (call : Call) (next : call.Answer → Program (Except Fault Role))
      (x : call.Answer), c.patches[i]? = some p ∧ p.rest = .ask call next ∧
      c.table.answer? fault call = some (x, c'.table) ∧
      c'.patches = c.patches.set i { p with past := p.past ++ [⟨call, x⟩], rest := next x } := by
  obtain ⟨p, hp, h⟩ := Option.bind_eq_some_iff.1 h
  split at h
  · cases h
  · next call next hrest =>
    obtain ⟨⟨x, t⟩, answered, rfl⟩ := Option.map_eq_some_iff.1 h
    exact ⟨p, call, next, x, hp, hrest, answered, rfl⟩

theorem answer?_evolves {t t' : ObjectTable} {call : Call} {x : call.Answer}
    (h : t.answer? fault call = some (x, t')) : t.Evolves t' := by
  cases call with
  | get key =>
    cases h
    exact .same rfl rfl
  | write role target =>
    have he : t.write role target = (x, t') := Option.some.inj h
    have evolves := ObjectTable.write_evolves t role target
    rwa [he] at evolves
  | _ => cases h

theorem step_evolves (h : c.step a = some c') : c.table.Evolves c'.table := by
  cases a with
  | begin key target change | reject writes | fail writes =>
    cases h
    exact .same rfl rfl
  | insert role =>
    cases h
    exact ObjectTable.insert_evolves c.table role
  | advance i fault =>
    obtain ⟨p, call, next, x, _, _, answered, _⟩ := advance_eq_some h
    exact answer?_evolves answered

/-- What every patch has read and written so far agrees with the table. -/
structure Consistent (c : Contention) : Prop where
  sound : c.table.Sound
  disciplined : ∀ p ∈ c.patches, p.rest.Abides p.Allowed Patching.Ends p.past
  known : ∀ p ∈ c.patches, ∀ key v, ⟨.get key, .ok (some v)⟩ ∈ p.past → c.table.Known key v
  returned : ∀ p ∈ c.patches, ∀ role target w, ⟨.write role target, .ok w⟩ ∈ p.past →
    c.table.GivenOut w.metadata.resourceVersion

theorem consistent_empty : Consistent {} :=
  ⟨ObjectTable.sound_empty, by simp, by simp, by simp⟩

theorem Consistent.evolves (h : Consistent c) (e : c.table.Evolves c'.table)
    (patches : c'.patches = c.patches) : Consistent c' := by
  refine ⟨h.sound.evolves e, patches ▸ h.disciplined, ?_, ?_⟩
  · intro p hp key v read
    exact (h.known p (patches ▸ hp) key v read).evolves e
  · intro p hp role target w written
    exact (h.returned p (patches ▸ hp) role target w written).mono e.next_le

/-- What the table answers is known to it. -/
theorem answer?_known {t t' : ObjectTable} (sound : t.Sound) {call : Call} {x : call.Answer}
    (h : t.answer? fault call = some (x, t')) :
    (∀ key v, (⟨call, x⟩ : Exchange) = ⟨.get key, .ok (some v)⟩ → t'.Known key v) ∧
      ∀ role target w, (⟨call, x⟩ : Exchange) = ⟨.write role target, .ok w⟩ →
        t'.GivenOut w.metadata.resourceVersion := by
  refine ⟨fun key v he => ?_, fun role target w he => ?_⟩
  · cases he
    cases fault with
    | none =>
      have answered : some (t.get? key) = some (some v) ∧ t = t' := by
        simpa [ObjectTable.answer?] using h
      obtain ⟨stored, rfl⟩ := answered
      exact sound.known key v (Option.some.inj stored)
    | some e => simp [ObjectTable.answer?] at h
  · cases he
    obtain ⟨_, _, _, _, _, rfl, next, _⟩ := ObjectTable.write_accepted (Option.some.inj h)
    exact ⟨t.nextVersion, by omega, rfl⟩

theorem Consistent.advance (h : Consistent c) (s : c.advance i fault = some c') :
    Consistent c' := by
  obtain ⟨p, call, next, x, was, rest, answered, patches⟩ := advance_eq_some s
  have evolves := answer?_evolves answered
  obtain ⟨read, written⟩ := answer?_known h.sound answered
  have hp := List.mem_of_getElem? was
  have disciplined := h.disciplined p hp
  rw [rest] at disciplined
  have old : ∀ q ∈ c'.patches, q ∈ c.patches ∨
      q = { p with past := p.past ++ [⟨call, x⟩], rest := next x } := by
    intro q hq
    rw [patches] at hq
    exact List.mem_or_eq_of_mem_set hq
  refine ⟨h.sound.evolves evolves, ?_, ?_, ?_⟩
  · intro q hq
    rcases old q hq with hq | rfl
    · exact h.disciplined q hq
    · exact disciplined.2 x
  · intro q hq key v hv
    rcases old q hq with hq | rfl
    · exact (h.known q hq key v hv).evolves evolves
    · rcases List.mem_append.1 hv with hv | hv
      · exact (h.known p hp key v hv).evolves evolves
      · exact read key v (List.mem_singleton.1 hv).symm
  · intro q hq role target w hw
    rcases old q hq with hq | rfl
    · exact (h.returned q hq role target w hw).mono evolves.next_le
    · rcases List.mem_append.1 hw with hw | hw
      · exact (h.returned p hp role target w hw).mono evolves.next_le
      · exact written role target w (List.mem_singleton.1 hw).symm

theorem Consistent.step (h : Consistent c) (s : c.step a = some c') : Consistent c' := by
  have evolves := step_evolves s
  cases a with
  | advance i fault => exact h.advance s
  | insert role | reject writes | fail writes =>
    cases s
    exact h.evolves evolves rfl
  | begin key target change =>
    cases s
    refine ⟨h.sound, ?_, ?_, ?_⟩
    · intro p hp
      rcases List.mem_append.1 hp with hp | hp
      · exact h.disciplined p hp
      · rw [List.mem_singleton.1 hp]
        exact (Patching.rule _).patch (by simp)
    · intro p hp key v hv
      rcases List.mem_append.1 hp with hp | hp
      · exact h.known p hp key v hv
      · rw [List.mem_singleton.1 hp] at hv
        cases hv
    · intro p hp role target w hw
      rcases List.mem_append.1 hp with hp | hp
      · exact h.returned p hp role target w hw
      · rw [List.mem_singleton.1 hp] at hw
        cases hw

/-! ## Runs -/

theorem run_append (first second : List Action) :
    c.run (first ++ second) = (c.run first).bind fun c => c.run second := by
  induction first generalizing c with
  | nil => rfl
  | cons a rest ih =>
    simp only [List.cons_append, run, Option.bind_assoc]
    congr 1
    funext c
    exact ih

theorem Consistent.run (h : Consistent c) (r : c.run actions = some c') : Consistent c' := by
  induction actions generalizing c with
  | nil =>
    cases r
    exact h
  | cons a rest ih =>
    obtain ⟨m, hs, hr⟩ := Option.bind_eq_some_iff.1 r
    exact ih (h.step hs) hr

theorem run_next_le (r : c.run actions = some c') : c.table.nextVersion ≤ c'.table.nextVersion := by
  induction actions generalizing c with
  | nil =>
    cases r
    exact Nat.le_refl _
  | cons a rest ih =>
    obtain ⟨m, hs, hr⟩ := Option.bind_eq_some_iff.1 r
    exact Nat.le_trans (step_evolves hs).next_le (ih hr)

/-- A patch forgets nothing of what it has done. -/
theorem step_past {j : Nat} {p : Patching} (s : c.step a = some c') (was : c.patches[j]? = some p) :
    ∃ p', c'.patches[j]? = some p' ∧ p.past <+: p'.past := by
  have hj := (List.getElem?_eq_some_iff.1 was).1
  cases a with
  | begin key target change =>
    cases s
    exact ⟨p, by rw [List.getElem?_append_left hj, was], List.prefix_refl _⟩
  | insert role | reject writes | fail writes =>
    cases s
    exact ⟨p, was, List.prefix_refl _⟩
  | advance i fault =>
    obtain ⟨q, call, next, x, was', _, _, patches⟩ := advance_eq_some s
    by_cases he : i = j
    · subst he
      cases was.symm.trans was'
      exact ⟨_, by rw [patches, List.getElem?_set_self hj], List.prefix_append _ _⟩
    · exact ⟨p, by rw [patches, List.getElem?_set_ne he, was], List.prefix_refl _⟩

theorem run_past {j : Nat} {p : Patching} (r : c.run actions = some c')
    (was : c.patches[j]? = some p) : ∃ p', c'.patches[j]? = some p' ∧ p.past <+: p'.past := by
  induction actions generalizing c p with
  | nil =>
    cases r
    exact ⟨p, was, List.prefix_refl _⟩
  | cons a rest ih =>
    obtain ⟨m, hs, hr⟩ := Option.bind_eq_some_iff.1 r
    obtain ⟨q, hq, grown⟩ := step_past hs was
    obtain ⟨p', hp', later⟩ := ih hr hq
    exact ⟨p', hp', grown.trans later⟩

/-! ## Lost updates -/

/-- Nothing in the table has changed but how many writes are still to fail. -/
def Untouched (t t' : ObjectTable) : Prop :=
  t' = { t with conflictsLeft := t'.conflictsLeft, failuresLeft := t'.failuresLeft }

/-- No object had the version at any time, and no write has returned an object with it. -/
structure Unused (actions : List Action) (version : String) : Prop where
  stored : ∀ earlier later m, actions = earlier ++ later → run {} earlier = some m →
    ∀ key role, m.table.get? key = some role → role.metadata.resourceVersion ≠ some version
  returned : ∀ m, run {} actions = some m → ∀ p ∈ m.patches, ∀ role target w,
    ⟨.write role target, .ok w⟩ ∈ p.past → w.metadata.resourceVersion ≠ some version

theorem fresh_unused (r : run {} actions = some c) : Unused actions c.table.fresh := by
  refine ⟨?_, ?_⟩
  · intro earlier later m he hm key role stored
    rw [he, run_append, hm] at r
    have given := ((consistent_empty.run hm).sound.known key role stored).given
    exact (given.mono (run_next_le r)).ne_fresh
  · intro m hm p hp role target w hw
    cases r.symm.trans hm
    exact ((consistent_empty.run r).returned p hp role target w hw).ne_fresh

theorem untouched_or_accepted (s : c.advance i fault = some c') :
    Untouched c.table c'.table ∨ ∃ p, c'.patches[i]? = some p ∧ ∃ x ∈ p.past, Patching.Accepted x := by
  obtain ⟨_, call, next, x, was, _, answered, patches⟩ := advance_eq_some s
  have hi := (List.getElem?_eq_some_iff.1 was).1
  cases call with
  | get key =>
    have same : c.table = c'.table := congrArg (·.2) (Option.some.inj answered)
    exact Or.inl (by rw [Untouched, ← same])
  | write role target =>
    cases x with
    | ok w =>
      exact Or.inr ⟨_, by rw [patches, List.getElem?_set_self hi],
        ⟨.write role target, .ok w⟩, by simp, trivial⟩
    | error e => exact Or.inl (ObjectTable.write_refused (Option.some.inj answered))
  | _ => cases answered

/-- A write that is accepted replaces the object that its own patch has just read, which is still
stored, with the change of it under a version that nobody has had, or removes it; and the other keys
stay as they are. A patch that ended in an error has touched nothing in any of its steps. -/
theorem no_update_lost (r : run {} actions = some c) :
    (∀ i fault c' (p p' : Patching) role target updated,
      c.step (.advance i fault) = some c' → c.patches[i]? = some p → c'.patches[i]? = some p' →
      p'.past = p.past ++ [⟨.write role target, .ok updated⟩] →
      ∃ v version, p.past.getLast? = some ⟨.get p.key, .ok (some v)⟩ ∧
        c.table.get? p.key = some v ∧ role = p.change.apply v ∧ target = p.target ∧
        updated = role.withVersion version ∧ Unused actions version ∧
        ∀ key, c'.table.get? key =
          if key = p.key then
            if updated.isDeleting && updated.metadata.finalizerList.isEmpty then none
            else some updated
          else c.table.get? key) ∧
    ∀ i (p : Patching) e, c.patches[i]? = some p → p.rest = .done (.error e) →
      ∀ earlier fault later m m', actions = earlier ++ .advance i fault :: later →
        run {} earlier = some m → m.step (.advance i fault) = some m' →
        Untouched m.table m'.table := by
  have consistent : Consistent c := consistent_empty.run r
  refine ⟨?_, ?_⟩
  · intro i fault c' p p' role target updated s was is accepted
    obtain ⟨q, call, next, x, was', rest, answered, patches⟩ := advance_eq_some s
    cases was.symm.trans was'
    rw [patches, List.getElem?_set_self (List.getElem?_eq_some_iff.1 was).1] at is
    cases is
    have call_eq : (⟨call, x⟩ : Exchange) = ⟨.write role target, .ok updated⟩ := by
      simpa using accepted
    cases call_eq
    have hp := List.mem_of_getElem? was
    have disciplined := consistent.disciplined p hp
    rw [rest] at disciplined
    obtain ⟨same, v, last, rfl⟩ := disciplined.1
    obtain ⟨key, current, named, stored, version, rfl, _, objects⟩ :=
      ObjectTable.write_accepted (Option.some.inj answered)
    -- The version of what was read stands for that object under that key.
    have known := consistent.known p hp p.key v (List.mem_of_getLast? last)
    obtain ⟨rfl, rfl⟩ := known.only key current stored (version.trans (p.change.version_kept v))
    exact ⟨current, c.table.fresh, last, stored, rfl, same, rfl, fresh_unused r, objects⟩
  · intro i p e was rest earlier fault later m m' split hm s
    rcases untouched_or_accepted s with same | ⟨q, hq, x, hx, accepted⟩
    · exact same
    -- An accepted write would still be among what the patch has done at its end.
    rw [split, run_append, hm, Option.bind_some] at r
    obtain ⟨m'', hs, hr⟩ := Option.bind_eq_some_iff.1 r
    cases s.symm.trans hs
    obtain ⟨p', hp', grown⟩ := run_past hr hq
    cases was.symm.trans hp'
    have disciplined := consistent.disciplined p (List.mem_of_getElem? was)
    rw [rest] at disciplined
    exact absurd accepted (disciplined x (grown.subset hx))

def readerKey : ObjectKey := ⟨some "demo", "reader"⟩

def newcomer : Role where
  metadata := { name := some "reader", ns := some "demo" }
  spec := .gcp { secretType := "access_token", project := "ackube", bindings := "" }

/-- Take hold of the object. -/
def hold : Mutation where
  apply := Role.addFinalizer
  version_kept r := by
    unfold Role.addFinalizer
    split <;> rfl

def settle : Mutation where
  apply := Role.mapStatus fun s => { s with phase := .success }
  version_kept _ := rfl

/-- The second patch writes between read and write of the first one, which then reads again; the
third one looks for an object that does not exist. -/
def crossedRun : List Action :=
  [.insert newcomer, .begin readerKey .object hold, .begin readerKey .status settle,
    .begin ⟨none, "nobody"⟩ .object hold, .advance 0 none, .advance 1 none, .advance 1 none,
    .advance 0 none, .advance 2 none, .advance 0 none]

/-- The object after the second patch. -/
def settledReader : Role := (settle.apply (newcomer.withVersion "1")).withVersion "2"

set_option maxRecDepth 4000 in
theorem crossedRun_loses_nothing :
    ∃ c c' version, run {} crossedRun = some c ∧ c.step (.advance 0 none) = some c' ∧
      c.table.get? readerKey = some settledReader ∧ Unused crossedRun version ∧
      c'.table.get? readerKey = some ((hold.apply settledReader).withVersion version) ∧
      ∀ earlier fault later m m', crossedRun = earlier ++ .advance 2 fault :: later →
        run {} earlier = some m → m.step (.advance 2 fault) = some m' →
        Untouched m.table m'.table := by
  obtain ⟨c, c', p, p', missed, r, s, was, is, key, accepted, third, ended⟩ :
      ∃ c c' p p' missed, run {} crossedRun = some c ∧ c.step (.advance 0 none) = some c' ∧
        c.patches[0]? = some p ∧ c'.patches[0]? = some p' ∧ p.key = readerKey ∧
        p'.past = p.past ++ [⟨.write (hold.apply settledReader) .object,
          .ok ((hold.apply settledReader).withVersion "3")⟩] ∧
        c.patches[2]? = some missed ∧ missed.rest = .done (.error (.notFound "nobody")) :=
    ⟨_, _, _, _, _, rfl, rfl, rfl, rfl, rfl, rfl, rfl, rfl⟩
  obtain ⟨accepts, refuses⟩ := no_update_lost r
  obtain ⟨v, version, last, stored, _, _, updated, unused, objects⟩ :=
    accepts 0 none c' p p' _ _ _ s was is accepted
  have before : ((run {} crossedRun).bind fun c => c.table.get? readerKey) = some settledReader := rfl
  have after := objects readerKey
  rw [key, if_pos rfl, updated] at after
  rw [r] at before
  exact ⟨c, c', version, r, s, before, unused, after, refuses 2 missed _ third ended⟩

end Contention
end RoleOperator
