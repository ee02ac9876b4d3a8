import RoleOperator.Proofs.Finalization.Outcomes
import RoleOperator.Proofs.Finalization.Teardown

/-!
# What a finalization leaves behind

A finalization over a table that nobody else writes to. However often its writes fail or are rejected,
the finalizer is taken off by one write or by none. The removals after that one find nothing to take
off, so that an object which others still hold is not written again.
-/
namespace RoleOperator

namespace ObjectTable

variable {t t' : ObjectTable} {key : ObjectKey} {v : Role} {xs ys : List Exchange}

/-- A number of requests to a table that nobody else writes to. Writes can be made to fail or to be
rejected at any time. -/
inductive Served : ObjectTable → List Exchange → ObjectTable → Prop where
  | nil (t : ObjectTable) : Served t [] t
  | upset {t t' : ObjectTable} {xs : List Exchange} (conflicts failures : Nat)
      (rest : Served { t with conflictsLeft := conflicts, failuresLeft := failures } xs t') :
      Served t xs t'
  | answer {t t' : ObjectTable} {xs : List Exchange} (reply : (c : Call) → c.Answer) (call : Call)
      (rest : Served (t.respond reply call).2 xs t') :
      Served t (⟨call, (t.respond reply call).1⟩ :: xs) t'

namespace Served

theorem append (h : Served t xs t') {t'' : ObjectTable} (h' : Served t' ys t'') :
    Served t (xs ++ ys) t'' := by
  induction h with
  | nil => exact h'
  | upset conflicts failures _ ih => exact .upset conflicts failures (ih h')
  | answer reply call _ ih => exact .answer reply call (ih h')

theorem split (h : Served t (xs ++ ys) t') : ∃ m, Served t xs m ∧ Served m ys t' := by
  generalize all : xs ++ ys = zs at h
  induction h generalizing xs with
  | nil t =>
    obtain ⟨rfl, rfl⟩ := List.append_eq_nil_iff.1 all
    exact ⟨t, .nil t, .nil t⟩
  | upset conflicts failures _ ih =>
    obtain ⟨m, first, rest⟩ := ih all
    exact ⟨m, .upset conflicts failures first, rest⟩
  | @answer t t' zs reply call later ih =>
    cases xs with
    | nil =>
      rw [List.nil_append] at all
      exact ⟨t, .nil t, all ▸ .answer reply call later⟩
    | cons x xs =>
      obtain ⟨rfl, rfl⟩ := List.cons.inj all
      obtain ⟨m, first, rest⟩ := ih rfl
      exact ⟨m, .answer reply call first, rest⟩

theorem objects_nil (h : Served t [] t') : t'.objects = t.objects := by
  generalize none : ([] : List Exchange) = xs at h
  induction h with
  | nil => rfl
  | upset _ _ _ ih => exact ih none
  | answer => cases none

/-- The first request finds the objects as they are. -/
theorem cons {x : Exchange} (h : Served t (x :: xs) t') :
    ∃ (m : ObjectTable) (reply : (c : Call) → c.Answer), m.objects = t.objects ∧
      x.2 = (m.respond reply x.1).1 ∧ Served (m.respond reply x.1).2 xs t' := by
  generalize all : x :: xs = zs at h
  induction h with
  | nil => cases all
  | upset conflicts failures _ ih => exact ih all
  | @answer t t' zs reply call later =>
    obtain ⟨rfl, rfl⟩ := List.cons.inj all
    exact ⟨t, reply, rfl, rfl, later⟩

theorem get {answer : Except Fault (Option Role)} (h : Served t (⟨.get key, answer⟩ :: xs) t') :
    answer = .ok (t.get? key) ∧ ∃ m, m.objects = t.objects ∧ Served m xs t' := by
  obtain ⟨m, reply, objects, answered, rest⟩ := h.cons
  have found : m.get? key = t.get? key := congrArg (fun objects => objects.lookup key) objects
  exact ⟨answered.trans (congrArg Except.ok found), m, objects, rest⟩

theorem write {w : Role} {target : WriteTarget} {answer : Except Fault Role}
    (h : Served t (⟨.write w target, answer⟩ :: xs) t') :
    ∃ m m' : ObjectTable, m.objects = t.objects ∧ m.write w target = (answer, m') ∧
      Served m' xs t' := by
  obtain ⟨m, reply, objects, answered, rest⟩ := h.cons
  exact ⟨m, _, objects, Prod.ext answered.symm rfl, rest⟩

theorem adapter {call : Call} {answer : call.Answer} (h : Served t (⟨call, answer⟩ :: xs) t')
    (other : ∀ w target, call ≠ .write w target) :
    ∃ m, m.objects = t.objects ∧ Served m xs t' := by
  obtain ⟨m, reply, objects, -, rest⟩ := h.cons
  refine ⟨_, ?_, rest⟩
  cases call with
  | write w target => exact absurd rfl (other w target)
  | cached | get | bind | create | delete | clock | finalize => exact objects

end Served

theorem write_refused_objects {w : Role} {target : WriteTarget} {e : Fault}
    (h : t.write w target = (.error e, t')) : t'.objects = t.objects := by rw [write_refused h]

/-- A write of an object that is there does not fail for want of it. -/
theorem write_found {w : Role} {target : WriteTarget} {e : Fault}
    (h : t.write w target = (.error e, t')) (named : w.metadata.key? = some key)
    (stored : t.get? key = some v) : e.isNotFound = false := by
  have keyed : w.key = .ok key := by simp only [Role.key, Metadata.key, named]
  simp only [write, keyed, stored] at h
  split at h
  · cases h
    rfl
  split at h
  · cases h
    rfl
  split at h
  · cases h
    rfl
  · split at h <;> cases h

end ObjectTable

namespace Finalization

open ObjectTable (Served)

variable {key : ObjectKey} {v : Role} {t t' : ObjectTable} {xs ys : List Exchange}
  {removed : Bool}

/-! ## Removals -/

/-- An object on its way out that the operator holds, perhaps with others. -/
structure Held (key : ObjectKey) (v : Role) (t : ObjectTable) : Prop where
  stored : t.get? key = some v
  own : v.metadata.key? = some key
  deleting : v.isDeleting
  token : v.hasFinalizer

/-- The object without the operator's finalizer. It is gone if nobody else holds it. -/
structure Released (key : ObjectKey) (v : Role) (t t' : ObjectTable) : Prop where
  gone : t'.get? key = none ↔ ∀ token ∈ v.metadata.finalizerList, token = v.kind.finalizer
  kept : ∀ u, t'.get? key = some u →
    u.Alike (v.withFinalizers (v.metadata.finalizerList.filter (· ≠ v.kind.finalizer)))
  others : ∀ k ≠ key, t'.get? k = t.get? k

/-- The exchanges between the two tables have taken the finalizer off, by a single write, or none of
their writes has succeeded. -/
def Leaves (key : ObjectKey) (v : Role) (t : ObjectTable) (xs : List Exchange) (t' : ObjectTable)
    (removed : Bool) : Prop :=
  if removed then xs.countP accepts = 1 ∧ Released key v t t'
  else xs.countP accepts = 0 ∧ t'.objects = t.objects

theorem get?_congr (same : t'.objects = t.objects) (k : ObjectKey) : t'.get? k = t.get? k :=
  congrArg (fun objects => objects.lookup k) same

theorem Held.congr (h : Held key v t) (same : t'.objects = t.objects) : Held key v t' :=
  ⟨(get?_congr same key).trans h.stored, h.own, h.deleting, h.token⟩

theorem Released.congr {m m' : ObjectTable} (h : Released key v m m')
    (before : m.objects = t.objects) (after : t'.objects = m'.objects) : Released key v t t' where
  gone := by rw [get?_congr after, h.gone]
  kept u stored := h.kept u (by rwa [← get?_congr after])
  others k other := by rw [get?_congr after, h.others k other, get?_congr before]

theorem Leaves.after {m : ObjectTable} (h : Leaves key v m ys t' removed)
    (quiet : xs.countP accepts = 0) (same : m.objects = t.objects) :
    Leaves key v t (xs ++ ys) t' removed := by
  unfold Leaves at h ⊢
  rw [List.countP_append, quiet, Nat.zero_add]
  cases removed with
  | true => exact ⟨h.1, h.2.congr same rfl⟩
  | false => exact ⟨h.1, h.2.trans same⟩

theorem Leaves.before {m : ObjectTable} (h : Leaves key v t xs m removed)
    (quiet : ys.countP accepts = 0) (same : t'.objects = m.objects) :
    Leaves key v t (xs ++ ys) t' removed := by
  unfold Leaves at h ⊢
  rw [List.countP_append, quiet, Nat.add_zero]
  cases removed with
  | true => exact ⟨h.1, h.2.congr rfl same⟩
  | false => exact ⟨h.1, same.trans h.2⟩

/-- The object that is written is without the finalizer, and goes if nobody else holds it. -/
theorem released_of_write {w : Role} {m m' : ObjectTable} (held : Held key v t)
    (same : m.objects = t.objects) (accepted : m.write v.removeFinalizer .object = (.ok w, m'))
    (after : t'.objects = m'.objects) : Released key v t t' := by
  obtain ⟨key', current, named, -, -, rfl, -, objects⟩ := ObjectTable.write_accepted accepted
  obtain rfl : key = key' := Option.some.inj (held.own.symm.trans named)
  have deleting : (v.removeFinalizer.withVersion m.fresh).isDeleting = true := held.deleting
  have left : m'.get? key =
      if (v.metadata.finalizerList.filter (· ≠ v.kind.finalizer)).isEmpty then none
      else some (v.removeFinalizer.withVersion m.fresh) := by
    rw [objects, if_pos rfl, deleting]
    rfl
  refine .congr (m := m) ⟨?_, ?_, ?_⟩ same after
  · rw [left]
    simp
  · intro u stored
    rw [left] at stored
    obtain ⟨-, stored⟩ := Option.ite_none_left_eq_some.1 stored
    cases stored
    exact .withVersion _ _
  · intro k other
    rw [objects, if_neg other]

/-- An attempt of a removal finds the object as it is. -/
theorem served_attempt {u w : Role} {answer : Except Fault Role} (held : Held key v t)
    (served : Served t (⟨.get key, .ok (some u)⟩ :: ⟨.write w .object, answer⟩ :: xs) t') :
    v = u ∧ ∃ m m' : ObjectTable, m.objects = t.objects ∧ m.write w .object = (answer, m') ∧
      Served m' xs t' := by
  obtain ⟨found, m, same, second⟩ := served.get
  obtain ⟨m', m'', same', written, rest⟩ := second.write
  rw [held.stored] at found
  exact ⟨(Option.some.inj (Except.ok.inj found)).symm, m', m'', same'.trans same, written, rest⟩

theorem tries_leaves {n : Nat} {patched : Except Fault Role}
    (tries : Patch.Tries key .object Role.removeFinalizer n xs patched) (served : Served t xs t')
    (held : Held key v t) : Leaves key v t xs t' (forgive patched).isOk := by
  induction tries generalizing t with
  | @last xs patched concluded =>
    cases concluded with
    | unread e =>
      obtain ⟨⟨⟩, -⟩ := served.get
    | absent =>
      obtain ⟨absent, -⟩ := served.get
      rw [held.stored] at absent
      cases absent
    | unchanged same =>
      obtain ⟨found, -⟩ := served.get
      rw [held.stored] at found
      cases found
      exact absurd same (Role.removeFinalizer_toJson_ne held.token)
    | answered shows =>
      obtain ⟨rfl, m, m', same, written, served⟩ := served_attempt held served
      have after := served.objects_nil
      cases patched with
      | ok u => exact ⟨rfl, released_of_write held same written after⟩
      | error e =>
        -- A refusal counts as success only if the object is missing, and it is there.
        have there : e.isNotFound = false :=
          ObjectTable.write_found written held.own (held.congr same).stored
        rw [forgive_isOk, there]
        exact ⟨rfl, (after.trans (ObjectTable.write_refused_objects written)).trans same⟩
  | again shows conflict rest ih =>
    obtain ⟨rfl, m, m', same, written, served⟩ := served_attempt held served
    have kept : m'.objects = t.objects := (ObjectTable.write_refused_objects written).trans same
    change Leaves key v t ([_, _] ++ _) t' _
    exact (ih served (held.congr kept)).after rfl kept

theorem removal_leaves (removal : Removal key xs removed) (served : Served t xs t')
    (held : Held key v t) : Leaves key v t xs t' removed := by
  obtain ⟨n, patched, tries, rfl⟩ := removal.exists_tries
  exact tries_leaves tries served held

/-- Where there is nothing to take off, nothing is written. -/
theorem removal_idle (removal : Removal key xs removed) (served : Served t xs t')
    (free : ∀ u, t.get? key = some u → u.removeFinalizer.toJson = u.toJson) :
    xs.countP accepts = 0 ∧ t'.objects = t.objects := by
  obtain ⟨n, patched, tries, -⟩ := removal.exists_tries
  cases tries with
  | last concluded =>
    cases concluded with
    | unread | absent | unchanged =>
      obtain ⟨-, m, same, served⟩ := served.get
      exact ⟨rfl, served.objects_nil.trans same⟩
    | answered shows =>
      obtain ⟨found, -⟩ := served.get
      exact absurd (free _ (Except.ok.inj found).symm) shows
  | again shows =>
    obtain ⟨found, -⟩ := served.get
    exact absurd (free _ (Except.ok.inj found).symm) shows

/-- What is left of the object needs no further removal. -/
theorem Released.free (h : Released key v t t') (u : Role) (stored : t'.get? key = some u) :
    u.removeFinalizer.toJson = u.toJson := by
  have alike := h.kept u stored
  have kind : u.kind = v.kind := congrArg RoleSpec.kind alike.spec
  have listed : u.metadata.finalizers =
      some (v.metadata.finalizerList.filter (· ≠ v.kind.finalizer)) := alike.finalizers
  refine (Role.removeFinalizer_toJson_eq ?_).2 (by simp [listed])
  simp [Role.hasFinalizer, Metadata.finalizerList, listed, kind]

/-! ## Attempts -/

variable {role : Role}

theorem effort_leaves {deleted : Bool} {r : Attempt} (effort : Effort role key deleted xs r)
    (served : Served t xs t') (held : Held key v t) : Leaves key v t xs t' r.removed := by
  cases effort with
  | unbound =>
    obtain ⟨m, same, served⟩ := served.adapter (by simp)
    exact ⟨rfl, served.objects_nil.trans same⟩
  | refused =>
    obtain ⟨m, same, served⟩ := served.adapter (by simp)
    obtain ⟨m', same', served⟩ := served.adapter (by simp)
    exact ⟨rfl, (served.objects_nil.trans same').trans same⟩
  | deleted removal =>
    obtain ⟨m, same, served⟩ := served.adapter (by simp)
    obtain ⟨m', same', served⟩ := served.adapter (by simp)
    have kept : m'.objects = t.objects := same'.trans same
    change Leaves key v t ([_, _] ++ _) t' _
    exact (removal_leaves removal served (held.congr kept)).after rfl kept
  | again removal => exact removal_leaves removal served held

/-- Rounds that have not removed the finalizer leave everything as it is. -/
theorem rounds_leave {rounds : List Round}
    (efforts : ∀ r ∈ rounds, r.result.removed = false ∧
      ∃ deleted, Effort role key deleted r.calls r.result)
    (served : Served t (rounds.flatMap (·.calls)) t') (held : Held key v t) :
    Leaves key v t (rounds.flatMap (·.calls)) t' false := by
  induction rounds generalizing t with
  | nil => exact ⟨rfl, served.objects_nil⟩
  | cons r rest ih =>
    obtain ⟨⟨unremoved, deleted, effort⟩, others⟩ := List.forall_mem_cons.1 efforts
    obtain ⟨m, first, later⟩ := served.split
    have kept := effort_leaves effort first held
    rw [unremoved] at kept
    obtain ⟨quiet, same⟩ := kept
    exact (ih others later (held.congr same)).after quiet same

/-- A round that removes the finalizer does so by its only successful write. Neither the rounds before
it nor the last removal write. -/
theorem completed_leaves {rounds : List Round} {r : Round} {again : Bool}
    (consistent : Story.Consistent role key rounds) (hr : r ∈ rounds) (done : r.result.removed)
    (farewell : Removal key ys again) (served : Served t (rounds.flatMap (·.calls) ++ ys) t')
    (held : Held key v t) : Leaves key v t (rounds.flatMap (·.calls) ++ ys) t' true := by
  obtain ⟨before, after, rfl⟩ := List.append_of_mem hr
  obtain rfl := consistent.last before r after rfl done
  have earlier := (consistent before r [] rfl).1
  have efforts : ∀ b ∈ before, b.result.removed = false ∧
      ∃ deleted, Effort role key deleted b.calls b.result :=
    fun b hb => ⟨earlier b hb, consistent.effort (List.mem_append_left _ hb)⟩
  obtain ⟨deleted, effort⟩ := consistent.effort hr
  have calls : (before ++ [r]).flatMap (·.calls) = before.flatMap (·.calls) ++ r.calls := by simp
  rw [calls] at served ⊢
  obtain ⟨freed, served, last⟩ := served.split
  obtain ⟨m, first, second⟩ := served.split
  obtain ⟨quiet, same⟩ := rounds_leave efforts first held
  have takes := effort_leaves effort second (held.congr same)
  rw [done] at takes
  have released : Leaves key v t (before.flatMap (·.calls) ++ r.calls) freed true :=
    takes.after quiet same
  -- The last removal meets an object that is gone or in the hands of others.
  obtain ⟨unwritten, still⟩ := removal_idle farewell last released.2.free
  exact released.before unwritten still

/-! ## Finalizations -/

/-- A finalization over a table that nobody else writes to. -/
structure Alone extends Story where
  table : ObjectTable

/-- What can come next. The adapter may answer anything; the table answers for itself, but the next
writes can be made to fail or to be rejected. -/
inductive Alone.Event where
  | act (a : Action)
  | failWrites (n : Nat)
  | rejectWrites (n : Nat)

namespace Alone

/-- What is heard of the table and of the adapter. -/
def heard (w : Alone) : Action → Action
  | .answer reply => .answer fun c => (w.table.respond reply c).1
  | a => a

def tableAfter (w : Alone) : Action → ObjectTable
  | .answer reply =>
    match w.machine.call? with
    | some ⟨call, _⟩ => (w.table.respond reply call).2
    | none => w.table
  | _ => w.table

def step (timed : Bool) (w : Alone) : Event → Option Alone
  | .act a => (w.toStory.step timed (w.heard a)).map fun s => { s with table := w.tableAfter a }
  | .failWrites n => some { w with table := { w.table with failuresLeft := n } }
  | .rejectWrites n => some { w with table := { w.table with conflictsLeft := n } }

def run (timed : Bool) (w : Alone) : List Event → Option Alone
  | [] => some w
  | e :: rest => (w.step timed e).bind fun w => w.run timed rest

variable {timed : Bool} {w w' : Alone} {e : Event} {events : List Event}

/-- A story that is told from `s` to `s'` while a table has answered. -/
def Tells (timed : Bool) (w w' : Alone) : Prop :=
  ∃ actions xs, Story.run timed w.toStory actions = some w'.toStory ∧
    exchanges w'.marks = exchanges w.marks ++ xs ∧ Served w.table xs w'.table

theorem tells_of_act {a : Action} {s : Story} (h : w.toStory.step timed (w.heard a) = some s) :
    Tells timed w { s with table := w.tableAfter a } := by
  have told : Story.run timed w.toStory [w.heard a] = some s := by
    rw [Story.run, h]
    rfl
  have turn := Story.turn_of_step h
  cases a with
  | answer reply =>
    cases turn with
    | answer waits pending =>
      refine ⟨_, _, told, exchanges_returned, ?_⟩
      simp only [tableAfter, pending]
      exact .answer reply _ (.nil _)
  | issue =>
    cases turn with
    | issue => exact ⟨_, [], told, by simp, .nil _⟩
  | pass | cancel | wake | abandon =>
    refine ⟨_, [], told, ?_, .nil _⟩
    cases turn <;> simp [Story.enter]
  | proceed =>
    refine ⟨_, [], told, ?_, .nil _⟩
    cases turn <;> simp [Story.enter, Story.conclude]

theorem tells_of_step (h : w.step timed e = some w') : Tells timed w w' := by
  cases e with
  | act a =>
    obtain ⟨s, hs, rfl⟩ := Option.map_eq_some_iff.1 h
    exact tells_of_act hs
  | failWrites n | rejectWrites n =>
    cases h
    exact ⟨[], [], rfl, (List.append_nil _).symm, .upset _ _ (.nil _)⟩

theorem tells_of_run (h : w.run timed events = some w') : Tells timed w w' := by
  induction events generalizing w with
  | nil =>
    cases h
    exact ⟨[], [], rfl, (List.append_nil _).symm, .nil _⟩
  | cons e rest ih =>
    obtain ⟨m, hs, hr⟩ := Option.bind_eq_some_iff.1 h
    obtain ⟨actions, xs, told, made, served⟩ := tells_of_step hs
    obtain ⟨actions', xs', told', made', served'⟩ := ih hr
    refine ⟨actions ++ actions', xs ++ xs', (Story.stepwise timed).append told told', ?_,
      served.append served'⟩
    rw [made', made, List.append_assoc]

variable {settings : FinalizationSettings} {begin : Nat} {registry : Registry} {f : Finalization}
  {o : Outcome}

open Story (Left Accounted Underway Consistent opening accounted_of_run)

/-- Whether the finalization reports, with its outcome or with its last removal, that the finalizer
is off. -/
def Succeeds (key : ObjectKey) (w : Alone) (o : Outcome) : Prop :=
  o = .completed ∨ o = .timedOut ∧ (unregister key).Yields w.calls (.ok ())

/-- What a finalization leaves behind. If it reports that the finalizer is off, one of its writes has
succeeded, and the object is as it was but for the finalizer and its version, or gone if nobody else
holds it. Else none has, and the object is as it was. -/
theorem left_behind (started : (start settings begin registry role).1 = .ok f)
    (named : role.metadata.key? = some key) (held : Held key v t)
    (told : run timed { opening f begin with table := t } events = some w)
    (ends : w.machine.outcome? = some o) :
    (o = .completed ∨ o = .timedOut ∨ o = .abandoned) ∧
    (Succeeds key w o →
      (exchanges w.marks).countP accepts = 1 ∧ Released key v t w.table) ∧
    (¬ Succeeds key w o →
      (exchanges w.marks).countP accepts = 0 ∧ w.table.objects = t.objects) := by
  obtain ⟨actions, xs, story, made, served⟩ := tells_of_run told
  obtain ⟨key', named', accounted⟩ := accounted_of_run started story
  obtain rfl : key = key' := Option.some.inj (named.symm.trans named')
  have whole : exchanges w.marks = xs := made
  rw [← whole, accounted.calls] at served
  rw [accounted.calls]
  have stage := accounted.stage
  rw [Underway, outcome?_eq_some.1 ends] at stage
  obtain ⟨left, calls⟩ := stage
  cases left with
  | completed hr done =>
    obtain ⟨result, run⟩ := calls
    refine ⟨Or.inl rfl, fun _ => ?_, fun fails => absurd (Or.inl rfl) fails⟩
    exact completed_leaves accounted.consistent hr done (removal_of_yields run) served held
  | timedOut kept =>
    obtain ⟨m, first, last⟩ := served.split
    obtain ⟨quiet, same⟩ := rounds_leave
      (fun r hr => ⟨kept r hr, accounted.consistent.effort hr⟩) first held
    have farewell {result : Except Fault Unit} (run : (unregister key).Yields w.calls result) :
        Leaves key v t (w.rounds.flatMap (·.calls) ++ w.calls) w.table result.isOk :=
      (removal_leaves (removal_of_yields run) last (held.congr same)).after quiet same
    refine ⟨Or.inr (Or.inl rfl), ?_, fun fails => ?_⟩
    · rintro (done | ⟨-, run⟩)
      · cases done
      · exact farewell run
    · obtain ⟨result, run⟩ := calls
      cases result with
      | error e => exact farewell run
      | ok => exact absurd (Or.inr ⟨rfl, run⟩) fails
  | abandoned kept =>
    refine ⟨Or.inr (Or.inr rfl), ?_, fun _ => ?_⟩
    · rintro (done | ⟨done, -⟩) <;> cases done
    · rw [if_pos rfl] at calls
      rw [calls, List.append_nil] at served ⊢
      exact rounds_leave (fun r hr => ⟨kept r hr, accounted.consistent.effort hr⟩) served held

/-- Held twice by the operator and by somebody else in between. -/
def contested : Role :=
  departing.withFinalizers [Kind.gcp.finalizer, "other.example.com", Kind.gcp.finalizer]

/-- A number of calls, and a pause until the next attempt. -/
def trying (n : Nat) (reply : (c : Call) → c.Answer) : List Event :=
  (Story.calling n reply ++ [Action.proceed false, .pass 5000000000, .wake]).map .act

def finishing (n : Nat) : List Event :=
  (Story.calling n willing ++ [Action.proceed false]).map .act

/-- The first attempt cannot delete the role, the write of the second one fails, and the third one
loses a race before it succeeds. -/
def hampered : List Event :=
  trying 2 Story.sealed ++ [.failWrites 1] ++ trying 4 willing ++ [.rejectWrites 1] ++
    finishing 4 ++ finishing 1

theorem hampered_left_behind :
    ∃ f w, (start {} 0 {} departing).1 = .ok f ∧
      Held ⟨some "demo", "reader"⟩ (contested.withVersion "1") (ObjectTable.insert {} contested) ∧
      run true { opening f 0 with table := ObjectTable.insert {} contested } hampered = some w ∧
      w.machine.outcome? = some .completed ∧ (exchanges w.marks).countP accepts = 1 ∧
      Released ⟨some "demo", "reader"⟩ (contested.withVersion "1")
        (ObjectTable.insert {} contested) w.table := by
  let f := (initial {} 0 departing ⟨some "demo", "reader"⟩).enterLoop 0
  have started : (start {} 0 {} departing).1 = .ok f := rfl
  have held : Held ⟨some "demo", "reader"⟩ (contested.withVersion "1")
      (ObjectTable.insert {} contested) := ⟨rfl, rfl, rfl, by decide⟩
  have played : (run true { opening f 0 with table := ObjectTable.insert {} contested }
      hampered).map (·.machine.outcome?) = some (some .completed) := by
    decide +kernel
  obtain ⟨w, told, ends⟩ := Option.map_eq_some_iff.1 played
  obtain ⟨written, released⟩ :=
    (left_behind started rfl held told ends).2.1 (Or.inl rfl)
  exact ⟨f, w, started, held, told, ends, written, released⟩

end Alone
end Finalization
end RoleOperator
