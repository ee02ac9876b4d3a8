import Mathlib.Data.List.Chain
import RoleOperator.Proofs.Finalization.Course
import RoleOperator.Proofs.Role.Finalizers
import RoleOperator.Store.ObjectTable

/-!
# Successors of a deleted object

A finalization knows its object by key alone. When another actor takes the object away and creates
one of the same name, the next read finds the new object, and the write after it takes the finalizer
off that one. A version loses the finalizer exactly if a read has found it with the finalizer on.
-/
namespace RoleOperator.Finalization

variable {key : ObjectKey} {past : List Exchange}

/-! ## Reads and writes -/

/-- The last exchange has read `v`. -/
def HasRead (key : ObjectKey) (past : List Exchange) (v : Role) : Prop :=
  past.getLast? = some ⟨.get key, .ok (some v)⟩

/-- No finalizer has just been read. -/
def Settled (past : List Exchange) : Prop :=
  ∀ k v, HasRead k past v → v.hasFinalizer = false

/-- A write changes what has just been read, and a finalizer that has just been read is taken off. -/
structure Prompt (key : ObjectKey) (past : List Exchange) (call : Call) : Prop where
  fresh : ∀ w target, call = .write w target →
    ∃ v, HasRead key past v ∧ w = v.removeFinalizer ∧ target = .object
  strip : ∀ k v, HasRead k past v → v.hasFinalizer → call = .write v.removeFinalizer .object

theorem settled_nil : Settled [] := by
  rintro k v ⟨⟩

theorem hasRead_snoc {x : Exchange} {v : Role} :
    HasRead key (past ++ [x]) v ↔ x = ⟨.get key, .ok (some v)⟩ := by
  rw [HasRead, List.getLast?_concat, Option.some.injEq]

theorem settled_of_last {x : Exchange} (other : ∀ k v, x ≠ ⟨.get k, .ok (some v)⟩) :
    Settled (past ++ [x]) := fun k v h => absurd (hasRead_snoc.1 h) (other k v)

theorem settled_of_write {x : Exchange} {w : Role} {target : WriteTarget}
    {r : Except Fault Role} : Settled (past ++ [x, ⟨.write w target, r⟩]) := by
  rw [List.append_cons]
  exact settled_of_last (by rintro k v ⟨⟩)

theorem Settled.prompt {call : Call} (h : Settled past) (quiet : ∀ w target, call ≠ .write w target) :
    Prompt key past call where
  fresh w target he := absurd he (quiet w target)
  strip k v read carried := absurd carried (by simp [h k v read])

theorem rule_of_settled : Patch.Rule Settled (Prompt key) (fun past _ => Settled past) key .object
    Role.removeFinalizer where
  read h := h.prompt (by rintro w target ⟨⟩)
  unread _ := settled_of_last (by rintro k v ⟨⟩)
  absent _ := settled_of_last (by rintro k v ⟨⟩)
  unchanged _ same k v read := by
    cases hasRead_snoc.1 read
    exact Bool.eq_false_iff.2 fun carried => Role.removeFinalizer_toJson_ne carried same
  write {past role} _ _ :=
    { fresh := by
        rintro w target ⟨⟩
        exact ⟨role, hasRead_snoc.2 rfl, rfl, rfl⟩
      strip := by
        intro k v read _
        cases hasRead_snoc.1 read
        rfl }
  written _ _ := settled_of_write
  refused _ _ := settled_of_write
  again _ _ _ := settled_of_write

theorem unregister_prompt (h : Settled past) :
    (unregister key).Abides (Prompt key) (fun past _ => Settled past) past := by
  refine Program.abides_bind.2 ((rule_of_settled.patch h).mono ?_)
  rintro past (e | w) h
  · exact Program.abides_pure.2 h
  · exact Program.abides_pure.2 h

theorem deleteRole_prompt {role : Role} (h : Settled past) :
    (deleteRole role).Abides (Prompt key) (fun past _ => Settled past) past := by
  rw [deleteRole, Program.abides_bind, Program.abides_perform]
  refine ⟨h.prompt (by rintro w target ⟨⟩), ?_⟩
  have bound : ∀ x, Settled (past ++ [⟨.bind role, x⟩]) := fun x =>
    settled_of_last (by rintro k v ⟨⟩)
  rintro (e | _)
  · exact Program.abides_pure.2 (bound _)
  · exact Program.abides_perform.2
      ⟨(bound _).prompt (by rintro w target ⟨⟩), fun x => settled_of_last (by rintro k v ⟨⟩)⟩

theorem attempt_prompt {role : Role} {roleDeleted : Bool} (h : Settled past) :
    (attempt role key roleDeleted).Abides (Prompt key) (fun past _ => Settled past) past :=
  attempt_abides_of (fun past _ => Settled past) (fun _ => h) (deleteRole_prompt h) (fun _ h => h)
    fun _ h => unregister_prompt h

/-! ## Courses -/

/-- A write changes the version that has been read right before. -/
def Fresh (key : ObjectKey) (before : List Mark) (_ : Nat) (call : Call) : Prop :=
  ∀ w target, call = .write w target → ∃ t v,
    before.getLast? = some (.returned t (.get key) (.ok (some v))) ∧ w = v.removeFinalizer ∧
      target = .object

/-- A read that finds the finalizer is followed by the write that takes it off. -/
def Follows (a b : Mark) : Prop :=
  ∀ t k v, a = .returned t (.get k) (.ok (some v)) → v.hasFinalizer →
    ∃ t', b = .issued t' (.write v.removeFinalizer .object)

def Poised (key : ObjectKey) (past : List Exchange) (f : Finalization) : Prop :=
  match f.stage with
  | .attempting p => p.Abides (Prompt key) (fun past _ => Settled past) past
  | .removing _ p => p.Abides (Prompt key) (fun past _ => Settled past) past
  | .pausing _ | .ended _ => Settled past

structure Course.Attentive (key : ObjectKey) (c : Course) : Prop where
  key_eq : c.machine.key = key
  poised : Poised key (exchanges c.marks) c.machine
  waiting_iff : c.waiting ↔ ∃ t call, c.marks.getLast? = some (.issued t call)
  fresh : Issues (Fresh key) c.marks
  chain : c.marks.IsChain Follows

theorem poised_enterLoop {f : Finalization} {now : Nat} (key_eq : f.key = key) (h : Settled past) :
    Poised key past (f.enterLoop now) := by
  unfold enterLoop
  split
  · exact key_eq ▸ unregister_prompt h
  · exact key_eq ▸ attempt_prompt h

theorem poised_afterAttempt {f : Finalization} {now : Nat} {noticed : Bool} {a : Attempt}
    (key_eq : f.key = key) (h : Settled past) : Poised key past (f.afterAttempt now noticed a) := by
  unfold afterAttempt
  dsimp only
  split
  · exact key_eq ▸ unregister_prompt h
  · split
    · exact h
    · exact h

/-- While no call is pending, the last mark is that of the last exchange. -/
theorem last_of_exchanges {marks : List Mark} {call : Call} {x : call.Answer}
    (quiet : ¬ ∃ t call, marks.getLast? = some (.issued t call))
    (h : (exchanges marks).getLast? = some ⟨call, x⟩) :
    ∃ t, marks.getLast? = some (.returned t call x) := by
  rcases List.eq_nil_or_concat marks with rfl | ⟨earlier, m, rfl⟩
  · cases h
  rw [List.concat_eq_append] at *
  cases m with
  | issued t call => exact absurd ⟨t, call, List.getLast?_concat⟩ quiet
  | returned t =>
    rw [exchanges_returned, List.getLast?_concat] at h
    cases h
    exact ⟨t, List.getLast?_concat⟩

theorem chain_snoc {marks : List Mark} {m : Mark} (h : marks.IsChain Follows)
    (next : ∀ a, marks.getLast? = some a → Follows a m) : (marks ++ [m]).IsChain Follows := by
  refine h.append (List.isChain_singleton m) fun a ha b hb => ?_
  cases hb
  exact next a ha

namespace Course.Attentive

variable {c c' : Course}

theorem issue {call : Call} {next : call.Answer → Finalization} (h : c.Attentive key)
    (pending : c.machine.call? = some ⟨call, next⟩) : Prompt key (exchanges c.marks) call := by
  have hp := h.poised
  rcases call?_eq_some pending with ⟨rest, stage, _⟩ | ⟨o, rest, stage, _⟩
  · rw [Poised, stage] at hp
    exact hp.1
  · rw [Poised, stage] at hp
    exact hp.1

theorem answer {call : Call} {next : call.Answer → Finalization} {x : call.Answer}
    (h : c.Attentive key) (pending : c.machine.call? = some ⟨call, next⟩) :
    Poised key (exchanges c.marks ++ [⟨call, x⟩]) (next x) := by
  have hp := h.poised
  rcases call?_eq_some pending with ⟨rest, stage, rfl⟩ | ⟨o, rest, stage, rfl⟩
  · rw [Poised, stage] at hp
    exact hp.2 x
  · rw [Poised, stage] at hp
    exact hp.2 x

theorem advance (h : c.Attentive key) (a : c.Advance c') : c'.Attentive key := by
  have hk : c'.machine.key = key := (congrArg (·.2.1) a.setup).trans h.key_eq
  have hp := h.poised
  cases a with
  | idle => exact ⟨hk, hp, h.waiting_iff, h.fresh, h.chain⟩
  | issue free pending =>
    -- No call was pending, so the last mark is the answer that the program has seen last.
    have quiet : ¬ ∃ t call, c.marks.getLast? = some (.issued t call) := fun hw =>
      absurd (h.waiting_iff.2 hw) (Bool.eq_false_iff.1 free)
    have prompt := h.issue pending
    refine ⟨hk, by simpa using hp, ?_, h.fresh.issued ?_, chain_snoc h.chain ?_⟩
    · exact ⟨fun _ => ⟨_, _, List.getLast?_concat⟩, fun _ => rfl⟩
    · intro w target hw
      obtain ⟨v, read, he⟩ := prompt.fresh w target hw
      obtain ⟨t, ht⟩ := last_of_exchanges quiet read
      exact ⟨t, v, ht, he⟩
    · rintro _ last t k v rfl carried
      obtain ⟨earlier, he⟩ := List.getLast?_eq_some_iff.1 last
      have read : HasRead k (exchanges c.marks) v := by
        rw [he, exchanges_returned]
        exact hasRead_snoc.2 rfl
      exact ⟨c.now, by rw [prompt.strip k v read carried]⟩
  | answer x waits pending =>
    -- The last mark is that of the call, hence not a read.
    obtain ⟨t, call, last⟩ := h.waiting_iff.1 waits
    refine ⟨hk, by simpa using h.answer pending, ?_, h.fresh.returned, chain_snoc h.chain ?_⟩
    · simp
    · intro a ha t' k v he
      rw [last] at ha
      cases ha
      cases he
  | settle _ stage =>
    rw [Poised, stage] at hp
    exact ⟨hk, poised_afterAttempt h.key_eq hp, h.waiting_iff, h.fresh, h.chain⟩
  | close stage =>
    rw [Poised, stage] at hp
    exact ⟨hk, hp, h.waiting_iff, h.fresh, h.chain⟩
  | resume stage =>
    rw [Poised, stage] at hp
    exact ⟨hk, poised_enterLoop h.key_eq hp, h.waiting_iff, h.fresh, h.chain⟩
  | giveUp stage =>
    rw [Poised, stage] at hp
    exact ⟨hk, hp, h.waiting_iff, h.fresh, h.chain⟩

end Course.Attentive

theorem attentive_beginning {settings : FinalizationSettings} {begin : Nat} {role : Role} :
    (Course.beginning settings begin role key).Attentive key where
  key_eq := congrArg (·.2.1) enterLoop_setup
  poised := poised_enterLoop rfl settled_nil
  waiting_iff := by simp [Course.beginning]
  fresh := issues_nil
  chain := List.isChain_nil

theorem attentive_of_conduct {settings : FinalizationSettings} {begin : Nat}
    {registry : Registry} {role : Role} {actions : List Action} {r : Report}
    (h : conduct settings begin registry role actions = some r) :
    (∃ o, r = ⟨some o, []⟩) ∨ ∃ key c, role.metadata.key? = some key ∧
      Course.Attentive key c ∧ r = ⟨c.machine.outcome?, c.marks⟩ :=
  conduct_induction h (fun _ => attentive_beginning) fun attentive a => attentive.advance a

/-! ## Versions that lose the finalizer -/

/-- The finalizer is taken off `v`: the call after a read of `v` writes it without. -/
def Strips (marks : List Mark) (v : Role) : Prop :=
  v.hasFinalizer ∧ ∃ before t key t' after,
    marks = before ++ .returned t (.get key) (.ok (some v)) ::
      .issued t' (.write v.removeFinalizer .object) :: after

theorem Strips.read {marks : List Mark} {v : Role} (h : Strips marks v) :
    v.hasFinalizer ∧ ∃ t key, .returned t (.get key) (.ok (some v)) ∈ marks := by
  obtain ⟨carried, before, t, key, t', after, rfl⟩ := h
  exact ⟨carried, t, key, List.mem_append_right before List.mem_cons_self⟩

/-- A finalization does not end on a read that has found the finalizer. -/
theorem Course.Attentive.strips {c : Course} (h : c.Attentive key)
    (ended : c.machine.outcome?.isSome) {v : Role} {t : Nat} {k : ObjectKey}
    (carried : v.hasFinalizer) (read : .returned t (.get k) (.ok (some v)) ∈ c.marks) :
    Strips c.marks v := by
  obtain ⟨o, ho⟩ := Option.isSome_iff_exists.1 ended
  have settled := h.poised
  rw [Poised, outcome?_eq_some.1 ho] at settled
  obtain ⟨before, after, he⟩ := List.append_of_mem read
  cases after with
  | nil =>
    -- The read cannot be the last mark, since every stage ends settled.
    have last : HasRead k (exchanges c.marks) v := by
      rw [he, exchanges_returned]
      exact hasRead_snoc.2 rfl
    exact absurd carried (by simp [settled k v last])
  | cons m after =>
    have chain := h.chain
    rw [he, List.isChain_append_cons_cons] at chain
    obtain ⟨t', rfl⟩ := chain.2.1 t k v rfl carried
    exact ⟨carried, before, t, k, t', after, he⟩

/-- The calls to the store are answered by a table that other actors edit at will in between; the
other answers are free. -/
inductive Backed : ObjectTable → List Mark → Prop where
  | nil {t} : Backed t []
  | insert {t marks} (role : Role) (rest : Backed (t.insert role) marks) : Backed t marks
  | remove {t marks} (key : ObjectKey) (rest : Backed (t.remove key) marks) : Backed t marks
  | issued {t marks time call} (rest : Backed t marks) : Backed t (.issued time call :: marks)
  | get {t marks time key} (rest : Backed t marks) :
      Backed t (.returned time (.get key) (.ok (t.get? key)) :: marks)
  | unread {t marks time key e} (rest : Backed t marks) :
      Backed t (.returned time (.get key) (.error e) :: marks)
  | write {t marks time w target} (rest : Backed (t.write w target).2 marks) :
      Backed t (.returned time (.write w target) (t.write w target).1 :: marks)
  | other {t marks time call x} (elsewhere : ∀ key w target, call ≠ .get key ∧ call ≠ .write w target)
      (rest : Backed t marks) : Backed t (.returned time call x :: marks)

/-- That a finalization leaves the finalizer on versions that are not marked for deletion. -/
def LiveKept : Prop :=
  ∀ (settings : FinalizationSettings) (begin : Nat) (registry : Registry) (role : Role)
    (actions : List Action) (r : Report) (table : ObjectTable), role.isDeleting →
    conduct settings begin registry role actions = some r → Backed table r.marks →
    ∀ v, Strips r.marks v → v.isDeleting

def readerKey : ObjectKey := ⟨some "demo", "reader"⟩

/-- The versions of an object that is deleted and of one that is created in its place. -/
def deletedReader : Role := departing.withVersion "1"

def newReader : Role :=
  { departing with metadata := { departing.metadata with
      deletionTimestamp := none, resourceVersion := some "2" } }

/-- A finalization whose first write comes too late. -/
def lateWrite : List Action :=
  let refused : Except Fault Role := .error (ObjectTable.modified readerKey)
  [.issue, .answer (answering deletedReader refused), .issue, .answer (answering deletedReader refused),
    .issue, .answer (answering deletedReader refused), .issue, .answer (answering deletedReader refused),
    .issue, .answer (answering newReader refused), .issue]

/-- What it does before it reads the new object. -/
def untilReplaced : List Mark :=
  [.issued 0 (.bind departing), .returned 0 (.bind departing) (.ok ()),
    .issued 0 (.delete departing departing.vaultName),
    .returned 0 (.delete departing departing.vaultName) (.ok ()),
    .issued 0 (.get readerKey), .returned 0 (.get readerKey) (.ok (some deletedReader)),
    .issued 0 (.write deletedReader.removeFinalizer .object),
    .returned 0 (.write deletedReader.removeFinalizer .object)
      (.error (ObjectTable.modified readerKey)),
    .issued 0 (.get readerKey)]

def lateMarks : List Mark :=
  untilReplaced ++ [.returned 0 (.get readerKey) (.ok (some newReader)),
    .issued 0 (.write newReader.removeFinalizer .object)]

/-- The object is replaced between the first read and the write. The write is refused, and the second
read finds the new object. -/
theorem live_stripped : ¬ LiveKept := by
  intro kept
  have backed : Backed (ObjectTable.insert {} departing) lateMarks :=
    .issued <| .other (by simp) <| .issued <| .other (by simp) <| .issued <| .get <| .issued <|
      .remove readerKey <| .insert newReader <| .write <| .issued <| .get <| .issued .nil
  have stripped : Strips lateMarks newReader := ⟨rfl, untilReplaced, 0, readerKey, 0, [], rfl⟩
  have deleting := kept {} 0 {} departing lateWrite ⟨none, lateMarks⟩ _ rfl rfl backed _ stripped
  exact Bool.false_ne_true deleting

/-- Every write takes the finalizer off the version that has been read right before it. In a
finalization that is over, a version has lost the finalizer exactly if it was read with the finalizer
on, be it marked for deletion or not. -/
theorem strips_iff_read {settings : FinalizationSettings} {begin : Nat} {registry : Registry}
    {role : Role} {actions : List Action} {r : Report}
    (h : conduct settings begin registry role actions = some r) :
    (∀ before time w target after, r.marks = before ++ .issued time (.write w target) :: after →
      ∃ earlier t key v, role.metadata.key? = some key ∧
        before = earlier ++ [.returned t (.get key) (.ok (some v))] ∧ w = v.removeFinalizer ∧
          target = .object) ∧
    (r.outcome.isSome → ∀ v, Strips r.marks v ↔
      v.hasFinalizer ∧ ∃ t key, .returned t (.get key) (.ok (some v)) ∈ r.marks) ∧
    ((∀ t key v, .returned t (.get key) (.ok (some v)) ∈ r.marks → v.isDeleting) →
      ∀ v, Strips r.marks v → v.isDeleting) := by
  refine ⟨?_, fun ended v => ⟨Strips.read, ?_⟩, fun marked v strips => ?_⟩
  · intro before time w target after he
    rcases attentive_of_conduct h with ⟨o, rfl⟩ | ⟨key, c, named, attentive, rfl⟩
    · simp at he
    obtain ⟨t, v, last, hw⟩ := attentive.fresh before time _ after he w target rfl
    obtain ⟨earlier, hb⟩ := List.getLast?_eq_some_iff.1 last
    exact ⟨earlier, t, key, v, named, hb, hw⟩
  · rintro ⟨carried, t, k, read⟩
    rcases attentive_of_conduct h with ⟨o, rfl⟩ | ⟨key, c, _, attentive, rfl⟩
    · cases read
    · exact attentive.strips ended carried read
  · obtain ⟨_, t, key, read⟩ := strips.read
    exact marked t key v read

/-- The rest of a finalization that has read the new object. -/
def stripping : List Mark :=
  [.returned 0 (.write newReader.removeFinalizer .object) (.ok newReader.removeFinalizer),
    .issued 0 (.get readerKey),
    .returned 0 (.get readerKey) (.ok (some newReader.removeFinalizer))]

theorem new_object_stripped :
    ∃ r, conduct {} 0 {} departing (lateWrite ++
        [.answer (answering newReader (.ok newReader.removeFinalizer)), .proceed false, .issue,
          .answer (answering newReader.removeFinalizer (.ok newReader)), .proceed false]) = some r ∧
      r.outcome = some .completed ∧ Strips r.marks newReader := by
  have h : conduct {} 0 {} departing (lateWrite ++
      [.answer (answering newReader (.ok newReader.removeFinalizer)), .proceed false, .issue,
        .answer (answering newReader.removeFinalizer (.ok newReader)), .proceed false]) =
        some ⟨some .completed, lateMarks ++ stripping⟩ := rfl
  refine ⟨_, h, rfl, ((strips_iff_read h).2.1 rfl newReader).2 ⟨rfl, 0, readerKey, ?_⟩⟩
  simp [lateMarks]

end RoleOperator.Finalization
