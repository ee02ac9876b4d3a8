import RoleOperator.Proofs.Program.Runs

/-!
# Retries of a patch

A patch over a store that may answer whatever it likes, with a change that may remember something
from one attempt to the next. Each attempt reads the object afresh and writes the change of what it
has just read. Only a lost race leads to another attempt, and only the last attempt passes one on.
-/
namespace RoleOperator

namespace Program

variable {α : Type}

/-- A store that may let its answers depend on all that came before. -/
abbrev Responder := List Exchange → (c : Call) → c.Answer

/-- The answers are those of the store. -/
def AnsweredBy (store : Responder) (xs : List Exchange) : Prop :=
  ∀ before x after, xs = before ++ x :: after → x.2 = store before x.1

/-- However its calls are answered, a program comes to its end. -/
theorem exists_yields_answeredBy (store : Responder) (p : Program α) :
    ∃ xs a, p.Yields xs a ∧ AnsweredBy store xs := by
  induction p generalizing store with
  | done a => exact ⟨[], a, ⟨rfl, rfl⟩, by simp [AnsweredBy]⟩
  | ask c next ih =>
    -- To the rest of the program the store is one that knows of the first exchange.
    obtain ⟨xs, a, run, answered⟩ := ih (store [] c) fun past => store (⟨c, store [] c⟩ :: past)
    refine ⟨⟨c, store [] c⟩ :: xs, a, ⟨store [] c, xs, rfl, run⟩, ?_⟩
    rintro (_ | ⟨first, before⟩) x after split
    · cases split
      rfl
    · obtain ⟨rfl, rest⟩ := List.cons.inj split
      exact answered before x after rest

end Program

namespace Patch

variable {σ : Type} {key : ObjectKey} {target : WriteTarget} {change : σ → Role → Role × σ}
  {memory : σ} {retries : Nat} {xs : List Exchange} {result : Except Fault Role}

/-- One attempt with a change that is handed what it remembers. -/
def onceWith (key : ObjectKey) (target : WriteTarget) (change : σ → Role → Role × σ) (memory : σ)
    (onConflict : σ → Fault → Program (Except Fault Role)) : Program (Except Fault Role) :=
  .ask (.get key) fun
    | .error e => .done (.error e)
    | .ok none => .done (.error (.notFound key.text))
    | .ok (some role) =>
      let (changed, memory) := change memory role
      if changed.toJson = role.toJson then .done (.ok changed)
      else .ask (.write changed target) fun
        | .ok written => .done (.ok written)
        | .error e => if e.isConflict then onConflict memory e else .done (.error e)

def loopWith (key : ObjectKey) (target : WriteTarget) (change : σ → Role → Role × σ) :
    Nat → σ → Program (Except Fault Role)
  | 0, memory => onceWith key target change memory fun _ e => .done (.error e)
  | retries + 1, memory =>
    onceWith key target change memory fun memory _ => loopWith key target change retries memory

/-- A patch whose change remembers something from one attempt to the next. -/
def remembering (key : ObjectKey) (target : WriteTarget) (change : σ → Role → Role × σ)
    (memory : σ) : Program (Except Fault Role) :=
  loopWith key target change (attempts - 1) memory

theorem onceWith_forgetful (f : Role → Role) (memory : σ)
    (onConflict : σ → Fault → Program (Except Fault Role)) :
    onceWith key target (fun memory role => (f role, memory)) memory onConflict =
      once key target f (onConflict memory) := by
  refine congrArg (Program.ask (.get key)) (funext fun seen => ?_)
  rcases seen with e | _ | v
  · rfl
  · rfl
  dsimp only
  split
  · rfl
  · refine congrArg (Program.ask (.write (f v) target)) (funext fun answer => ?_)
    cases answer <;> rfl

theorem loopWith_forgetful (f : Role → Role) (retries : Nat) (memory : σ) :
    loopWith key target (fun memory role => (f role, memory)) retries memory =
      loop key target f retries := by
  induction retries with
  | zero => exact onceWith_forgetful f memory _
  | succ retries ih =>
    rw [loopWith, loop, onceWith_forgetful, ih]

/-- A change that remembers nothing makes it an ordinary patch. -/
theorem remembering_forgetful (f : Role → Role) (memory : σ) :
    remembering key target (fun memory role => (f role, memory)) memory = patch key target f :=
  loopWith_forgetful f _ memory

/-! ## Attempt by attempt -/

/-- A run, by the number of retries that are left. -/
inductive Goes (key : ObjectKey) (target : WriteTarget) (change : σ → Role → Role × σ) :
    Nat → σ → List Exchange → Except Fault Role → Prop where
  | unread {n : Nat} {memory : σ} (e : Fault) :
      Goes key target change n memory [⟨.get key, .error e⟩] (.error e)
  | absent {n : Nat} {memory : σ} :
      Goes key target change n memory [⟨.get key, .ok none⟩] (.error (.notFound key.text))
  | unchanged {n : Nat} {memory : σ} {v : Role} (same : (change memory v).1.toJson = v.toJson) :
      Goes key target change n memory [⟨.get key, .ok (some v)⟩] (.ok (change memory v).1)
  | written {n : Nat} {memory : σ} {v : Role} (shows : (change memory v).1.toJson ≠ v.toJson)
      (u : Role) :
      Goes key target change n memory
        [⟨.get key, .ok (some v)⟩, ⟨.write (change memory v).1 target, .ok u⟩] (.ok u)
  | refused {n : Nat} {memory : σ} {v : Role} {e : Fault}
      (shows : (change memory v).1.toJson ≠ v.toJson) (final : e.isConflict → n = 0) :
      Goes key target change n memory
        [⟨.get key, .ok (some v)⟩, ⟨.write (change memory v).1 target, .error e⟩] (.error e)
  | again {n : Nat} {memory : σ} {v : Role} {e : Fault} {xs : List Exchange}
      {result : Except Fault Role} (shows : (change memory v).1.toJson ≠ v.toJson)
      (conflict : e.isConflict) (rest : Goes key target change n (change memory v).2 xs result) :
      Goes key target change (n + 1) memory
        (⟨.get key, .ok (some v)⟩ :: ⟨.write (change memory v).1 target, .error e⟩ :: xs) result

theorem onceWith_yields {onConflict : σ → Fault → Program (Except Fault Role)}
    (run : (onceWith key target change memory onConflict).Yields xs result)
    (goes : ∀ v e rest, (change memory v).1.toJson ≠ v.toJson → e.isConflict →
      (onConflict (change memory v).2 e).Yields rest result →
        Goes key target change retries memory (⟨.get key, .ok (some v)⟩ ::
          ⟨.write (change memory v).1 target, .error e⟩ :: rest) result) :
    Goes key target change retries memory xs result := by
  obtain ⟨seen, rest, rfl, run⟩ := run
  rcases seen with e | _ | v
  · obtain ⟨rfl, rfl⟩ := run
    exact .unread e
  · obtain ⟨rfl, rfl⟩ := run
    exact .absent
  dsimp only at run
  by_cases same : (change memory v).1.toJson = v.toJson
  · rw [if_pos same] at run
    obtain ⟨rfl, rfl⟩ := run
    exact .unchanged same
  rw [if_neg same] at run
  obtain ⟨answer, rest, rfl, run⟩ := run
  rcases answer with e | u
  · dsimp only at run
    split at run
    · next conflict => exact goes v e rest same conflict run
    · next other =>
      obtain ⟨rfl, rfl⟩ := run
      exact .refused same fun conflict => absurd conflict other
  · obtain ⟨rfl, rfl⟩ := run
    exact .written same u

theorem loopWith_goes (run : (loopWith key target change retries memory).Yields xs result) :
    Goes key target change retries memory xs result := by
  induction retries generalizing memory xs with
  | zero =>
    refine onceWith_yields run fun v e rest shows _ ending => ?_
    -- Nobody tries again after the last attempt, even if it has lost a race.
    obtain ⟨rfl, rfl⟩ := ending
    exact .refused shows fun _ => rfl
  | succ retries ih =>
    exact onceWith_yields run fun v e rest shows conflict again => .again shows conflict (ih again)

/-! ## The order of calls -/

/-- The versions that were read. -/
def versions (xs : List Exchange) : List Role :=
  xs.filterMap fun
    | ⟨.get _, .ok seen⟩ => seen
    | _ => none

/-- What the change remembers after it was applied to these versions. -/
def memoryAfter (change : σ → Role → Role × σ) (memory : σ) (vs : List Role) : σ :=
  vs.foldl (fun memory v => (change memory v).2) memory

/-- What an attempt makes of the version `v`, by the exchanges of the attempts before it. -/
def made (change : σ → Role → Role × σ) (memory : σ) (lost : List Exchange) (v : Role) : Role :=
  (change (memoryAfter change memory (versions lost)) v).1

def isRead (x : Exchange) : Bool :=
  match x.1 with
  | .get _ => true
  | _ => false

def isWrite (x : Exchange) : Bool :=
  match x.1 with
  | .write _ _ => true
  | _ => false

/-- The order in which a patch of so many attempts makes its calls. The attempt `i` reads with the
call `2 * i` and writes with the call after it. -/
structure Orderly (key : ObjectKey) (target : WriteTarget) (change : σ → Role → Role × σ)
    (limit : Nat) (memory : σ) (xs : List Exchange) (result : Except Fault Role) : Prop where
  reads : xs.countP isRead ≤ limit
  writes : xs.countP isWrite ≤ limit
  begins : xs ≠ []
  read : ∀ i x, xs[2 * i]? = some x → x.1 = .get key
  /-- What is written is the change of the version just read, which shows. -/
  write : ∀ i x, xs[2 * i + 1]? = some x → ∃ v, xs[2 * i]? = some ⟨.get key, .ok (some v)⟩ ∧
    x.1 = .write (made change memory (xs.take (2 * i)) v) target ∧
      (made change memory (xs.take (2 * i)) v).toJson ≠ v.toJson
  shows : ∀ i v, xs[2 * i]? = some ⟨.get key, .ok (some v)⟩ →
    (made change memory (xs.take (2 * i)) v).toJson ≠ v.toJson → 2 * i + 1 < xs.length
  unchanged : ∀ i v, xs[2 * i]? = some ⟨.get key, .ok (some v)⟩ →
    (made change memory (xs.take (2 * i)) v).toJson = v.toJson →
      xs.length = 2 * i + 1 ∧ result = .ok (made change memory (xs.take (2 * i)) v)
  unread : ∀ i e, xs[2 * i]? = some ⟨.get key, .error e⟩ →
    xs.length = 2 * i + 1 ∧ result = .error e
  absent : ∀ i, xs[2 * i]? = some ⟨.get key, .ok none⟩ →
    xs.length = 2 * i + 1 ∧ result = .error (.notFound key.text)
  written : ∀ i w u, xs[2 * i + 1]? = some ⟨.write w target, .ok u⟩ →
    xs.length = 2 * i + 2 ∧ result = .ok u
  refused : ∀ i w e, xs[2 * i + 1]? = some ⟨.write w target, .error e⟩ → ¬ e.isConflict →
    xs.length = 2 * i + 2 ∧ result = .error e
  /-- A lost race is followed by another read, except in the last attempt. -/
  lost : ∀ i w e, xs[2 * i + 1]? = some ⟨.write w target, .error e⟩ → e.isConflict →
    if i + 1 < limit then 2 * i + 2 < xs.length else xs.length = 2 * i + 2 ∧ result = .error e
  /-- A conflict that no read has failed with stands for as many lost races as there are attempts. -/
  conflict : ∀ e, result = .error e → e.isConflict →
    (∃ i, xs[2 * i]? = some ⟨.get key, .error e⟩) ∨
      ∀ i < limit, ∃ w e, xs[2 * i + 1]? = some ⟨.write w target, .error e⟩ ∧ e.isConflict

theorem Goes.ne_nil (h : Goes key target change retries memory xs result) : xs ≠ [] := by
  cases h <;> exact List.cons_ne_nil _ _

theorem Goes.reads_le (h : Goes key target change retries memory xs result) :
    xs.countP isRead ≤ retries + 1 := by
  induction h with
  | unread | absent | unchanged | written | refused => simp [List.countP_cons, isRead]
  | again shows conflict rest ih => simpa [List.countP_cons, isRead] using ih

theorem Goes.writes_le (h : Goes key target change retries memory xs result) :
    xs.countP isWrite ≤ retries + 1 := by
  induction h with
  | unread | absent | unchanged | written | refused => simp [List.countP_cons, isWrite]
  | again shows conflict rest ih => simpa [List.countP_cons, isWrite] using ih

/-- What is left of a run when an attempt begins, after two calls for every attempt before it. -/
theorem Goes.attempt (h : Goes key target change retries memory xs result) {i : Nat}
    (begun : 2 * i < xs.length) :
    ∃ n, i + n = retries ∧
      Goes key target change n (memoryAfter change memory (versions (xs.take (2 * i))))
        (xs.drop (2 * i)) result := by
  induction i generalizing retries memory xs with
  | zero => exact ⟨retries, Nat.zero_add _, h⟩
  | succ i ih =>
    have double : 2 * (i + 1) = 2 * i + 1 + 1 := Nat.mul_succ 2 i
    rw [double] at begun ⊢
    cases h with
    | unread | absent | unchanged | written | refused =>
      simp only [List.length_cons, List.length_nil] at begun
      omega
    | again shows conflict later =>
      simp only [List.length_cons, Nat.add_lt_add_iff_right] at begun
      obtain ⟨n, left, goes⟩ := ih later begun
      exact ⟨n, by omega, goes⟩

/-- An attempt that begins with the exchange `x`. -/
theorem Goes.at_read (h : Goes key target change retries memory xs result) {i : Nat} {x : Exchange}
    (hx : xs[2 * i]? = some x) :
    ∃ n rest, Goes key target change n (memoryAfter change memory (versions (xs.take (2 * i))))
      (x :: rest) result ∧ xs.length = 2 * i + 1 + rest.length := by
  obtain ⟨begun, rfl⟩ := List.getElem?_eq_some_iff.1 hx
  obtain ⟨n, -, goes⟩ := h.attempt begun
  rw [List.drop_eq_getElem_cons begun] at goes
  exact ⟨n, _, goes, by rw [List.length_drop]; omega⟩

/-- An attempt that goes on with the exchange `x`. -/
theorem Goes.at_write (h : Goes key target change retries memory xs result) {i : Nat} {x : Exchange}
    (hx : xs[2 * i + 1]? = some x) :
    ∃ n first rest, i + n = retries ∧ xs[2 * i]? = some first ∧
      Goes key target change n (memoryAfter change memory (versions (xs.take (2 * i))))
        (first :: x :: rest) result ∧ xs.length = 2 * i + 2 + rest.length := by
  obtain ⟨written, rfl⟩ := List.getElem?_eq_some_iff.1 hx
  have begun : 2 * i < xs.length := Nat.lt_of_succ_lt written
  obtain ⟨n, left, goes⟩ := h.attempt begun
  rw [List.drop_eq_getElem_cons begun, List.drop_eq_getElem_cons written] at goes
  exact ⟨n, _, _, left, List.getElem?_eq_getElem begun, goes, by rw [List.length_drop]; omega⟩

/-- A conflict stands for a failed read, or for a lost race in every attempt. -/
theorem Goes.conflict (h : Goes key target change retries memory xs result) {e : Fault}
    (failed : result = .error e) (conflict : e.isConflict) :
    (∃ i, xs[2 * i]? = some ⟨.get key, .error e⟩) ∨
      ∀ i < retries + 1, ∃ w e, xs[2 * i + 1]? = some ⟨.write w target, .error e⟩ ∧
        e.isConflict := by
  induction h with
  | unread e' =>
    cases failed
    exact Or.inl ⟨0, rfl⟩
  | absent =>
    cases failed
    cases conflict
  | unchanged | written => cases failed
  | refused shows final =>
    cases failed
    obtain rfl := final conflict
    refine Or.inr fun i hi => ?_
    obtain rfl := Nat.lt_one_iff.1 hi
    exact ⟨_, e, rfl, conflict⟩
  | @again n memory v e' xs result shows lost rest ih =>
    refine (ih failed).imp ?_ ?_
    · rintro ⟨i, seen⟩
      exact ⟨i + 1, seen⟩
    · rintro races (_ | i) hi
      · exact ⟨_, e', rfl, lost⟩
      · exact races i (Nat.lt_of_succ_lt_succ hi)

theorem Goes.orderly (h : Goes key target change retries memory xs result) :
    Orderly key target change (retries + 1) memory xs result where
  reads := h.reads_le
  writes := h.writes_le
  begins := h.ne_nil
  read i x hx := by
    obtain ⟨n, rest, goes, -⟩ := h.at_read hx
    cases goes <;> rfl
  write i x hx := by
    obtain ⟨n, first, rest, -, hfirst, goes, -⟩ := h.at_write hx
    cases goes with
    | written shows | refused shows | again shows => exact ⟨_, hfirst, rfl, shows⟩
  shows i v hx shows := by
    obtain ⟨n, rest, goes, length⟩ := h.at_read hx
    cases goes with
    | unchanged same => exact absurd same shows
    | written | refused | again =>
      rw [List.length_cons] at length
      omega
  unchanged i v hx same := by
    obtain ⟨n, rest, goes, length⟩ := h.at_read hx
    cases goes with
    | unchanged => exact ⟨length, rfl⟩
    | written shows | refused shows | again shows => exact absurd same shows
  unread i e hx := by
    obtain ⟨n, rest, goes, length⟩ := h.at_read hx
    cases goes
    exact ⟨length, rfl⟩
  absent i hx := by
    obtain ⟨n, rest, goes, length⟩ := h.at_read hx
    cases goes
    exact ⟨length, rfl⟩
  written i w u hx := by
    obtain ⟨n, first, rest, -, -, goes, length⟩ := h.at_write hx
    cases goes
    exact ⟨length, rfl⟩
  refused i w e hx other := by
    obtain ⟨n, first, rest, -, -, goes, length⟩ := h.at_write hx
    cases goes with
    | refused => exact ⟨length, rfl⟩
    | again shows conflict => exact absurd conflict other
  lost i w e hx conflict := by
    obtain ⟨n, first, rest, left, -, goes, length⟩ := h.at_write hx
    cases goes with
    | refused shows final =>
      obtain rfl := final conflict
      rw [if_neg (by omega)]
      exact ⟨length, rfl⟩
    | again shows _ later =>
      have more := List.length_pos_iff.2 later.ne_nil
      rw [if_pos (by omega)]
      omega
  conflict e failed conflict := h.conflict failed conflict

/-- Over any store and with any change, a patch ends, and makes its calls in order. -/
theorem remembering_orderly (key : ObjectKey) (target : WriteTarget)
    (change : σ → Role → Role × σ) (memory : σ) :
    (∀ store : Program.Responder, ∃ xs result,
      (remembering key target change memory).Yields xs result ∧ Program.AnsweredBy store xs) ∧
    (∀ xs result, (remembering key target change memory).Yields xs result →
      Orderly key target change 5 memory xs result) ∧
    ∀ f : Role → Role,
      remembering key target (fun memory role => (f role, memory)) memory = patch key target f :=
  ⟨fun store => Program.exists_yields_answeredBy store _,
    fun _ _ run => (loopWith_goes run).orderly, fun f => remembering_forgetful f memory⟩

end Patch
end RoleOperator
