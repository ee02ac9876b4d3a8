import RoleOperator.Reconcile
import RoleOperator.Proofs.Association
import RoleOperator.Proofs.Finalization.Course
import RoleOperator.Proofs.Role.Identity

/-!
# Exclusion of finalizations

Any number of finalizations share a registry. They are submitted directly or by reconciles, begin at
any time, take their steps in any order, and some are dropped on the way. An id is registered as long
as the one finalization that has acquired it goes on.
-/
namespace RoleOperator.Finalization

/-- A finalization from its submission on. One that was dropped has no outcome. -/
inductive Run where
  | submitted (settings : FinalizationSettings) (role : Role)
  | active (course : Course)
  | over (role : Role) (outcome : Option Outcome) (marks : List Mark)

def Run.id? : Run → Option String
  | .active c => some c.machine.id
  | _ => none

def Run.pass (nanos : Nat) : Run → Run
  | .active c => .active { c with now := c.now + nanos }
  | r => r

structure Traffic where
  registry : Registry := {}
  now : Nat := 0
  reconciles : List (Program (Except Fault Unit)) := []
  runs : List Run := []

namespace Traffic

inductive Action where
  | submit (settings : FinalizationSettings) (role : Role)
  | reconcile (key : ObjectKey)
  | advance (i : Nat) (settings : FinalizationSettings) (reply : (c : Call) → c.Answer)
  | pass (nanos : Nat)
  | enter (i : Nat)
  | act (i : Nat) (a : Finalization.Action)
  | drop (i : Nat)

def submit (s : Traffic) (settings : FinalizationSettings) (role : Role) : Traffic :=
  { s with runs := s.runs ++ [.submitted settings role] }

/-- The next call of a reconcile. -/
def advance (s : Traffic) (i : Nat) (settings : FinalizationSettings)
    (reply : (c : Call) → c.Answer) : Option Traffic :=
  match s.reconciles[i]? with
  | some (.ask (.finalize role) next) =>
    some { s.submit settings role with reconciles := s.reconciles.set i (next ()) }
  | some (.ask call next) => some { s with reconciles := s.reconciles.set i (next (reply call)) }
  | _ => none

/-- A finalization begins, or it is turned away. -/
def enter (s : Traffic) (i : Nat) : Option Traffic :=
  match s.runs[i]? with
  | some (.submitted settings role) =>
    match start settings s.now s.registry role with
    | (.error o, registry) => some { s with registry, runs := s.runs.set i (.over role (some o) []) }
    | (.ok f, registry) =>
      some { s with registry, runs := s.runs.set i (.active { machine := f, now := s.now }) }
  | _ => none

/-- A finalization that has come to its end gives its id back. -/
def settle (s : Traffic) (i : Nat) (c : Course) : Traffic :=
  match c.machine.outcome? with
  | none => { s with runs := s.runs.set i (.active c) }
  | some o =>
    { s with
      registry := s.registry.release c.machine.id
      runs := s.runs.set i (.over c.machine.role (some o) c.marks) }

def act (s : Traffic) (i : Nat) (a : Finalization.Action) : Option Traffic :=
  match s.runs[i]? with
  | some (.active c) => (c.step a).map (s.settle i)
  | _ => none

/-- The task is gone, and what it held with it. -/
def drop (s : Traffic) (i : Nat) : Option Traffic :=
  match s.runs[i]? with
  | some (.submitted _ role) => some { s with runs := s.runs.set i (.over role none []) }
  | some (.active c) =>
    some { s with
      registry := s.registry.release c.machine.id
      runs := s.runs.set i (.over c.machine.role none c.marks) }
  | _ => none

/-- Time passes for all alike. -/
def step (s : Traffic) : Action → Option Traffic
  | .submit settings role => some (s.submit settings role)
  | .reconcile key => some { s with reconciles := s.reconciles ++ [Reconcile.program key] }
  | .advance i settings reply => s.advance i settings reply
  | .pass nanos => some { s with now := s.now + nanos, runs := s.runs.map (Run.pass nanos) }
  | .enter i => s.enter i
  | .act _ (.pass _) => none
  | .act i a => s.act i a
  | .drop i => s.drop i

def run (s : Traffic) : List Action → Option Traffic
  | [] => some s
  | a :: rest => (s.step a).bind fun s => s.run rest

def holder (s : Traffic) (i : Nat) : Option String := s.runs[i]?.bind Run.id?

variable {s s' : Traffic} {i : Nat} {r : Run} {a : Action} {actions : List Action}

/-! ## Steps -/

/-- What a step does to the registry, and to those who hold an id. -/
inductive Change (s s' : Traffic) : Prop where
  | keep (registry : s'.registry = s.registry) (holders : ∀ j, s'.holder j = s.holder j)
  | acquire {i : Nat} {id : String} (idle : s.holder i = none) (free : id ∉ s.registry.ids)
      (registry : s'.registry.ids = s.registry.ids ++ [id])
      (holders : ∀ j, s'.holder j = if j = i then some id else s.holder j)
  | release {i : Nat} {id : String} (held : s.holder i = some id)
      (registry : s'.registry = s.registry.release id)
      (holders : ∀ j, s'.holder j = if j = i then none else s.holder j)

theorem holder_of_run (hr : s.runs[i]? = some r) : s.holder i = r.id? := by
  rw [holder, hr, Option.bind_some]

/-- A run is replaced by what has become of it. -/
theorem holder_set (hr : s.runs[i]? = some r) (new : Run) (hs : s'.runs = s.runs.set i new)
    (j : Nat) : s'.holder j = if j = i then new.id? else s.holder j := by
  obtain ⟨hi, -⟩ := List.getElem?_eq_some_iff.1 hr
  rw [holder, hs]
  by_cases hj : j = i
  · rw [if_pos hj, hj, List.getElem?_set_self hi, Option.bind_some]
  · rw [if_neg hj, List.getElem?_set_ne (Ne.symm hj)]
    rfl

theorem change_of_same (hr : s.runs[i]? = some r) {new : Run} (same : new.id? = r.id?) :
    Change s { s with runs := s.runs.set i new } := by
  refine .keep rfl fun j => ?_
  rw [holder_set hr new rfl]
  split
  · next hj => rw [hj, holder_of_run hr, same]
  · rfl

theorem change_of_ended {c : Course} (hr : s.runs[i]? = some (.active c)) {new : Run}
    (ended : new.id? = none) :
    Change s { s with
      registry := s.registry.release c.machine.id, runs := s.runs.set i new } := by
  refine .release (holder_of_run hr) rfl fun j => ?_
  rw [holder_set hr new rfl, ended]

theorem holder_submit (settings : FinalizationSettings) (role : Role) (j : Nat) :
    (s.submit settings role).holder j = s.holder j := by
  simp only [holder, submit, List.getElem?_append]
  split
  · rfl
  · next past =>
    rw [List.getElem?_eq_none (Nat.le_of_not_lt past), List.getElem?_singleton]
    split <;> rfl

theorem holder_pass (nanos j : Nat) (hs : s'.runs = s.runs.map (Run.pass nanos)) :
    s'.holder j = s.holder j := by
  rw [holder, holder, hs, List.getElem?_map]
  rcases s.runs[j]? with _ | _ | c | _ <;> rfl

theorem id_of_step {c c' : Course} {a : Finalization.Action} (h : c.step a = some c') :
    c'.machine.id = c.machine.id := by
  have kept := (Course.advance_of_step h).setup
  exact congrArg (fun p => p.1.finalizationId) kept

theorem enter_unnamed {settings : FinalizationSettings} {role : Role}
    (hr : s.runs[i]? = some (.submitted settings role)) (unnamed : role.metadata.key? = none) :
    s.enter i = some { s with runs := s.runs.set i (.over role (some .invalid) []) } := by
  simp only [enter, hr, start, unnamed]

theorem enter_taken {settings : FinalizationSettings} {role : Role} {key : ObjectKey}
    (hr : s.runs[i]? = some (.submitted settings role)) (named : role.metadata.key? = some key)
    (taken : role.finalizationId ∈ s.registry.ids) :
    s.enter i =
      some { s with runs := s.runs.set i (.over role (some .alreadyProcessing) []) } := by
  have present : s.registry.contains role.finalizationId := List.contains_iff_mem.2 taken
  simp only [enter, hr, start, named, Registry.acquire, present, if_true]

theorem enter_free {settings : FinalizationSettings} {role : Role} {key : ObjectKey}
    (hr : s.runs[i]? = some (.submitted settings role)) (named : role.metadata.key? = some key)
    (free : role.finalizationId ∉ s.registry.ids) :
    s.enter i = some { s with
      registry := ⟨s.registry.ids ++ [role.finalizationId]⟩
      runs := s.runs.set i (.active (Course.beginning settings s.now role key)) } := by
  have absent : ¬ s.registry.contains role.finalizationId :=
    fun h => free (List.contains_iff_mem.1 h)
  simp only [enter, hr, start, named, Registry.acquire, if_neg absent]
  rfl

theorem id_beginning (settings : FinalizationSettings) (begin : Nat) (role : Role)
    (key : ObjectKey) : (Course.beginning settings begin role key).machine.id =
      role.finalizationId :=
  congrArg (fun p => p.1.finalizationId) enterLoop_setup

/-- A run that can enter has been submitted and waits for it. -/
theorem submitted_of_enter (h : s.enter i = some s') :
    ∃ settings role, s.runs[i]? = some (.submitted settings role) := by
  unfold enter at h
  split at h
  · next hr => exact ⟨_, _, hr⟩
  · cases h

theorem change_enter (h : s.enter i = some s') : Change s s' := by
  obtain ⟨settings, role, hr⟩ := submitted_of_enter h
  have idle : s.holder i = none := holder_of_run hr
  have turned : ∀ o, s' = { s with runs := s.runs.set i (.over role (some o) []) } →
      Change s s' := by
    rintro o rfl
    exact change_of_same hr rfl
  cases named : role.metadata.key? with
  | none => exact turned _ (Option.some.inj (h.symm.trans (enter_unnamed hr named)))
  | some key =>
    by_cases taken : role.finalizationId ∈ s.registry.ids
    · exact turned _ (Option.some.inj (h.symm.trans (enter_taken hr named taken)))
    · cases h.symm.trans (enter_free hr named taken)
      refine .acquire idle taken rfl fun j => ?_
      rw [holder_set hr _ rfl, Run.id?, id_beginning]

theorem change_settle {c c' : Course} (hr : s.runs[i]? = some (.active c))
    (same : c'.machine.id = c.machine.id) : Change s (s.settle i c') := by
  unfold settle
  split
  · exact change_of_same hr (congrArg some same)
  · rw [same]
    exact change_of_ended hr rfl

theorem change_drop (h : s.drop i = some s') : Change s s' := by
  unfold drop at h
  split at h
  · next hr =>
    cases h
    exact change_of_same hr rfl
  · next hr =>
    cases h
    exact change_of_ended hr rfl
  · cases h

theorem change_advance {settings : FinalizationSettings} {reply : (c : Call) → c.Answer}
    (h : s.advance i settings reply = some s') : Change s s' := by
  unfold advance at h
  split at h
  · cases h
    exact .keep rfl (holder_submit settings _)
  · cases h
    exact .keep rfl fun _ => rfl
  · cases h

theorem change_act {a : Finalization.Action} (h : s.act i a = some s') : Change s s' := by
  unfold act at h
  split at h
  · next c hr =>
    obtain ⟨c', hs, rfl⟩ := Option.map_eq_some_iff.1 h
    exact change_settle hr (id_of_step hs)
  · cases h

theorem change_of_step (h : s.step a = some s') : Change s s' := by
  unfold step at h
  split at h
  · cases h
    exact .keep rfl (holder_submit _ _)
  · cases h
    exact .keep rfl fun _ => rfl
  · exact change_advance h
  · cases h
    exact .keep rfl fun j => holder_pass _ j rfl
  · exact change_enter h
  · cases h
  · exact change_act h
  · exact change_drop h

/-- What every step preserves holds at the end of a run. -/
theorem run_induction {P : Traffic → Prop} (start : P s)
    (change : ∀ {s s' : Traffic} {a}, s.step a = some s' → P s → P s')
    (h : s.run actions = some s') : P s' := by
  induction actions generalizing s with
  | nil =>
    cases h
    exact start
  | cons a rest ih =>
    obtain ⟨m, hs, hr⟩ := Option.bind_eq_some_iff.1 h
    exact ih (change hs start) hr

/-! ## The registry -/

/-- The registered ids are those that are held, and each has one holder. -/
structure Exclusive (s : Traffic) : Prop where
  nodup : s.registry.ids.Nodup
  held : ∀ id, id ∈ s.registry.ids ↔ ∃ i, s.holder i = some id
  sole : ∀ {i j id}, s.holder i = some id → s.holder j = some id → i = j

theorem exclusive_empty : Exclusive {} := by
  have idle : ∀ i, ({} : Traffic).holder i = none := by simp [holder]
  exact ⟨List.nodup_nil, by simp [idle], by simp [idle]⟩

theorem Exclusive.change (h : s.Exclusive) (c : Change s s') : s'.Exclusive := by
  cases c with
  | keep registry holders =>
    refine ⟨registry ▸ h.nodup, ?_, ?_⟩
    · simp only [registry, holders]
      exact h.held
    · simp only [holders]
      exact h.sole
  | @acquire i id idle free registry holders =>
    have unheld : ∀ j, s.holder j ≠ some id := fun j hj => free ((h.held id).2 ⟨j, hj⟩)
    refine ⟨?_, fun id' => ?_, ?_⟩
    · rw [registry]
      exact nodup_snoc h.nodup free
    · rw [registry, List.mem_append, List.mem_singleton, h.held]
      constructor
      · rintro (⟨j, hj⟩ | rfl)
        · have other : j ≠ i := by
            rintro rfl
            rw [idle] at hj
            cases hj
          exact ⟨j, by rw [holders, if_neg other, hj]⟩
        · exact ⟨i, by rw [holders, if_pos rfl]⟩
      · rintro ⟨j, hj⟩
        rw [holders] at hj
        split at hj
        · cases hj
          exact Or.inr rfl
        · exact Or.inl ⟨j, hj⟩
    · intro j k id' hj hk
      rw [holders] at hj hk
      split at hj <;> split at hk
      · next hj' hk' => rw [hj', hk']
      · cases hj
        exact absurd hk (unheld k)
      · cases hk
        exact absurd hj (unheld j)
      · exact h.sole hj hk
  | @release i id held registry holders =>
    refine ⟨?_, fun id' => ?_, ?_⟩
    · rw [registry]
      exact h.nodup.filter _
    · rw [registry, Registry.release, List.mem_filter, h.held]
      simp only [holders, decide_eq_true_eq]
      constructor
      · rintro ⟨⟨j, hj⟩, other⟩
        have elsewhere : j ≠ i := by
          rintro rfl
          rw [held] at hj
          cases hj
          exact other rfl
        exact ⟨j, by rw [if_neg elsewhere, hj]⟩
      · rintro ⟨j, hj⟩
        split at hj
        · cases hj
        · next elsewhere =>
          refine ⟨⟨j, hj⟩, ?_⟩
          rintro rfl
          exact elsewhere (h.sole hj held)
    · intro j k id' hj hk
      rw [holders] at hj hk
      split at hj
      · cases hj
      split at hk
      · cases hk
      exact h.sole hj hk

end Traffic

/-! ## What became of a run -/

def TurnedAway (o : Outcome) : Prop := o = .alreadyProcessing ∨ o = .invalid

/-- A finalization under way is going to end, if at all, as one that was not turned away. -/
def Admitted (f : Finalization) : Prop :=
  match f.stage with
  | .removing o _ | .ended o => ¬ TurnedAway o
  | _ => True

theorem admitted_enterLoop (f : Finalization) (now : Nat) : Admitted (f.enterLoop now) := by
  unfold enterLoop
  split <;> simp [Admitted, TurnedAway]

theorem admitted_afterAttempt (f : Finalization) (now : Nat) (noticed : Bool) (a : Attempt) :
    Admitted (f.afterAttempt now noticed a) := by
  unfold afterAttempt
  dsimp only
  split
  · simp [Admitted, TurnedAway]
  split <;> simp [Admitted, TurnedAway]

theorem Course.Advance.admitted {c c' : Course} (h : c.Advance c') (ha : Admitted c.machine) :
    Admitted c'.machine := by
  cases h with
  | idle | issue => exact ha
  | answer x _ pending =>
    rcases call?_eq_some pending with ⟨rest, _, rfl⟩ | ⟨o, rest, stage, rfl⟩
    · trivial
    · rw [Admitted, stage] at ha
      exact ha
  | settle => exact admitted_afterAttempt _ _ _ _
  | close stage =>
    rw [Admitted, stage] at ha
    exact ha
  | resume => exact admitted_enterLoop _ _
  | giveUp => simp [Admitted, TurnedAway]

/-- A run under way works on the object of its key; one that was turned away has done nothing. -/
def Run.Sound : Run → Prop
  | .submitted _ _ => True
  | .active c => c.machine.role.metadata.key? = some c.machine.key ∧ Admitted c.machine
  | .over _ o marks => ∀ o', o = some o' → TurnedAway o' → marks = []

theorem Run.Sound.step {c c' : Course} {a : Action} (h : (Run.active c).Sound)
    (hs : c.step a = some c') : (Run.active c').Sound := by
  obtain ⟨named, admitted⟩ := h
  have advance := Course.advance_of_step hs
  have kept := advance.setup
  have role : c'.machine.role = c.machine.role := congrArg (fun p => p.1) kept
  have key : c'.machine.key = c.machine.key := congrArg (fun p => p.2.1) kept
  refine ⟨?_, advance.admitted admitted⟩
  rw [role, key]
  exact named

theorem Run.sound_beginning {settings : FinalizationSettings} {begin : Nat} {role : Role}
    {key : ObjectKey} (named : role.metadata.key? = some key) :
    (Run.active (Course.beginning settings begin role key)).Sound := by
  have kept : (Course.beginning settings begin role key).machine.setup =
      (initial settings begin role key).setup := enterLoop_setup
  have role_eq : (Course.beginning settings begin role key).machine.role = role :=
    congrArg (fun p => p.1) kept
  have key_eq : (Course.beginning settings begin role key).machine.key = key :=
    congrArg (fun p => p.2.1) kept
  refine ⟨?_, admitted_enterLoop _ _⟩
  rw [role_eq, key_eq]
  exact named

namespace Traffic

variable {s s' : Traffic} {a : Action} {i : Nat}

def Sound (s : Traffic) : Prop := ∀ r ∈ s.runs, r.Sound

theorem Sound.set (h : s.Sound) {new : Run} (hn : new.Sound) (hs : s'.runs = s.runs.set i new) :
    s'.Sound := by
  intro r hr
  rw [hs] at hr
  rcases List.mem_or_eq_of_mem_set hr with hr | rfl
  · exact h r hr
  · exact hn

theorem Sound.submit (h : s.Sound) (settings : FinalizationSettings) (role : Role) :
    (s.submit settings role).Sound := by
  intro r hr
  rcases List.mem_append.1 hr with hr | hr
  · exact h r hr
  · rw [List.mem_singleton.1 hr]
    trivial

theorem Sound.settle (h : s.Sound) {c : Course} (hc : (Run.active c).Sound) :
    (s.settle i c).Sound := by
  unfold Traffic.settle
  split
  · exact h.set hc rfl
  · next o ended =>
    refine h.set ?_ rfl
    rintro _ ⟨⟩ turned
    have admitted := hc.2
    rw [Admitted, outcome?_eq_some.1 ended] at admitted
    exact absurd turned admitted

theorem Sound.enter (h : s.Sound) (he : s.enter i = some s') : s'.Sound := by
  obtain ⟨settings, role, hr⟩ := submitted_of_enter he
  have turned : ∀ o, (Run.over role (some o) []).Sound := fun _ _ _ _ => rfl
  cases named : role.metadata.key? with
  | none =>
    cases he.symm.trans (enter_unnamed hr named)
    exact h.set (turned _) rfl
  | some key =>
    by_cases taken : role.finalizationId ∈ s.registry.ids
    · cases he.symm.trans (enter_taken hr named taken)
      exact h.set (turned _) rfl
    · cases he.symm.trans (enter_free hr named taken)
      exact h.set (Run.sound_beginning named) rfl

theorem Sound.pass (h : s.Sound) {nanos : Nat} (hs : s'.runs = s.runs.map (Run.pass nanos)) :
    s'.Sound := by
  intro r hr
  rw [hs] at hr
  obtain ⟨old, member, rfl⟩ := List.mem_map.1 hr
  have sound := h old member
  cases old <;> exact sound

theorem Sound.step (h : s.Sound) (hs : s.step a = some s') : s'.Sound := by
  have under_way : ∀ {i : Nat} {c}, s.runs[i]? = some (Run.active c) → (Run.active c).Sound :=
    fun hr => h _ (List.mem_of_getElem? hr)
  have dropped : ∀ role marks, (Run.over role none marks).Sound := by
    rintro _ _ _ ⟨⟩
  unfold Traffic.step at hs
  split at hs
  · cases hs
    exact h.submit _ _
  · cases hs
    exact h
  · unfold Traffic.advance at hs
    split at hs
    · cases hs
      exact h.submit _ _
    · cases hs
      exact h
    · cases hs
  · cases hs
    exact h.pass rfl
  · exact h.enter hs
  · cases hs
  · unfold act at hs
    split at hs
    · next hr =>
      obtain ⟨c', step, rfl⟩ := Option.map_eq_some_iff.1 hs
      exact h.settle ((under_way hr).step step)
    · cases hs
  · unfold Traffic.drop at hs
    split at hs
    · cases hs
      exact h.set (dropped _ _) rfl
    · cases hs
      exact h.set (dropped _ _) rfl
    · cases hs

/-! ## Runs of all finalizations -/

/-- The finalization goes on, and stands at `c`. -/
def UnderWay (s : Traffic) (i : Nat) (c : Course) : Prop := s.runs[i]? = some (.active c)

theorem holder_eq_some {id : String} :
    s.holder i = some id ↔ ∃ c, s.UnderWay i c ∧ c.machine.id = id := by
  rw [holder]
  simp only [UnderWay]
  rcases s.runs[i]? with _ | ⟨_, _⟩ | c | ⟨_, _, _⟩ <;> simp [Run.id?]

theorem reached {actions : List Action} (h : run {} actions = some s) :
    s.Exclusive ∧ s.Sound := by
  have start : ({} : Traffic).Exclusive ∧ ({} : Traffic).Sound :=
    ⟨exclusive_empty, by simp [Traffic.Sound]⟩
  refine run_induction (P := fun s => s.Exclusive ∧ s.Sound) start (fun hs before => ?_) h
  obtain ⟨exclusive, sound⟩ := before
  exact ⟨exclusive.change (change_of_step hs), sound.step hs⟩

/-- At every moment the registry is the set of the ids of the finalizations under way, no two of which
have the same id or work on the same object; so neither do their calls overlap. One that finds its id
free registers it and goes on. One that finds it taken ends at once, as does one without a name, and
none that was turned away has made a call. When all have ended, nothing is registered. -/
theorem finalizations_exclusive {actions : List Action} (h : run {} actions = some s) :
    s.registry.ids.Nodup ∧
    (∀ id, id ∈ s.registry.ids ↔ ∃ i c, s.UnderWay i c ∧ c.machine.id = id) ∧
    (∀ i j c d, s.UnderWay i c → s.UnderWay j d → c.machine.id = d.machine.id → i = j) ∧
    (∀ i j c d, s.UnderWay i c → s.UnderWay j d → c.machine.role.kind = d.machine.role.kind →
      c.machine.key = d.machine.key → i = j) ∧
    (∀ (i : Nat) settings role key, s.runs[i]? = some (.submitted settings role) →
      role.metadata.key? = some key → role.finalizationId ∉ s.registry.ids →
      s.step (.enter i) = some { s with
        registry := ⟨s.registry.ids ++ [role.finalizationId]⟩
        runs := s.runs.set i (.active (Course.beginning settings s.now role key)) }) ∧
    (∀ (i : Nat) settings role key, s.runs[i]? = some (.submitted settings role) →
      role.metadata.key? = some key → role.finalizationId ∈ s.registry.ids →
      s.step (.enter i) =
        some { s with runs := s.runs.set i (.over role (some .alreadyProcessing) []) }) ∧
    (∀ (i : Nat) settings role, s.runs[i]? = some (.submitted settings role) →
      role.metadata.key? = none →
      s.step (.enter i) = some { s with runs := s.runs.set i (.over role (some .invalid) []) }) ∧
    (∀ role o marks, .over role (some o) marks ∈ s.runs →
      o = .alreadyProcessing ∨ o = .invalid → marks = []) ∧
    ((∀ r ∈ s.runs, ∃ role o marks, r = .over role o marks) → s.registry.ids = []) := by
  obtain ⟨exclusive, sound⟩ := reached h
  have held : ∀ id, id ∈ s.registry.ids ↔ ∃ i c, s.UnderWay i c ∧ c.machine.id = id := by
    simp only [← holder_eq_some]
    exact exclusive.held
  have sole : ∀ i j c d, s.UnderWay i c → s.UnderWay j d → c.machine.id = d.machine.id → i = j := by
    intro i j c d hi hj same
    exact exclusive.sole (holder_eq_some.2 ⟨c, hi, same⟩) (holder_eq_some.2 ⟨d, hj, rfl⟩)
  refine ⟨exclusive.nodup, held, sole, ?_, ?_, ?_, ?_, ?_, ?_⟩
  · intro i j c d hi hj kind key
    have named := (sound _ (List.mem_of_getElem? hi)).1
    have named' := (sound _ (List.mem_of_getElem? hj)).1
    rw [key] at named
    exact sole i j c d hi hj (Role.finalizationId_of_key named named' kind)
  · intro i settings role key hr named free
    exact enter_free hr named free
  · intro i settings role key hr named taken
    exact enter_taken hr named taken
  · intro i settings role hr unnamed
    exact enter_unnamed hr unnamed
  · intro role o marks hr turned
    exact sound _ hr o rfl turned
  · intro ended
    refine List.eq_nil_iff_forall_not_mem.2 fun id hid => ?_
    obtain ⟨i, c, hr, -⟩ := (held id).1 hid
    obtain ⟨_, _, _, he⟩ := ended _ (List.mem_of_getElem? hr)
    cases he

/-- Two reconciles see the same deletion. The role is being deleted when the second finalization
comes. -/
def secondComes : List Action :=
  let seen := answering departing (.ok departing)
  [.reconcile ⟨some "demo", "reader"⟩, .reconcile ⟨some "demo", "reader"⟩,
    .advance 0 {} seen, .advance 0 {} seen, .advance 1 {} seen, .advance 1 {} seen,
    .enter 0, .act 0 .issue, .act 0 (.answer seen), .act 0 .issue]

/-- It is turned away, and the first one comes to its end. -/
def firstEnds : List Action :=
  let seen := answering departing (.ok departing)
  [.enter 1, .act 0 (.answer seen), .act 0 .issue, .act 0 (.answer seen), .act 0 .issue,
    .act 0 (.answer seen), .act 0 (.proceed false), .act 0 .issue, .act 0 (.answer seen),
    .act 0 .issue, .act 0 (.answer seen), .act 0 (.proceed false)]

theorem second_turned_away :
    (∃ s, run {} secondComes = some s ∧ s.registry.ids = ["gcproles/demo/reader"] ∧
      s.step (.enter 1) =
        some { s with runs := s.runs.set 1 (.over departing (some .alreadyProcessing) []) }) ∧
    ∃ s, run {} (secondComes ++ firstEnds) = some s ∧
      s.runs.map Run.id? = [none, none] ∧ s.registry.ids = [] := by
  constructor
  · obtain ⟨s, hs, registered, waits⟩ : ∃ s, run {} secondComes = some s ∧
        s.registry.ids = ["gcproles/demo/reader"] ∧
        s.runs[1]? = some (.submitted {} departing) := ⟨_, rfl, rfl, rfl⟩
    have taken : departing.finalizationId ∈ s.registry.ids := by
      rw [registered]
      exact List.mem_singleton.2 rfl
    obtain ⟨_, _, _, _, _, turned, _⟩ := finalizations_exclusive hs
    exact ⟨s, hs, registered, turned 1 {} departing _ waits rfl taken⟩
  · obtain ⟨s, hs, first, second, hr⟩ : ∃ s, run {} (secondComes ++ firstEnds) = some s ∧
        ∃ marks marks', s.runs = [.over departing (some .completed) marks,
          .over departing (some .alreadyProcessing) marks'] := ⟨_, rfl, _, _, rfl⟩
    obtain ⟨_, _, _, _, _, _, _, _, empty⟩ := finalizations_exclusive hs
    refine ⟨s, hs, by rw [hr]; rfl, empty ?_⟩
    rw [hr]
    simp

end Traffic
end RoleOperator.Finalization
