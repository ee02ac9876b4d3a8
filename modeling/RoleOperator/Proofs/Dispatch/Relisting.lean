import RoleOperator.Proofs.Dispatch.Delivery

/-!
# Relisting

A list sets its objects aside and becomes the read cache only when it is complete, but each object is
enqueued as soon as it is listed. A worker that is quick enough calls the handler in between, which
then finds no object. Afterwards the key gets another call exactly if it was still due when the list
was completed, or is added again later.
-/
namespace RoleOperator.Dispatcher

variable {d d' : Dispatcher} {news : List Happening} {actions : List Action} {k : String}

/-! ## When a call comes -/

theorem run_isDown (r : d.run actions = some d') (up : d'.queue.isDown = false) :
    d.queue.isDown = false := by
  induction actions generalizing d with
  | nil =>
    cases r
    exact up
  | cons a rest ih =>
    obtain ⟨m, hs, hr⟩ := run_cons r
    exact (change_of_step hs).isDown (ih hr)

/-- A key that is due, or becomes so by being added, is due at the end or has had its call. -/
theorem run_due (r : d.run actions = some d') (up : d'.queue.isDown = false)
    (parses : (ObjectKey.parse? k).isSome)
    (h : d.Due k ∨ ∃ x ∈ d.history actions, Adds k x) :
    d'.Due k ∨ .started k ∈ d.history actions := by
  induction actions generalizing d with
  | nil =>
    cases r
    refine Or.inl (h.resolve_right ?_)
    rintro ⟨x, hx, _⟩
    cases hx
  | cons a rest ih =>
    obtain ⟨m, hs, hr⟩ := run_cons r
    have c := change_of_step hs
    rw [history_cons hs] at h ⊢
    have later : m.Due k ∨ (∃ x ∈ m.history rest, Adds k x) →
        d'.Due k ∨ .started k ∈ d.happenings a ++ m.history rest := fun hm =>
      (ih hr hm).imp_right (List.mem_append_right _)
    rcases h with hd | ⟨x, hx, hk⟩
    · rcases c.due parses hd with hm | hstart
      · exact later (Or.inl hm)
      · exact Or.inr (List.mem_append_left _ hstart)
    · rcases List.mem_append.1 hx with hx | hx
      · exact later (Or.inl (c.due_of_added (run_isDown hr up) ⟨x, hx, hk⟩))
      · exact later (Or.inr ⟨x, hx, hk⟩)

/-- Keys become due by being added, and in no other way. -/
theorem Change.due_of_due (c : Change d d' news) (h : d.Coherent) (due : d'.Due k) :
    d.Due k ∨ ∃ x ∈ news, Adds k x := by
  rcases due with hd | hp
  · rcases c.mem_dirty.1 hd with ⟨hd, _⟩ | ⟨hx, _⟩
    · exact Or.inl (Or.inl hd)
    · exact Or.inr hx
  · rcases c.picked_of_picked hp with hp | ht
    · exact Or.inl (Or.inr hp)
    · cases c with
      | take was queue =>
        have he := h.sound.dirty_of_take queue
        exact Or.inl (Or.inl (by simpa [show k = _ by simpa using ht] using he))
      | _ => simp at ht

theorem Change.picked_of_started (c : Change d d' news) (h : .started k ∈ news) :
    (ObjectKey.parse? k).isSome ∧ d.Picked k := by
  cases c with
  | @start i raw key was parsed =>
    have he : k = raw := by simpa using h
    exact ⟨by rw [he, parsed]; rfl, i, he ▸ was⟩
  | _ => simp at h

/-- A call only starts for a key that was due or has been added. -/
theorem due_of_started (h : d.Coherent) (r : d.run actions = some d')
    (started : .started k ∈ d.history actions) :
    (ObjectKey.parse? k).isSome ∧ (d.Due k ∨ ∃ x ∈ d.history actions, Adds k x) := by
  induction actions generalizing d with
  | nil => cases started
  | cons a rest ih =>
    obtain ⟨m, hs, hr⟩ := run_cons r
    have c := change_of_step hs
    rw [history_cons hs] at started ⊢
    rcases List.mem_append.1 started with now | later
    · obtain ⟨parses, hp⟩ := c.picked_of_started now
      exact ⟨parses, Or.inl (Or.inr hp)⟩
    · obtain ⟨parses, hm | ⟨x, hx, hk⟩⟩ := ih (h.change c) hr later
      · refine ⟨parses, (c.due_of_due h hm).imp_right ?_⟩
        rintro ⟨x, hx, hk⟩
        exact ⟨x, List.mem_append_left _ hx, hk⟩
      · exact ⟨parses, Or.inr ⟨x, List.mem_append_right _ hx, hk⟩⟩

/-! ## At rest -/

/-- The dispatcher runs, but there is nothing to do for it. -/
structure AtRest (d : Dispatcher) : Prop where
  up : d.queue.isDown = false
  handled : d.intake ≠ .reporting
  empty : d.queue.waiting = []
  idle : d.queue.processing = []
  quiet : d.retries = []

theorem AtRest.not_due (rest : d.AtRest) (h : d.Coherent) : ¬ d.Due k := by
  rintro (hd | hp)
  · rcases h.sound.placed_of_dirty rest.up k hd with hw | hp
    · rw [rest.empty] at hw
      cases hw
    · rw [rest.idle] at hp
      cases hp
  · have hproc := h.processing_of_picked hp
    rw [rest.idle] at hproc
    cases hproc

/-- On the way to rest a call starts for exactly those keys that are due or added. -/
theorem started_iff_due (h : d.Coherent) (r : d.run actions = some d') (rest : d'.AtRest) :
    .started k ∈ d.history actions ↔
      (ObjectKey.parse? k).isSome ∧ (d.Due k ∨ ∃ x ∈ d.history actions, Adds k x) := by
  constructor
  · exact due_of_started h r
  · rintro ⟨parses, hd⟩
    exact (run_due r rest.up parses hd).resolve_left (rest.not_due (h.run r))

/-! ## Lists -/

/-- The events that a run has taken in. -/
def events (actions : List Action) : List WatchEvent :=
  actions.filterMap fun
    | .event e => some e
    | _ => none

/-- The read cache, which follows each event before the dispatcher does. -/
def cacheAfter (actions : List Action) : ReadCache := (events actions).foldl ReadCache.observe {}

/-- A listed object is always enqueued. -/
theorem adds_of_listed {role : Role} {key : ObjectKey} (named : role.metadata.key? = some key) :
    ∃ x ∈ d.happenings (.event (.initApply role)), Adds key.text x := by
  refine ⟨.added .event key.text, ?_, rfl⟩
  simp [happenings, ChangeFilter.observe, ChangeFilter.accept, named]

/-- That every object of a list gets a handler call when it can be found in the read cache: the
handlers succeed, the list is complete, and the dispatcher has come to rest. -/
def ListedAreFound : Prop :=
  ∀ (s : DispatchSettings) (before between after : List Action) (d₀ d₁ d₂ : Dispatcher)
    (role : Role) (key : ObjectKey) (earlier listed : List WatchEvent), 1 ≤ s.workers →
    (ofSettings s).run before = some d₀ →
    d₀.run (.event (.initApply role) :: between) = some d₁ →
    d₁.run (.event .initDone :: after) = some d₂ →
    (∀ i outcome, .finish i outcome ∈ before ++ between ++ after → outcome = .ok) →
    events before = earlier ++ .init :: listed →
    (∀ e ∈ listed ++ events between, ∃ r, e = .initApply r) →
    role.metadata.key? = some key →
    ((cacheAfter (before ++ .event (.initApply role) :: between ++ [.event .initDone])).get?
      key).isSome →
    d₂.AtRest →
    .started key.text ∈ d₁.history (.event .initDone :: after)

/-- A role that is listed while a worker waits. -/
def reader : Role where
  metadata := { name := some "reader", ns := some "demo", generation := some 1 }
  spec := .gcp { secretType := "access_token", project := "ackube", bindings := "" }

/-- The only worker is faster than the list: its call is over before the list is complete. -/
theorem listed_not_found : ¬ ListedAreFound := by
  intro h
  have started := h { workers := 1 } [.event .init]
    [.reportIntake, .listen 0, .look 0, .report 0, .finish 0 .ok, .release 0] [] _ _ _ reader
    ⟨some "demo", "reader"⟩ [] [] (by decide) rfl rfl rfl (by simp) rfl (by simp [events]) rfl rfl
    ⟨rfl, by decide, rfl, rfl, rfl⟩
  revert started
  decide

/-- After the end of a list, on the way to rest, a listed object gets a call exactly if its key was
still due at the end of the list or was added after it. A call between its listing and rest there is
in any case, unless its key is malformed. -/
theorem listed_found_iff {s : DispatchSettings} {before between after : List Action}
    {d₀ d₁ d₂ : Dispatcher} {role : Role} {key : ObjectKey}
    (r₀ : (ofSettings s).run before = some d₀)
    (r₁ : d₀.run (.event (.initApply role) :: between) = some d₁)
    (r₂ : d₁.run (.event .initDone :: after) = some d₂)
    (named : role.metadata.key? = some key) (rest : d₂.AtRest) :
    (.started key.text ∈ d₁.history (.event .initDone :: after) ↔
      (ObjectKey.parse? key.text).isSome ∧
        (d₁.Due key.text ∨ ∃ x ∈ d₁.history (.event .initDone :: after), Adds key.text x)) ∧
    ((ObjectKey.parse? key.text).isSome →
      .started key.text ∈ d₀.history (.event (.initApply role) :: between) ∨
        .started key.text ∈ d₁.history (.event .initDone :: after)) := by
  have h₀ : d₀.Coherent := (coherent_ofSettings s).run r₀
  have h₁ : d₁.Coherent := h₀.run r₁
  refine ⟨started_iff_due h₁ r₂ rest, fun parses => ?_⟩
  obtain ⟨x, hx, hk⟩ := adds_of_listed (d := d₀) named
  have added : ∃ x ∈ d₀.history (.event (.initApply role) :: between), Adds key.text x := by
    obtain ⟨m, hs, _⟩ := run_cons r₁
    exact ⟨x, history_cons hs between ▸ List.mem_append_left _ hx, hk⟩
  rcases run_due r₁ (run_isDown r₂ rest.up) parses (Or.inr added) with due | early
  · exact Or.inr ((started_iff_due h₁ r₂ rest).2 ⟨parses, Or.inl due⟩)
  · exact Or.inl early

/-- A worker that begins only after the end of the list finds the object. -/
theorem listed_found_late :
    ∃ d₀ d₁ d₂, (ofSettings { workers := 1 }).run [.event .init] = some d₀ ∧
      d₀.run [.event (.initApply reader), .reportIntake] = some d₁ ∧
      d₁.run [.event .initDone, .listen 0, .look 0, .report 0, .finish 0 .ok, .release 0] =
        some d₂ ∧ d₂.AtRest ∧
      .started "demo/reader" ∈ d₁.history
        [.event .initDone, .listen 0, .look 0, .report 0, .finish 0 .ok, .release 0] := by
  refine ⟨_, _, _, rfl, rfl, rfl, ⟨rfl, by decide, rfl, rfl, rfl⟩, ?_⟩
  exact (@listed_found_iff { workers := 1 } [.event .init] [.reportIntake] _ _ _ _ reader
    ⟨some "demo", "reader"⟩ rfl rfl rfl rfl ⟨rfl, by decide, rfl, rfl, rfl⟩).1.2
    ⟨by decide, Or.inl (Or.inl (by decide))⟩

end RoleOperator.Dispatcher
