import RoleOperator.Dispatch.Dispatcher
import RoleOperator.Proofs.Reconcile.Protection

/-!
# Objects that vanish

An object can go at any time while it is reconciled. Then there is nothing left to do, and a reconcile
that finds out before it creates the role ends with success. One that finds out when it reports the
created role in the status passes the fault on, and the key comes back for nothing.
-/
namespace RoleOperator.Reconcile

variable {key : ObjectKey} {v : Role} {xs early ys : List Exchange} {x : Exchange}
  {result : Except Fault Unit}

/-- The exchange shows that the object is gone. -/
inductive Vanishes : Exchange → Prop where
  | uncached (key : ObjectKey) : Vanishes ⟨.cached key, none⟩
  | unfound {x : Exchange} {e : Fault} (fails : Patch.fault? x = some e) (notFound : e.isNotFound) :
      Vanishes x

/-- What the dispatcher learns of a reconcile. -/
def handled : Except Fault Unit → HandlerOutcome
  | .ok _ => .ok
  | .error _ => .failed

/-- A key with requeues left comes back exactly if its reconcile has failed. -/
theorem requeued_handled {d : Dispatcher} {raw : String}
    (budget : d.queue.requeues raw < d.maxRequeues) :
    (d.settle raw (handled result)).requeued = d.requeued ↔ result = .ok () := by
  cases result with
  | ok => simp [handled, Dispatcher.settle]
  | error e =>
    simp only [handled, Dispatcher.settle, if_pos budget, Dispatcher.retry]
    split <;> simp [Dispatcher.enqueue]

theorem isConflict_of_notFound {e : Fault} (notFound : e.isNotFound) : e.isConflict = false := by
  cases e <;> simp_all [Fault.isNotFound, Fault.isConflict]

/-! ## Where an object can vanish -/

theorem not_vanishes (sound : Patch.fault? x = none) (known : ∀ key, x ≠ ⟨.cached key, none⟩) :
    ¬ Vanishes x := by
  intro vanishes
  cases vanishes with
  | uncached key => exact known key rfl
  | unfound fails => simp [sound] at fails

/-- A patch whose object vanishes fails, as the object is not found. -/
theorem Vanishes.patch {target : WriteTarget} {change : Role → Role} {patched : Except Fault Role}
    (vanishes : Vanishes x) (run : (RoleOperator.patch key target change).Yields ys patched)
    (hx : x ∈ ys) : ∃ e, patched = .error e ∧ e.isNotFound := by
  obtain ⟨n, -, tries⟩ := Patch.tries_of_yields run
  cases vanishes with
  | uncached other =>
    rcases (Patch.tried_of_yields run).1 _ hx with read | ⟨w, -, written⟩
    · cases read
    · cases written
  | @unfound _ e fails notFound =>
    rcases tries.conflict_or_last hx fails with conflict | last
    · simp [isConflict_of_notFound notFound] at conflict
    · exact ⟨e, last, notFound⟩

/-- Nothing has vanished before a version to go on with is found. -/
theorem Opens.not_vanishes {held : Option Role} (opens : Opens key early held) (hv : held = some v)
    (hx : x ∈ early) : ¬ Vanishes x := by
  cases opens with
  | absent | departing | finalized => cases hv
  | ready =>
    rw [List.mem_singleton.1 hx]
    exact not_vanishes rfl nofun
  | @taken seen ys got alive free patched =>
    rcases List.mem_cons.1 hx with rfl | hx
    · exact not_vanishes rfl nofun
    · intro vanishes
      obtain ⟨e, rfl, -⟩ := vanishes.patch patched hx
      cases hv

/-- A reconcile that stops early does so with success if the object has vanished. -/
theorem Stops.ok (stops : Stops key early result) (vanishes : Vanishes x) (hx : x ∈ early) :
    result = .ok () := by
  rcases stops with ok | ⟨v, ys, e, rfl, patched, present, rfl⟩
  · exact ok
  · rcases List.mem_cons.1 hx with rfl | hx
    · exact absurd vanishes (not_vanishes rfl nofun)
    · obtain ⟨e', he, notFound⟩ := vanishes.patch patched hx
      cases he
      simp [present] at notFound

/-- A reconcile that goes on and has created the role reports that the object is not found. -/
theorem sync_vanished (run : (sync v key).Yields xs result)
    (bound : ∀ e, ⟨.bind v, .error e⟩ ∉ xs) (created : ∀ e, ⟨.create v, .error e⟩ ∉ xs)
    (vanishes : Vanishes x) (hx : x ∈ xs) :
    ⟨.create v, .ok ()⟩ ∈ xs ∧ ∃ e, result = .error e ∧ e.isNotFound := by
  obtain ⟨begun, report, answer, now, reported, rfl, creation, patched, rfl⟩ := sync_yields run
  cases creation with
  | unbound e => exact absurd (by simp) (bound e)
  | refused e => exact absurd (by simp) (created e)
  | created =>
    have reporting : x ∈ report := by
      rcases List.mem_append.1 hx with before | later
      · rcases List.mem_cons.1 before with rfl | before
        · exact absurd vanishes (not_vanishes rfl nofun)
        · rw [List.mem_singleton.1 before] at vanishes
          exact absurd vanishes (not_vanishes rfl nofun)
      · exact later
    obtain ⟨e, rfl, notFound⟩ := vanishes.patch patched reporting
    exact ⟨by simp, e, rfl, notFound⟩

/-! ## What becomes of it -/

/-- Either the reconcile stops without having created the role, or it reports that the object is gone. -/
theorem vanished_cases (run : (program key).Yields xs result)
    (bound : ∀ role e, ⟨.bind role, .error e⟩ ∉ xs)
    (created : ∀ role e, ⟨.create role, .error e⟩ ∉ xs) (vanishes : Vanishes x) (hx : x ∈ xs) :
    result = .ok () ∧ (∀ role, ⟨.create role, .ok ()⟩ ∉ xs) ∨
      (∃ e, result = .error e ∧ e.isNotFound) ∧ ∃ role, ⟨.create role, .ok ()⟩ ∈ xs := by
  obtain ⟨early, held, rest, rfl, opens, went⟩ := opens_of_yields run
  rcases went with ⟨rfl, rfl, stops⟩ | ⟨v, rfl, synced⟩
  · left
    rw [List.append_nil] at hx ⊢
    exact ⟨stops.ok vanishes hx, fun role made => opens.preliminary _ made⟩
  · right
    have later : x ∈ rest :=
      (List.mem_append.1 hx).resolve_left fun first => opens.not_vanishes rfl first vanishes
    have bound : ∀ e, ⟨.bind v, .error e⟩ ∉ rest :=
      fun e h => bound v e (List.mem_append_right early h)
    have created : ∀ e, ⟨.create v, .error e⟩ ∉ rest :=
      fun e h => created v e (List.mem_append_right early h)
    obtain ⟨made, failed⟩ := sync_vanished synced bound created vanishes later
    exact ⟨failed, v, List.mem_append_right early made⟩

/-- A reconcile during which the object vanishes, and no call to the adapter fails, ends with success
exactly if it has not created the role. Otherwise the object is reported as not found, and the key comes
back if it has requeues left. -/
theorem vanished_ok_iff (run : (program key).Yields xs result)
    (bound : ∀ role e, ⟨.bind role, .error e⟩ ∉ xs)
    (created : ∀ role e, ⟨.create role, .error e⟩ ∉ xs) (vanishes : Vanishes x) (hx : x ∈ xs) :
    (result = .ok () ↔ ∀ role, ⟨.create role, .ok ()⟩ ∉ xs) ∧
      (result = .ok () ∨ ∃ e, result = .error e ∧ e.isNotFound) ∧
      ∀ (d : Dispatcher) raw, d.queue.requeues raw < d.maxRequeues →
        ((d.settle raw (handled result)).requeued = d.requeued ↔
          ∀ role, ⟨.create role, .ok ()⟩ ∉ xs) := by
  have either := vanished_cases run bound created vanishes hx
  have ok_iff : result = .ok () ↔ ∀ role, ⟨.create role, .ok ()⟩ ∉ xs := by
    rcases either with ⟨ok, none⟩ | ⟨⟨e, rfl, -⟩, role, made⟩
    · exact iff_of_true ok none
    · exact iff_of_false (by simp) fun none => none role made
  refine ⟨ok_iff, ?_, fun d raw budget => (requeued_handled budget).trans ok_iff⟩
  rcases either with ⟨ok, -⟩ | ⟨failed, -⟩
  · exact Or.inl ok
  · exact Or.inr failed

/-- The object goes between the look into the cache and the finalizer patch. -/
def departedRun : List Exchange :=
  [⟨.cached auditorKey, some (auditor 1 "read" "1")⟩, ⟨.get auditorKey, .ok none⟩]

theorem departedRun_ok : (program auditorKey).Yields departedRun (.ok ()) ∧
    Vanishes ⟨.get auditorKey, .ok none⟩ ∧ ∀ (d : Dispatcher) raw,
      d.queue.requeues raw < d.maxRequeues →
        (d.settle raw (handled (.ok ()))).requeued = d.requeued := by
  have run : (program auditorKey).Yields departedRun (.ok ()) := by
    repeat apply Program.yields_ask.2
    exact ⟨rfl, rfl⟩
  have vanishes : Vanishes ⟨.get auditorKey, .ok none⟩ := .unfound rfl rfl
  have uncreated : ∀ role answer, ⟨.create role, answer⟩ ∉ departedRun := by
    simp [departedRun]
  have ends := vanished_ok_iff run (by simp [departedRun]) (fun role e => uncreated role (.error e))
    vanishes (by simp [departedRun])
  exact ⟨run, vanishes, fun d raw budget =>
    (ends.2.2 d raw budget).2 fun role => uncreated role (.ok ())⟩

/-- The object carries the finalizer already, and goes while its role is created. -/
def lateRun : List Exchange :=
  [⟨.cached auditorKey, some heldAuditor⟩, ⟨.bind heldAuditor, .ok ()⟩,
    ⟨.create heldAuditor, .ok ()⟩, ⟨.get auditorKey, .ok none⟩]

/-- A reconcile can fail for no other reason than that its object has vanished. -/
theorem lateRun_fails : ¬ ∀ key xs result, (program key).Yields xs result →
    (∀ role e, ⟨.bind role, .error e⟩ ∉ xs) → (∀ role e, ⟨.create role, .error e⟩ ∉ xs) →
    (∀ x ∈ xs, ∀ e, Patch.fault? x = some e → e.isNotFound) → (∃ x ∈ xs, Vanishes x) →
    result = .ok () := by
  intro always
  have run : (program auditorKey).Yields lateRun (.error (.notFound auditorKey.text)) := by
    repeat apply Program.yields_ask.2
    exact ⟨rfl, rfl⟩
  have unfound : ∀ x ∈ lateRun, ∀ e, Patch.fault? x = some e → e.isNotFound := by
    intro x hx e fails
    simp only [lateRun, List.mem_cons, List.not_mem_nil, or_false] at hx
    rcases hx with rfl | rfl | rfl | rfl
    · cases fails
    · cases fails
    · cases fails
    · cases fails
      rfl
  have gone : ∃ x ∈ lateRun, Vanishes x :=
    ⟨⟨.get auditorKey, .ok none⟩, by simp [lateRun], .unfound rfl rfl⟩
  cases always _ _ _ run (by simp [lateRun]) (by simp [lateRun]) unfound gone

end RoleOperator.Reconcile
