import RoleOperator.Proofs.Reconcile.Reporting
import RoleOperator.Proofs.Text.Trimming

/-!
# Reasons of failures

A failure that Vault reports has a reason: the errors that the body lists, else the body, else the usual
words for the status. The last two are never blank. Errors are taken as they are, so a body that lists a
single blank one leaves the failure without a reason, in the fault as in the status of the role.
-/
namespace RoleOperator

/-! ## Words for a status -/

theorem statusReasons_not_blank : ∀ entry ∈ statusReasons, ¬ Text.Blank entry.2 := by
  decide +kernel

theorem statusReason_not_blank {status : Nat} {words : String}
    (h : statusReason? status = some words) : ¬ Text.Blank words := by
  obtain ⟨before, after, split, -⟩ := List.lookup_eq_some_iff.1 h
  refine statusReasons_not_blank (status, words) ?_
  rw [split]
  exact List.mem_append_right before List.mem_cons_self

namespace Vault.Client

variable {body : String} {status : Nat}

/-! ## The reason that an answer gives -/

/-- The body lists one error, and that one is blank. -/
def ListsBlankError (body : String) : Prop :=
  ∃ e, Json.decodeText errorList body = .ok [e] ∧ Text.Blank e

/-- The mark between two errors is not blank. -/
theorem blank_intercalate {e : String} {es : List String} :
    Text.Blank ("; ".intercalate (e :: es)) ↔ es = [] ∧ Text.Blank e := by
  cases es with
  | nil => simp
  | cons e' es =>
    have mark : ¬ Text.Blank "; " := by decide
    rw [String.intercalate_cons_cons]
    simp [Text.blank_append, mark]

theorem fallback_not_blank (body : String) (status : Nat) :
    ¬ Text.Blank (if Text.trim body ≠ "" then Text.trim body
      else (statusReason? status).getD "unexpected status") := by
  split
  · next some => exact fun blank => some (Text.trim_eq_empty.2 (Text.blank_trim.1 blank))
  · cases known : statusReason? status with
    | none => decide
    | some words => exact statusReason_not_blank known

theorem blank_errorMessage : Text.Blank (errorMessage body status) ↔ ListsBlankError body := by
  unfold errorMessage ListsBlankError
  dsimp only
  split
  · next e es listed =>
    rw [listed, blank_intercalate]
    constructor
    · rintro ⟨rfl, blank⟩
      exact ⟨e, rfl, blank⟩
    · rintro ⟨_, ⟨⟩, blank⟩
      exact ⟨rfl, blank⟩
  · next unlisted =>
    refine iff_of_false (fallback_not_blank body status) ?_
    rintro ⟨e, listed, -⟩
    exact unlisted e [] listed

/-- That every answer which is no success, a missing path apart, makes a failure with a reason. -/
def ReasonGiven : Prop :=
  ∀ (url : String) (r : Response), r.status < 200 ∨ 300 ≤ r.status → r.status ≠ 404 →
    ∃ message, check url r = .error (.vault r.status message) ∧ ¬ Text.Blank message

def refusal (status : Nat) (errors : String) : Response where
  status := status
  body := ("\x7b\"errors\":[" ++ errors ++ "]\x7d").toList.flatMap String.utf8EncodeChar

/-- A single empty error is taken for the reason, although the status has words of its own. -/
theorem empty_error_reported : ¬ ReasonGiven := by
  intro given
  obtain ⟨message, reported, reason⟩ :=
    given "http://vault:8200/v1/gcp/roleset/reader" (refusal 400 "\"\"") (by decide) (by decide)
  have empty : check "http://vault:8200/v1/gcp/roleset/reader" (refusal 400 "\"\"") =
      .error (.vault 400 "") := rfl
  rw [empty] at reported
  cases reported
  exact reason (List.forall_mem_nil _)

/-- A call that has been answered ends with what the answer means. -/
theorem call_of_answer {m : Type → Type} [Monad m] [LawfulMonad m] {send : Transport m} {c : Client}
    {method : Method} {path : String} {payload : Option Json} {request : Request} {r : Response}
    (prepared : c.prepare method path payload = .ok request)
    (answered : send request = pure (.ok r)) :
    c.call send method path payload = pure (check request.url.text r) := by
  simp only [call, prepared, answered, pure_bind]

/-- An answer that is no success, a missing path apart, makes the call fail with a reason, unless its body
lists one error and that one is blank. A reconcile that fails to create its role so puts the reason into
the only condition of each status that it writes. -/
theorem failure_reason {r : Response} (failed : r.status < 200 ∨ 300 ≤ r.status)
    (there : r.status ≠ 404) :
    ∃ message, (∀ url, check url r = .error (.vault r.status message)) ∧
      (Text.Blank message ↔ ListsBlankError (Text.lossy r.body)) ∧
      (∀ (m : Type → Type) [Monad m] [LawfulMonad m] (send : Transport m) (c : Client) method path
        payload request, c.prepare method path payload = .ok request →
          send request = pure (.ok r) →
          c.call send method path payload = pure (.error (.vault r.status message))) ∧
      ∀ key xs result role, (Reconcile.program key).Yields xs result →
        ⟨.create role, .error (.vault r.status message)⟩ ∈ xs →
        ∀ w answer, ⟨.write w .status, answer⟩ ∈ xs →
          ∃ s c, w.status = some s ∧ s.conditions = [c] ∧
            c.message = some s!"Vault API error ({r.status}): {message}" := by
  have unsuccessful : ¬ (200 ≤ r.status && r.status < 300) := by
    simp only [Bool.and_eq_true, decide_eq_true_eq]
    omega
  have reported : ∀ url, check url r =
      .error (.vault r.status (errorMessage (Text.lossy r.body) r.status)) := by
    intro url
    rw [check, if_neg unsuccessful, if_neg there]
  refine ⟨_, reported, blank_errorMessage, ?_, ?_⟩
  · intro m _ _ send c method path payload request prepared answered
    rw [call_of_answer prepared answered, reported]
  · intro key xs result role run refused w answer written
    obtain ⟨s, now, old, status, report⟩ := Reconcile.reports_of_refused run refused written
    obtain ⟨c, only, reason, -⟩ := report.condition
    exact ⟨s, c, status, only, reason.message⟩

theorem sealed_reason : ∃ message,
    check "http://vault:8200/v1/gcp/roleset/reader" (refusal 503 "\"Vault is sealed\"") =
      .error (.vault 503 message) ∧ ¬ Text.Blank message := by
  obtain ⟨message, reported, reason, -⟩ :=
    failure_reason (r := refusal 503 "\"Vault is sealed\"") (by decide) (by decide)
  refine ⟨message, reported _, fun blank => ?_⟩
  have listed : Json.decodeText errorList (Text.lossy (refusal 503 "\"Vault is sealed\"").body) =
      .ok ["Vault is sealed"] := rfl
  obtain ⟨e, single, empty⟩ := reason.1 blank
  rw [listed] at single
  cases single
  exact absurd empty (by decide)

end Vault.Client
end RoleOperator
