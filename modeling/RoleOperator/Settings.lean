import RoleOperator.Duration
import RoleOperator.Text.Pieces

/-!
# Settings

What a deployment can tune, read from named variables. A variable that is unset, or whose text is
not a number of the setting's width, leaves the default in place.
-/
namespace RoleOperator

/-- Worker pool and retry policy. -/
structure DispatchSettings where
  workers : Nat := 2
  maxRequeues : Nat := 5
  baseDelay : Duration := .ofMillis 5
  maxDelay : Duration := .ofSeconds 1000
  deriving DecidableEq, Repr

/-- Bounds of one finalization. -/
structure FinalizationSettings where
  timeout : Duration := .ofSeconds 30
  interval : Duration := .ofSeconds 5
  deriving DecidableEq, Repr

structure Settings where
  dispatch : DispatchSettings := {}
  finalization : FinalizationSettings := {}
  shutdownGrace : Duration := .ofSeconds 30
  metricsPort : Nat := 8080
  vaultAddr : String := "http://127.0.0.1:8200"
  vaultToken : String := ""
  deriving DecidableEq, Repr

namespace Settings

/-- The value of decimal digits; `none` for any other text. -/
def digits? : List Char → Option Nat
  | [] => none
  | cs =>
    if cs.all Char.isDigit then some (cs.foldl (fun n c => n * 10 + (c.toNat - 48)) 0) else none

/-- A number of at most `bits` bits, with an optional plus sign. -/
def numeral? (bits : Nat) (s : String) : Option Nat :=
  let cs := match s.toList with
    | '+' :: rest => rest
    | cs => cs
  match digits? cs with
  | some n => if n < Nat.pow 2 bits then some n else none
  | none => none

/-- The number that a variable denotes, white space around it aside, else `default`. -/
def number (lookup : String → Option String) (name : String) (bits default : Nat) : Nat :=
  ((lookup name).bind fun raw => numeral? bits (Text.trim raw)).getD default

/-- There is at least one worker, and a finalization pauses for at least a second. -/
def ofLookup (lookup : String → Option String) : Settings where
  dispatch := {
    workers := max (number lookup "WORKERS" 64 2) 1
    maxRequeues := number lookup "MAX_REQUEUES" 32 5
    baseDelay := .ofMillis (number lookup "REQUEUE_BASE_DELAY_MS" 64 5)
    maxDelay := .ofSeconds (number lookup "REQUEUE_MAX_DELAY_SECS" 64 1000) }
  finalization := {
    timeout := .ofSeconds (number lookup "FINALIZER_TIMEOUT_SECS" 64 30)
    interval := .ofSeconds (max (number lookup "FINALIZER_INTERVAL_SECS" 64 5) 1) }
  shutdownGrace := .ofSeconds (number lookup "SHUTDOWN_GRACE_SECS" 64 30)
  metricsPort := number lookup "METRICS_PORT" 16 8080
  vaultAddr := (lookup "VAULT_ADDR").getD "http://127.0.0.1:8200"
  vaultToken := (lookup "VAULT_TOKEN").getD ""

end Settings
end RoleOperator
