import RoleOperator.Dispatch.Dispatcher
import RoleOperator.Proofs.Finalization.Timing
import RoleOperator.Proofs.Settings.Numerals

/-!
# Settings from an environment

Each setting is read from a variable of its own. For any environment that leaves a dispatcher with
workers, and a finalization whose rounds come a second apart at least, so that there are no more of them
than the timeout has seconds. But a timeout can be read that is too long for the clock, and then no
finalization gets as far as its first round.
-/
namespace RoleOperator.Settings

variable {lookup lookup' : String → Option String} {name raw : String} {bits fallback n : Nat}

/-! ## Numbers -/

theorem number_of_denotes (set : lookup name = some raw) (h : Denotes raw n) (fits : n < 2 ^ bits) :
    number lookup name bits fallback = n := by
  rw [number, set, Option.bind_some, numeral?_trim_eq_some_iff.2 ⟨h, fits⟩, Option.getD_some]

theorem number_of_not_denotes
    (unfit : ∀ raw n, lookup name = some raw → Denotes raw n → 2 ^ bits ≤ n) :
    number lookup name bits fallback = fallback := by
  have unread : ((lookup name).bind fun raw => numeral? bits (Text.trim raw)) = none := by
    rw [Option.eq_none_iff_forall_ne_some]
    intro n read
    obtain ⟨raw, set, read⟩ := Option.bind_eq_some_iff.1 read
    obtain ⟨h, fits⟩ := numeral?_trim_eq_some_iff.1 read
    exact absurd fits (Nat.not_lt.2 (unfit raw n set h))
  rw [number, unread, Option.getD_none]

theorem number_congr (same : lookup' name = lookup name) :
    number lookup' name bits fallback = number lookup name bits fallback := by
  rw [number, same, number]

theorem number_lt (fits : fallback < 2 ^ bits) : number lookup name bits fallback < 2 ^ bits := by
  rw [number]
  cases read : (lookup name).bind fun raw => numeral? bits (Text.trim raw) with
  | none => exact fits
  | some n =>
    obtain ⟨raw, -, read⟩ := Option.bind_eq_some_iff.1 read
    exact (numeral?_trim_eq_some_iff.1 read).2

theorem nanos_ofSeconds (fits : n < 2 ^ 64) : (Duration.ofSeconds n).nanos = n * 1000000000 := by
  refine Nat.min_eq_left ?_
  have : Duration.maxNanos = (2 ^ 64 - 1) * 1000000000 + 999999999 := rfl
  omega

theorem nanos_ofMillis (fits : n < 2 ^ 64) : (Duration.ofMillis n).nanos = n * 1000000 := by
  refine Nat.min_eq_left ?_
  have : Duration.maxNanos = (2 ^ 64 - 1) * 1000000000 + 999999999 := rfl
  omega

theorem timeout_ofLookup (lookup : String → Option String) :
    (ofLookup lookup).finalization.timeout.nanos =
      number lookup "FINALIZER_TIMEOUT_SECS" 64 30 * 1000000000 := by
  have span : (ofLookup lookup).finalization.timeout =
      .ofSeconds (number lookup "FINALIZER_TIMEOUT_SECS" 64 30) := rfl
  rw [span, nanos_ofSeconds (number_lt (by decide))]

theorem interval_ofLookup (lookup : String → Option String) :
    (ofLookup lookup).finalization.interval.nanos =
      max (number lookup "FINALIZER_INTERVAL_SECS" 64 5) 1 * 1000000000 := by
  have span : (ofLookup lookup).finalization.interval =
      .ofSeconds (max (number lookup "FINALIZER_INTERVAL_SECS" 64 5) 1) := rfl
  rw [span, nanos_ofSeconds (Nat.max_lt.2 ⟨number_lt (by decide), by decide⟩)]

/-! ## The settings that are numbers -/

inductive Numeric where
  | workers
  | maxRequeues
  | baseDelay
  | maxDelay
  | timeout
  | interval
  | shutdownGrace
  | metricsPort
  deriving DecidableEq

namespace Numeric

/-- The variable that the setting is read from. -/
def source : Numeric → String
  | workers => "WORKERS"
  | maxRequeues => "MAX_REQUEUES"
  | baseDelay => "REQUEUE_BASE_DELAY_MS"
  | maxDelay => "REQUEUE_MAX_DELAY_SECS"
  | timeout => "FINALIZER_TIMEOUT_SECS"
  | interval => "FINALIZER_INTERVAL_SECS"
  | shutdownGrace => "SHUTDOWN_GRACE_SECS"
  | metricsPort => "METRICS_PORT"

/-- How many bits the number may have. -/
def width : Numeric → Nat
  | maxRequeues => 32
  | metricsPort => 16
  | workers | baseDelay | maxDelay | timeout | interval | shutdownGrace => 64

def default : Numeric → Nat
  | workers => 2
  | maxRequeues => 5
  | baseDelay => 5
  | maxDelay => 1000
  | timeout => 30
  | interval => 5
  | shutdownGrace => 30
  | metricsPort => 8080

/-- Smaller numbers are raised to this one. -/
def least : Numeric → Nat
  | workers | interval => 1
  | maxRequeues | baseDelay | maxDelay | timeout | shutdownGrace | metricsPort => 0

/-- What the number counts, spans of time being in nanoseconds. -/
def unit : Numeric → Nat
  | workers | maxRequeues | metricsPort => 1
  | baseDelay => 1000000
  | maxDelay | timeout | interval | shutdownGrace => 1000000000

def value (s : Settings) : Numeric → Nat
  | workers => s.dispatch.workers
  | maxRequeues => s.dispatch.maxRequeues
  | baseDelay => s.dispatch.baseDelay.nanos
  | maxDelay => s.dispatch.maxDelay.nanos
  | timeout => s.finalization.timeout.nanos
  | interval => s.finalization.interval.nanos
  | shutdownGrace => s.shutdownGrace.nanos
  | metricsPort => s.metricsPort

variable {x : Numeric}

theorem default_lt (x : Numeric) : x.default < 2 ^ x.width := by cases x <;> decide

theorem least_le_default (x : Numeric) : x.least ≤ x.default := by cases x <;> decide

theorem value_ofLookup (lookup : String → Option String) (x : Numeric) : x.value (ofLookup lookup) =
    max (number lookup x.source x.width x.default) x.least * x.unit := by
  have fits : number lookup x.source x.width x.default < 2 ^ x.width := number_lt x.default_lt
  -- As settings of which no more is known, since unfolding a span would count its nanoseconds.
  obtain ⟨s, hs⟩ : ∃ s, s = ofLookup lookup := ⟨_, rfl⟩
  rw [← hs]
  cases x with
  | workers => rw [hs]; exact (Nat.mul_one _).symm
  | maxRequeues | metricsPort => rw [hs, least, Nat.max_zero]; exact (Nat.mul_one _).symm
  | baseDelay =>
    have span : s.dispatch.baseDelay = .ofMillis (number lookup "REQUEUE_BASE_DELAY_MS" 64 5) :=
      hs ▸ rfl
    simp only [value, span, source, least, unit, Nat.max_zero]
    exact nanos_ofMillis fits
  | maxDelay =>
    have span : s.dispatch.maxDelay = .ofSeconds (number lookup "REQUEUE_MAX_DELAY_SECS" 64 1000) :=
      hs ▸ rfl
    simp only [value, span, source, least, unit, Nat.max_zero]
    exact nanos_ofSeconds fits
  | timeout =>
    simp only [value, source, least, unit, Nat.max_zero, hs]
    exact timeout_ofLookup lookup
  | interval =>
    simp only [value, source, least, unit, hs]
    exact interval_ofLookup lookup
  | shutdownGrace =>
    have span : s.shutdownGrace = .ofSeconds (number lookup "SHUTDOWN_GRACE_SECS" 64 30) := hs ▸ rfl
    simp only [value, span, source, least, unit, Nat.max_zero]
    exact nanos_ofSeconds fits

/-- The numbers and the two texts make up the settings. -/
theorem settings_ext {s s' : Settings} (same : ∀ x : Numeric, x.value s' = x.value s)
    (vaultAddr : s'.vaultAddr = s.vaultAddr) (vaultToken : s'.vaultToken = s.vaultToken) :
    s' = s := by
  obtain ⟨⟨workers, maxRequeues, ⟨base, _⟩, ⟨top, _⟩⟩, ⟨⟨timeout, _⟩, ⟨interval, _⟩⟩, ⟨grace, _⟩,
    port, addr, token⟩ := s
  obtain ⟨⟨workers', maxRequeues', ⟨base', _⟩, ⟨top', _⟩⟩, ⟨⟨timeout', _⟩, ⟨interval', _⟩⟩,
    ⟨grace', _⟩, port', addr', token'⟩ := s'
  obtain rfl : workers' = workers := same .workers
  obtain rfl : maxRequeues' = maxRequeues := same .maxRequeues
  obtain rfl : base' = base := same .baseDelay
  obtain rfl : top' = top := same .maxDelay
  obtain rfl : timeout' = timeout := same .timeout
  obtain rfl : interval' = interval := same .interval
  obtain rfl : grace' = grace := same .shutdownGrace
  obtain rfl : port' = port := same .metricsPort
  cases vaultAddr
  cases vaultToken
  rfl

theorem source_injective {x y : Numeric} (same : x.source = y.source) : x = y := by
  revert same
  cases x <;> cases y <;> decide

end Numeric

/-! ## What the settings are good for -/

theorem one_le_workers (lookup : String → Option String) :
    1 ≤ (ofLookup lookup).dispatch.workers := Nat.le_max_right _ _

theorem second_le_interval (lookup : String → Option String) :
    1000000000 ≤ (ofLookup lookup).finalization.interval.nanos := by
  rw [interval_ofLookup]
  exact Nat.le_mul_of_pos_left _ (Nat.le_max_right _ 1)

/-- A key that is added finds a worker. -/
theorem worker_takes {s : DispatchSettings} (some : 1 ≤ s.workers) (key : String) :
    ∃ d, (Dispatcher.ofSettings s).run [.add key, .listen 0, .look 0] = .some d ∧
      d.workers[0]? = .some (.reporting key) := by
  obtain ⟨n, hn⟩ := Nat.exists_eq_add_of_le' some
  obtain ⟨workers, maxRequeues, baseDelay, maxDelay⟩ := s
  cases hn
  exact ⟨_, rfl, rfl⟩

end RoleOperator.Settings

namespace RoleOperator.Finalization.Story

variable {settings : FinalizationSettings} {begin : Nat} {role : Role} {key : ObjectKey}
  {registry : Registry} {actions : List Action} {s : Story}

theorem second_le_thirtyYears : 1000000000 ≤ Duration.thirtyYears := by
  unfold Duration.thirtyYears
  omega

/-- Rounds that are a second apart at least are no more than the timeout has seconds. -/
theorem rounds_le_seconds (spaced : 1000000000 ≤ settings.interval.nanos) {seconds : Nat}
    (timeout : settings.timeout.nanos = seconds * 1000000000) :
    settings.timeout.nanos ⌈/⌉ min settings.interval.nanos Duration.thirtyYears ≤ seconds := by
  have gap : 1000000000 ≤ min settings.interval.nanos Duration.thirtyYears :=
    Nat.le_min.2 ⟨spaced, second_le_thirtyYears⟩
  rw [ceilDiv_le_iff_le_mul (by omega), timeout, Nat.mul_comm]
  exact Nat.mul_le_mul_right seconds gap

/-- What a finalization comes to whose interval is a second at least. -/
structure Advances (seconds : Nat) (actions : List Action) (s : Story) : Prop where
  apart : ∀ before r r' after, s.rounds = before ++ r :: r' :: after →
    r.ended + 1000000000 ≤ r'.began
  rounds : s.rounds.length ≤ seconds
  steps : actions.countP own ≤ 26 * seconds + 21
  onward : s.machine.outcome? = none → s.GoesOn

theorem run_advances (spaced : 1000000000 ≤ settings.interval.nanos) {seconds : Nat}
    (timeout : settings.timeout.nanos = seconds * 1000000000)
    (told : run true (opening ((initial settings begin role key).enterLoop begin) begin) actions =
      some s) : Advances seconds actions s := by
  have pos : 0 < settings.interval.nanos := by omega
  have tracked := (stepwise true).keeps (fun h hs => Tracked.step pos h hs) tracked_opening told
  have counted := (stepwise true).countP_le
    (fun h hs => ⟨Tracked.step pos h hs,
      todo_turn h.accounted h.paced pos _ (Nat.le_refl _) (turn_of_step hs)⟩) tracked_opening told
  have few := rounds_le_seconds spaced timeout
  have punctual := tracked.paced.punctual pos
  refine ⟨fun before r r' after he => ?_, Nat.le_trans punctual.few few, ?_,
    tracked.paced.goesOn⟩
  · have years := second_le_thirtyYears
    have began := punctual.spaced before r r' after he
    unfold Duration.endOfWait at began
    omega
  · have begins := todo_opening (f := initial settings begin role key) pos rfl rfl
    refine Nat.le_trans (Nat.le_trans (Nat.le_of_add_right_le counted) begins) ?_
    omega

end RoleOperator.Finalization.Story

namespace RoleOperator.Settings

open Finalization (Story)

/-- Whatever the environment, each setting is the number that its own variable denotes, if that fits,
and its default otherwise, raised to its least value. With these settings there is a worker for the keys
that are added. Every finalization advances to its end if the clock can show when its timeout is over;
if it cannot, none begins. -/
theorem of_any_environment (lookup : String → Option String) :
    (∀ x : Numeric,
      (∀ raw n, lookup x.source = some raw → Denotes raw n → n < 2 ^ x.width →
        x.value (ofLookup lookup) = max n x.least * x.unit) ∧
      ((∀ raw n, lookup x.source = some raw → Denotes raw n → 2 ^ x.width ≤ n) →
        x.value (ofLookup lookup) = x.default * x.unit) ∧
      ∀ lookup', lookup' x.source = lookup x.source →
        x.value (ofLookup lookup') = x.value (ofLookup lookup)) ∧
    (∀ lookup', lookup' "VAULT_ADDR" = lookup "VAULT_ADDR" →
      (ofLookup lookup').vaultAddr = (ofLookup lookup).vaultAddr) ∧
    (∀ lookup', lookup' "VAULT_TOKEN" = lookup "VAULT_TOKEN" →
      (ofLookup lookup').vaultToken = (ofLookup lookup).vaultToken) ∧
    (∀ s, (∀ x : Numeric, x.value s = x.value (ofLookup lookup)) →
      s.vaultAddr = (ofLookup lookup).vaultAddr → s.vaultToken = (ofLookup lookup).vaultToken →
      s = ofLookup lookup) ∧
    (∀ x y : Numeric, x.source = y.source → x = y) ∧
    (∀ x : Numeric, x.source ≠ "VAULT_ADDR" ∧ x.source ≠ "VAULT_TOKEN") ∧
    (∀ key, ∃ d, (Dispatcher.ofSettings (ofLookup lookup).dispatch).run
      [.add key, .listen 0, .look 0] = some d ∧ d.workers[0]? = some (.reporting key)) ∧
    ∃ seconds, (ofLookup lookup).finalization.timeout.nanos = seconds * 1000000000 ∧
      ∀ begin registry role key, role.metadata.key? = some key →
        role.finalizationId ∉ Registry.ids registry →
        (Duration.lastInstant < begin + seconds * 1000000000 →
          (Finalization.launch (ofLookup lookup).finalization begin registry role).1 = none) ∧
        (begin + seconds * 1000000000 ≤ Duration.lastInstant →
          ∃ f, (Finalization.launch (ofLookup lookup).finalization begin registry role).1 =
            some (.ok f) ∧ ∀ actions s, Story.run true (Story.opening f begin) actions = some s →
              Story.Advances seconds actions s) := by
  refine ⟨fun x => ⟨?_, ?_, ?_⟩, ?_, ?_, ?_, ?_, ?_, ?_, ?_⟩
  · intro raw n set h fits
    rw [x.value_ofLookup, number_of_denotes set h fits]
  · intro unfit
    rw [x.value_ofLookup, number_of_not_denotes unfit, Nat.max_eq_left x.least_le_default]
  · intro lookup' same
    rw [x.value_ofLookup, x.value_ofLookup, number_congr same]
  · intro lookup' same
    rw [ofLookup, ofLookup, same]
  · intro lookup' same
    rw [ofLookup, ofLookup, same]
  · exact fun s => Numeric.settings_ext
  · exact fun x y => Numeric.source_injective
  · intro x
    cases x <;> decide
  · exact worker_takes (one_le_workers lookup)
  · refine ⟨_, timeout_ofLookup lookup, fun begin registry role key named free => ?_⟩
    rw [Story.launch_ok named free, timeout_ofLookup]
    refine ⟨fun late => if_neg (Nat.not_le.2 late), fun shown => ?_⟩
    refine ⟨_, if_pos shown, fun actions s told => ?_⟩
    exact Story.run_advances (second_le_interval lookup) (timeout_ofLookup lookup) told

/-- The longest timeout that can be read. -/
def endless : String → Option String
  | "FINALIZER_TIMEOUT_SECS" => some "18446744073709551615"
  | _ => none

/-- The timeout is taken as it is, and no finalization begins. -/
theorem endless_never_begins : ¬ ∀ lookup begin registry role key,
    role.metadata.key? = some key → role.finalizationId ∉ Registry.ids registry →
    ∃ f, (Finalization.launch (ofLookup lookup).finalization begin registry role).1 =
      some (.ok f) := by
  intro always
  have named : Finalization.departing.metadata.key? = some ⟨some "demo", "reader"⟩ := rfl
  have free : Finalization.departing.finalizationId ∉ ({} : Registry).ids := List.not_mem_nil
  have read : number endless "FINALIZER_TIMEOUT_SECS" 64 30 = 18446744073709551615 := by decide
  obtain ⟨f, begins⟩ := always endless 0 {} Finalization.departing _ named free
  rw [Story.launch_ok named free, timeout_ofLookup, read, if_neg (by decide)] at begins
  cases begins

end RoleOperator.Settings
