/-!
# Durations

Spans of time in nanoseconds, up to the largest one that 64-bit seconds can hold. Arithmetic stops
at that bound. The clock shows fewer times than that, and its timer ends very long waits early.
-/
namespace RoleOperator

namespace Duration

/-- The longest duration: all 64 bits of seconds and one nanosecond less than a second. -/
def maxNanos : Nat := (Nat.pow 2 64 - 1) * 1000000000 + 999999999

end Duration

structure Duration where
  nanos : Nat
  nanos_le : nanos ≤ Duration.maxNanos
  deriving DecidableEq

namespace Duration

def ofNanos (n : Nat) : Duration := ⟨min n maxNanos, Nat.min_le_right _ _⟩

def ofMillis (n : Nat) : Duration := ofNanos (n * 1000000)

def ofSeconds (n : Nat) : Duration := ofNanos (n * 1000000000)

def zero : Duration := ofNanos 0

/-- Whole milliseconds. -/
def millis (d : Duration) : Nat := d.nanos / 1000000

def isZero (d : Duration) : Bool := d.nanos = 0

/-- `n` times as long, at most the longest duration. -/
def times (d : Duration) (n : Nat) : Duration := ofNanos (d.nanos * n)

/-- The last time that the clock can show: its seconds are a signed number of 64 bits. -/
def lastInstant : Nat := (Nat.pow 2 63 - 1) * 1000000000 + 999999999

/-- Thirty years of 365 days. -/
def thirtyYears : Nat := 30 * 365 * 24 * 3600 * 1000000000

/-- When a wait of so many nanoseconds that begins at `now` is over, as far as the timer has been
observed: it keeps to the time that it is given, but no wait lasts longer than thirty years. -/
def endOfWait (now nanos : Nat) : Nat := now + min nanos thirtyYears

/-- A timer tells for the beginning of a wait and its length when the wait is over. -/
abbrev Timer := Nat → Nat → Nat

/-- A wait lasts as long as it was asked to. -/
def Timer.Keeps (timer : Timer) (now nanos : Nat) : Prop := timer now nanos = now + nanos

theorem keeps_endOfWait {nanos : Nat} (now : Nat) (short : nanos ≤ thirtyYears) :
    Timer.Keeps endOfWait now nanos := congrArg (now + ·) (Nat.min_eq_left short)

theorem le_endOfWait (now nanos : Nat) : now ≤ endOfWait now nanos := Nat.le_add_right _ _

def min (a b : Duration) : Duration := if a.nanos ≤ b.nanos then a else b

instance : Repr Duration := ⟨fun d _ => repr d.nanos ++ "ns"⟩

end Duration
end RoleOperator
