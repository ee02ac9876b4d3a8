/-!
# Timestamps

Instants in UTC and their written form: date, time of day and a trailing `Z`. A leap second is kept
as the second before it with a thousand million nanoseconds more.
-/
namespace RoleOperator

/-- `seconds` count from the start of 1970; `nanos` stay below two thousand million, and from one
thousand million on they belong to a leap second. -/
structure Timestamp where
  seconds : Int
  nanos : Nat
  deriving DecidableEq, Repr

namespace Calendar

/-- A day of the proleptic Gregorian calendar. -/
structure Date where
  year : Int
  month : Nat
  day : Nat
  deriving DecidableEq, Repr

def isLeap (year : Int) : Bool := year % 4 = 0 && (year % 100 ≠ 0 || year % 400 = 0)

def daysInMonth (year : Int) (month : Nat) : Nat :=
  if month = 2 then (if isLeap year then 29 else 28)
  else if month = 4 || month = 6 || month = 9 || month = 11 then 30
  else 31

def Date.isValid (d : Date) : Bool :=
  1 ≤ d.month && d.month ≤ 12 && 1 ≤ d.day && d.day ≤ daysInMonth d.year d.month

/-- Days since the start of 1970. Years are counted from March, so that the leap day comes last. -/
def Date.days (d : Date) : Int :=
  let y := if d.month ≤ 2 then d.year - 1 else d.year
  let m : Int := ((d.month + 9) % 12 : Nat)
  let era := y / 400
  let yearOfEra := y % 400
  let dayOfYear := (153 * m + 2) / 5 + d.day - 1
  era * 146097 + (yearOfEra * 365 + yearOfEra / 4 - yearOfEra / 100 + dayOfYear) - 719468

/-- The date of a day counted from the start of 1970. -/
def Date.ofDays (days : Int) : Date :=
  let z := days + 719468
  let era := z / 146097
  let dayOfEra := z % 146097
  let yearOfEra := (dayOfEra - dayOfEra / 1460 + dayOfEra / 36524 - dayOfEra / 146096) / 365
  let dayOfYear := dayOfEra - (365 * yearOfEra + yearOfEra / 4 - yearOfEra / 100)
  let m := (5 * dayOfYear + 2) / 153
  let month := if m < 10 then m + 3 else m - 9
  let year := yearOfEra + era * 400
  let day := dayOfYear - (153 * m + 2) / 5 + 1
  ⟨if month ≤ 2 then year + 1 else year, month.toNat, day.toNat⟩

end Calendar

namespace Timestamp

/-- Decimal digits of `n`, filled up with zeros to `width`. -/
def padded (width n : Nat) : String :=
  let ds := Nat.toDigits 10 n
  String.ofList (List.replicate (width - ds.length) '0' ++ ds)

/-- Four digits; a year outside them carries its sign. -/
def yearText (year : Int) : String :=
  if 0 ≤ year ∧ year ≤ 9999 then padded 4 year.toNat
  else (if year < 0 then "-" else "+") ++ padded 4 year.natAbs

/-- Date and time of day down to the second, and the nanoseconds that are left. -/
def wholeText (t : Timestamp) : String × Nat :=
  let date := Calendar.Date.ofDays (t.seconds / 86400)
  let second := (t.seconds % 86400).toNat
  let isLeap := t.nanos ≥ 1000000000
  let ss := second % 60 + (if isLeap then 1 else 0)
  let day := s!"{yearText date.year}-{padded 2 date.month}-{padded 2 date.day}"
  let time := s!"{padded 2 (second / 3600)}:{padded 2 (second / 60 % 60)}:{padded 2 ss}"
  (day ++ "T" ++ time, if isLeap then t.nanos - 1000000000 else t.nanos)

/-- Whole seconds; a fraction is left out. -/
def secondsText (t : Timestamp) : String := t.wholeText.1 ++ "Z"

/-- The fraction has three, six or nine digits, or is left out when it is zero. -/
def fractionText (nanos : Nat) : String :=
  if nanos = 0 then ""
  else if nanos % 1000000 = 0 then "." ++ padded 3 (nanos / 1000000)
  else if nanos % 1000 = 0 then "." ++ padded 6 (nanos / 1000)
  else "." ++ padded 9 nanos

def text (t : Timestamp) : String :=
  let (whole, nanos) := t.wholeText
  whole ++ fractionText nanos ++ "Z"

end Timestamp
end RoleOperator
