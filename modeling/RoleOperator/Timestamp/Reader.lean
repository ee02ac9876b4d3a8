import RoleOperator.Timestamp
import RoleOperator.Text.Pieces

/-!
# Reading timestamps

The written form with some freedom: white space before any number, one or two digits for months to
seconds, a signed year of any length, `UTC` or an offset of hours and minutes in place of `Z`.
-/
namespace RoleOperator.Timestamp

/-- What can be wrong with a written time. -/
inductive Flaw where
  | outOfRange | impossible | invalid | tooShort | tooLong
  deriving DecidableEq, Repr

def Flaw.message : Flaw → String
  | .outOfRange => "input is out of range"
  | .impossible => "no possible date and time matching input"
  | .invalid => "input contains invalid characters"
  | .tooShort => "premature end of input"
  | .tooLong => "trailing input"

namespace Reader

def skipBlank (cs : List Char) : List Char := cs.dropWhile Text.isBlank

def numeral (ds : List Char) : Nat := ds.foldl (fun acc d => acc * 10 + (d.toNat - 48)) 0

/-- At least one digit and at most `width`; the value must fit in 63 bits. -/
def number (width : Nat) (cs : List Char) : Except Flaw (Nat × List Char) :=
  let ds := (cs.take width).takeWhile Char.isDigit
  if cs.isEmpty then .error .tooShort
  else if ds.isEmpty then .error .invalid
  else if numeral ds ≥ Nat.pow 2 63 then .error .outOfRange
  else .ok (numeral ds, cs.drop ds.length)

/-- A number between `lo` and `hi`, after white space. -/
def part (lo hi : Nat) (cs : List Char) : Except Flaw (Nat × List Char) := do
  let (n, rest) ← number 2 (skipBlank cs)
  if lo ≤ n && n ≤ hi then .ok (n, rest) else .error .outOfRange

/-- Four digits at most, or a sign and any number of them. -/
def year (cs : List Char) : Except Flaw (Int × List Char) := do
  let cs := skipBlank cs
  let (n, rest) ← match cs with
    | '-' :: r => (number r.length r).map fun p => (-(p.1 : Int), p.2)
    | '+' :: r => (number r.length r).map fun p => ((p.1 : Int), p.2)
    | _ => (number 4 cs).map fun p => ((p.1 : Int), p.2)
  if -2147483648 ≤ n ∧ n ≤ 2147483647 then .ok (n, rest) else .error .outOfRange

/-- The separator `c`, after white space. -/
def literal (c : Char) (cs : List Char) : Except Flaw (List Char) :=
  match skipBlank cs with
  | [] => .error .tooShort
  | x :: rest => if x = c then .ok rest else .error .invalid

/-- The fraction of a second in nanoseconds; digits after the ninth are skipped. -/
def fraction (cs : List Char) : Except Flaw (Nat × List Char) :=
  match cs with
  | '.' :: r => do
    let (n, rest) ← number 9 r
    let taken := r.length - rest.length
    .ok (n * Nat.pow 10 (9 - taken), rest.dropWhile Char.isDigit)
  | _ => .ok (0, cs)

/-- The bytes of the text that are still unread. -/
def bytes (cs : List Char) : Nat := cs.foldl (fun n c => n + c.utf8Size) 0

/-- Two digits. -/
def twoDigits (cs : List Char) : Except Flaw (Nat × List Char) :=
  if bytes cs < 2 then .error .tooShort
  else
    match cs with
    | a :: b :: rest =>
      if a.isDigit && b.isDigit then .ok (numeral [a, b], rest) else .error .invalid
    | _ => .error .invalid

/-- Seconds east of UTC. -/
def offset (cs : List Char) : Except Flaw (Int × List Char) := do
  match cs with
  | 'Z' :: rest | 'z' :: rest => .ok (0, rest)
  | u :: t :: c :: rest =>
    if u.toUpper = 'U' && t.toUpper = 'T' && c.toUpper = 'C' then .ok (0, rest) else signed cs
  | _ => signed cs
where
  signed (cs : List Char) : Except Flaw (Int × List Char) := do
    let (negative, cs) ← match cs with
      | '+' :: r => .ok (false, r)
      | '-' :: r => .ok (true, r)
      | '\u2212' :: r => .ok (true, r)
      | [] => .error .tooShort
      | _ => .error .invalid
    let (hours, cs) ← twoDigits cs
    let cs := cs.dropWhile fun c => c = ':' || Text.isBlank c
    let (minutes, rest) ← twoDigits cs
    if minutes ≥ 60 then .error .outOfRange
    else
      let seconds : Int := hours * 3600 + minutes * 60
      .ok (if negative then -seconds else seconds, rest)

end Reader

/-- Years that a timestamp can have. -/
def minYear : Int := -262143
def maxYear : Int := 262142

open Reader in
/-- The instant that a text denotes. -/
def read (s : String) : Except Flaw Timestamp := do
  let (y, cs) ← year s.toList
  let cs ← literal '-' cs
  let (month, cs) ← part 1 12 cs
  let cs ← literal '-' cs
  let (day, cs) ← part 1 31 cs
  let cs ← match cs with
    | 'T' :: r | 't' :: r | ' ' :: r => .ok r
    | [] => .error .tooShort
    | _ => .error .invalid
  let (hour, cs) ← part 0 23 cs
  let cs ← literal ':' cs
  let (minute, cs) ← part 0 59 cs
  let cs ← literal ':' cs
  let (second, cs) ← part 0 60 cs
  let (nanos, cs) ← fraction cs
  let (east, cs) ← offset (skipBlank cs)
  if !(skipBlank cs).isEmpty then .error .tooLong
  let date : Calendar.Date := ⟨y, month, day⟩
  if y < minYear || y > maxYear || !date.isValid || east.natAbs ≥ 86400 then .error .outOfRange
  let isLeap := second = 60
  let clock : Int := hour * 3600 + minute * 60 + (if isLeap then 59 else second)
  let seconds := date.days * 86400 + clock - east
  let inRange :=
    (Calendar.Date.mk minYear 1 1).days * 86400 ≤ seconds
      && seconds < (Calendar.Date.mk (maxYear + 1) 1 1).days * 86400
  if inRange then .ok ⟨seconds, if isLeap then nanos + 1000000000 else nanos⟩
  else .error .impossible

end RoleOperator.Timestamp
