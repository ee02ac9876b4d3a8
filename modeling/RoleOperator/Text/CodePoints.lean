/-!
# Tables of code points

A table says something about ranges of code points. It is written as words of hexadecimal numbers:
`41-5A` is a range and `AA` a range of one; a mark and values, separated by commas, may follow.
-/
namespace RoleOperator.Text

/-- The code points from `first` to `last` and what is said about them. -/
structure CodePointRange where
  first : Nat
  last : Nat
  mark : Option Char := none
  values : List Nat := []
  deriving DecidableEq, Repr

/-- Ranges in order, without overlap. -/
structure CodePoints where
  ranges : Array CodePointRange
  deriving Repr

namespace CodePoints

def digitValue? (c : Char) : Option Nat :=
  if c.isDigit then some (c.toNat - 48)
  else if 'A' ≤ c && c ≤ 'F' then some (c.toNat - 55)
  else none

/-- A number and what follows it. -/
def number : Nat → List Char → Nat × List Char
  | n, [] => (n, [])
  | n, c :: rest =>
    match digitValue? c with
    | some d => number (n * 16 + d) rest
    | none => (n, c :: rest)

/-- Numbers between commas; `n` is the one that is being read. -/
def numbers : Nat → List Char → List Nat
  | n, [] => [n]
  | n, c :: rest =>
    match digitValue? c with
    | some d => numbers (n * 16 + d) rest
    | none => n :: numbers 0 rest

/-- The range that a word stands for. -/
def range (word : List Char) : CodePointRange :=
  let (first, rest) := number 0 word
  let (last, rest) := match rest with
    | '-' :: rest => number 0 rest
    | _ => (first, rest)
  match rest with
  | [] => ⟨first, last, none, []⟩
  | [mark] => ⟨first, last, some mark, []⟩
  | mark :: rest => ⟨first, last, some mark, numbers 0 rest⟩

/-- The ranges so far and the letters of a word that has begun, last first. -/
private def addChar (s : Array CodePointRange × List Char) (c : Char) :
    Array CodePointRange × List Char :=
  if c ≠ ' ' && c ≠ '\n' then (s.1, c :: s.2)
  else if s.2.isEmpty then s
  else (s.1.push (range s.2.reverse), [])

/-- The table that a text stands for. -/
def ofText (s : String) : CodePoints :=
  let (ranges, word) := s.foldl addChar (#[], [])
  ⟨if word.isEmpty then ranges else ranges.push (range word.reverse)⟩

/-- Binary search for the range that holds `n`, from `lo` up to `hi`. -/
def search (t : CodePoints) (n : Nat) : Nat → Nat → Nat → Option CodePointRange
  | 0, _, _ => none
  | fuel + 1, lo, hi =>
    if lo < hi then
      let mid := (lo + hi) / 2
      match t.ranges[mid]? with
      | none => none
      | some r =>
        if n < r.first then t.search n fuel lo mid
        else if r.last < n then t.search n fuel (mid + 1) hi
        else some r
    else none

/-- What is said about a character. -/
def find? (t : CodePoints) (c : Char) : Option CodePointRange :=
  t.search c.val.toNat t.ranges.size 0 t.ranges.size

def contains (t : CodePoints) (c : Char) : Bool := (t.find? c).isSome

/-- The first range with a property. -/
def findWhere? (t : CodePoints) (p : CodePointRange → Bool) : Option CodePointRange :=
  t.ranges.find? p

end CodePoints
end RoleOperator.Text
