import RoleOperator.Text.Pieces

/-!
# Punycode

Text in ASCII letters, digits and hyphens. The ASCII characters come first; behind the last hyphen
follow the others in the order of their code points, each as the number of steps from the one before
it to its place. A number has digits of base 36 that count for less and less, the last of them being
below a threshold that adapts to the numbers so far.
-/
namespace RoleOperator.Hostname.Punycode

/-- Letters stand for the first 26 digits. -/
def digitChar (d : Nat) : Char := Char.ofNat (if d < 26 then 97 + d else 22 + d)

def digitValue? (c : Char) : Option Nat :=
  if 'a' ≤ c && c ≤ 'z' then some (c.toNat - 97)
  else if c.isDigit then some (c.toNat - 22)
  else none

/-- The threshold of the digit at position `k`, which counts in steps of 36. -/
def threshold (k bias : Nat) : Nat :=
  if k ≤ bias then 1 else if bias + 26 ≤ k then 26 else k - bias

/-- Divide until the number is small; the second part counts the divisions in steps of 36. -/
def shrink (n k : Nat) : Nat × Nat :=
  if 455 < n then shrink (n / 35) (k + 36) else (n, k)
termination_by n
decreasing_by exact Nat.div_lt_self (by omega) (by omega)

/-- The bias after the number `delta`, when `size` characters are in place. -/
def adapt (delta size : Nat) (first : Bool) : Nat :=
  let n := if first then delta / 700 else delta / 2
  let (n, k) := shrink (n + n / size) 0
  k + 36 * n / (n + 38)

/-! ## Writing -/

/-- The digits of a number, from position `k` on. -/
def number : Nat → Nat → Nat → Nat → List Char
  | 0, _, _, _ => []
  | fuel + 1, bias, k, n =>
    let t := threshold k bias
    if n < t then [digitChar n]
    else digitChar (t + (n - t) % (36 - t)) :: number fuel bias (k + 36) ((n - t) / (36 - t))

structure Writing where
  text : List Char
  delta : Nat := 0
  bias : Nat := 72
  size : Nat
  deriving Repr

/-- Look at one character of the text while those with code point `n` are put in place. -/
def Writing.step (n basic : Nat) (w : Writing) (c : Char) : Writing :=
  if c.toNat < n then { w with delta := w.delta + 1 }
  else if c.toNat = n then
    ⟨w.text ++ number (w.delta + 1) w.bias 36 w.delta, 0,
      adapt w.delta (w.size + 1) (w.size = basic), w.size + 1⟩
  else w

/-- Put the characters in place, smallest code points first; `from'` is the least that can come. -/
def Writing.run (cs : List Char) (basic : Nat) : Nat → List Nat → Writing → Writing
  | _, [], w => w
  | from', n :: rest, w =>
    let w := { w with delta := w.delta + (n - from') * (w.size + 1) }
    let w := cs.foldl (Writing.step n basic) w
    Writing.run cs basic (n + 1) rest { w with delta := w.delta + 1 }

/-- Put a number into a sorted list that has it at most once. -/
def insert (n : Nat) : List Nat → List Nat
  | [] => [n]
  | m :: rest => if n < m then n :: m :: rest else if n = m then m :: rest else m :: insert n rest

def isAscii (c : Char) : Bool := c.toNat < 128

/-- The text in ASCII. -/
def encode (cs : List Char) : List Char :=
  let basic := cs.filter isAscii
  let others := (cs.filter (!isAscii ·)).foldl (fun ns c => insert c.toNat ns) []
  let start : Writing :=
    { text := if basic.isEmpty then [] else basic ++ ['-'], size := basic.length }
  (Writing.run cs basic.length 128 others start).text

/-! ## Reading -/

/-- A number added to `sum`, each digit weighed, and what follows it. -/
def readNumber? (bias : Nat) : Nat → Nat → Nat → List Char → Option (Nat × List Char)
  | _, _, _, [] => none
  | k, weight, sum, c :: rest => do
    let d ← digitValue? c
    let t := threshold k bias
    if d < t then some (sum + d * weight, rest)
    else readNumber? bias (k + 36) (weight * (36 - t)) (sum + d * weight) rest

/-- Put the characters in place; `n` is the last code point and `i` the place behind it. -/
def read? : Nat → Nat → Nat → Nat → List Char → List Char → Option (List Char)
  | _, _, _, _, out, [] => some out
  | 0, _, _, _, _, _ => none
  | fuel + 1, bias, n, i, out, cs => do
    let (sum, rest) ← readNumber? bias 36 1 i cs
    let size := out.length + 1
    let n := n + sum / size
    let place := sum % size
    if n.isValidChar then
      read? fuel (adapt (sum - i) size (i = 0)) n (place + 1)
        (out.take place ++ Char.ofNat n :: out.drop place) rest
    else none

/-- The text that stands behind some ASCII, if there is one. A hyphen has something before it. -/
def decode? (cs : List Char) : Option (List Char) :=
  let (basic, behind) := Text.cutLast '-' cs
  if cs.all isAscii && basic ≠ some [] then read? cs.length 72 128 0 (basic.getD []) behind
  else none

end RoleOperator.Hostname.Punycode
