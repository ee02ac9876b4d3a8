/-!
# Text from bytes

Bytes read as UTF-8. A longest run of bytes that could begin a character but does not complete one
becomes one replacement character, and so does any other byte that has no place.
-/
namespace RoleOperator.Text

def replacement : Char := '\uFFFD'

/-- How many bytes follow a leading byte, and the range of the first of them. -/
def leading? (b : Nat) : Option (Nat × Nat × Nat) :=
  if b < 0x80 then some (0, 0, 0)
  else if 0xC2 ≤ b && b ≤ 0xDF then some (1, 0x80, 0xBF)
  else if b = 0xE0 then some (2, 0xA0, 0xBF)
  else if b = 0xED then some (2, 0x80, 0x9F)
  else if 0xE1 ≤ b && b ≤ 0xEF then some (2, 0x80, 0xBF)
  else if b = 0xF0 then some (3, 0x90, 0xBF)
  else if 0xF1 ≤ b && b ≤ 0xF3 then some (3, 0x80, 0xBF)
  else if b = 0xF4 then some (3, 0x80, 0x8F)
  else none

/-- Bits of the code point in a leading byte with `n` bytes to follow. -/
def leadingBits (b n : Nat) : Nat :=
  if n = 0 then b else if n = 1 then b - 0xC0 else if n = 2 then b - 0xE0 else b - 0xF0

/-- The characters of the bytes. `open?` holds a character that is not complete yet: the bits so
far, the bytes still to come, and the range of the next one. -/
def lossyChars : List UInt8 → Option (Nat × Nat × Nat × Nat) → List Char
  | [], none => []
  | [], some _ => [replacement]
  | b :: rest, none => start b.toNat (fun o => lossyChars rest o)
  | b :: rest, some (bits, more, lo, hi) =>
    let n := b.toNat
    if lo ≤ n && n ≤ hi then
      let bits := bits * 64 + (n - 0x80)
      if more = 1 then Char.ofNat bits :: lossyChars rest none
      else lossyChars rest (some (bits, more - 1, 0x80, 0xBF))
    else replacement :: start n (fun o => lossyChars rest o)
where
  start (n : Nat) (next : Option (Nat × Nat × Nat × Nat) → List Char) : List Char :=
    match leading? n with
    | none => replacement :: next none
    | some (0, _, _) => Char.ofNat n :: next none
    | some (more, lo, hi) => next (some (leadingBits n more, more, lo, hi))

/-- The text of the bytes, with replacement characters where they are no UTF-8. -/
def lossy (bytes : List UInt8) : String := String.ofList (lossyChars bytes none)

end RoleOperator.Text
