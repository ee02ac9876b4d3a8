import RoleOperator.Json.Cursor

/-!
# Reading JSON text

Numbers, strings, names, and what stands between the parts of a list or an object. Nesting stops at
127 levels.
-/
namespace RoleOperator.Json

namespace Reader

/-! ## Numbers -/

def digitValue (c : Char) : Nat := c.toNat - 48

/-- The longest run of digits that keeps the value within 64 bits; the value and the digits left
over. -/
def accumulate : Nat → List Char → Nat × List Char
  | acc, [] => (acc, [])
  | acc, d :: ds =>
    let next := acc * 10 + digitValue d
    if next < Nat.pow 2 64 then accumulate next ds else (acc, d :: ds)

/-- `significand * 10 ^ exponent` by one multiplication or division, after steps of `10 ^ 308` when
the exponent is large; `none` when the value is too large. -/
def scale (f : Float) (exponent : Int) : Nat → Option Float
  | 0 => some f
  | fuel + 1 =>
    if exponent.natAbs ≤ 308 then
      let power := Float.ofScientific 1 false exponent.natAbs
      if 0 ≤ exponent then
        let g := f * power
        if g.isInf then none else some g
      else some (f / power)
    else if f == 0.0 then some f
    else if 0 ≤ exponent then none
    else scale (f / Float.ofScientific 1 false 308) (exponent + 308) fuel

def floatNumber (c : Cursor) (negative : Bool) (significand : Nat) (exponent : Int) :
    Except ReadError (Number × Cursor) :=
  match scale significand.toUInt64.toFloat exponent (exponent.natAbs / 308 + 2) with
  | none => c.refuse .numberOutOfRange
  | some f => .ok (.float (if negative then -f else f).toBits, c)

/-- The part of a number from its exponent mark on. -/
def exponentPart (c : Cursor) (negative : Bool) (significand : Nat) (exponent : Int) :
    Except ReadError (Number × Cursor) :=
  let c := c.skip
  let down := c.peek = some '-'
  let c := if down || c.peek = some '+' then c.skip else c
  match c.peek with
  | none => c.refuse .endInValue
  | some x =>
    if !x.isDigit then c.refuseNext .invalidNumber
    else
      let (ds, after) := c.digits
      match firstTooLarge 0 0 ds with
      | some used =>
        if significand ≠ 0 && !down then (c.skipN used).refuse .numberOutOfRange
        else .ok (.float (if negative then -0.0 else 0.0 : Float).toBits, after)
      | none =>
        let e : Int := ds.foldl (fun acc d => acc * 10 + digitValue d) 0
        floatNumber after negative significand (if down then exponent - e else exponent + e)
where
  /-- How many digits have been taken when the exponent leaves 32 bits. -/
  firstTooLarge (taken acc : Nat) : List Char → Option Nat
    | [] => none
    | d :: ds =>
      let next := acc * 10 + digitValue d
      if next < Nat.pow 2 31 then firstTooLarge (taken + 1) next ds else some (taken + 1)

/-- The part of a number from its decimal point on. -/
def fractionPart (c : Cursor) (negative : Bool) (significand : Nat) (exponent : Int) :
    Except ReadError (Number × Cursor) :=
  let c := c.skip
  let (ds, after) := c.digits
  if ds.isEmpty then
    match c.peek with
    | none => c.refuse .endInValue
    | some _ => c.refuseNext .invalidNumber
  else
    let (value, left) := accumulate significand ds
    let e : Int := exponent - (ds.length - left.length : Nat)
    match after.peek with
    | some 'e' | some 'E' => exponentPart after negative value e
    | _ => floatNumber after negative value e

def number (c : Cursor) (negative : Bool) : Except ReadError (Number × Cursor) :=
  match c.peek with
  | none => c.refuse .endInValue
  | some x =>
    if !x.isDigit then c.refuseNext .invalidNumber
    else
      let (ds, after) := c.digits
      if x = '0' && ds.length > 1 then c.skip.refuseNext .invalidNumber
      else
        let (value, left) := accumulate 0 ds
        match after.peek with
        | some '.' => fractionPart after negative value left.length
        | some 'e' | some 'E' => exponentPart after negative value left.length
        | _ =>
          if !left.isEmpty then floatNumber after negative value left.length
          else if !negative then .ok (.int value, after)
          else if value = 0 || value > Nat.pow 2 63 then
            .ok (.float (-value.toUInt64.toFloat).toBits, after)
          else .ok (.int (-value), after)

/-! ## Strings -/

def hexValue? (c : Char) : Option Nat :=
  if c.isDigit then some (c.toNat - 48)
  else if 'a' ≤ c && c ≤ 'f' then some (c.toNat - 87)
  else if 'A' ≤ c && c ≤ 'F' then some (c.toNat - 55)
  else none

/-- Four bytes are taken before they are looked at, so what they hold is refused behind them. -/
def hexEscape (c : Cursor) : Except ReadError (Nat × Cursor) :=
  let four := takeBytes 4 c.rest
  if four.2 > 0 then .error ⟨.endInString, (c.skipN c.rest.length).position⟩
  else
    let stop := fourBytes c
    match (c.rest.take 4).mapM hexValue? with
    | some [a, b, d, e] => .ok (a * 4096 + b * 256 + d * 16 + e, c.skipN 4)
    | _ => .error ⟨.invalidEscape, stop⟩
where
  /-- Characters needed to cover `n` bytes, and the bytes still missing at the end of the text. -/
  takeBytes : Nat → List Char → Nat × Nat
    | n, [] => (0, n)
    | n, x :: xs =>
      if n = 0 then (0, 0)
      else
        let r := takeBytes (n - x.utf8Size) xs
        (r.1 + 1, r.2)
  /-- The position four bytes on, even inside a character. -/
  fourBytes (c : Cursor) : Position := go 4 c.rest c.position
  go : Nat → List Char → Position → Position
    | 0, _, p => p
    | _, [], p => p
    | n + 1, x :: xs, p =>
      if x.utf8Size ≤ n + 1 then go (n + 1 - x.utf8Size) xs (p.after x)
      else ⟨p.line, p.column + (n + 1)⟩
  termination_by n => n
  decreasing_by
    have := x.utf8Size_pos
    omega

/-- The character behind a backslash and a `u`. A leading surrogate needs its partner. -/
def unicodeEscape (c : Cursor) : Except ReadError (Char × Cursor) := do
  let (n, c) ← hexEscape c
  if 0xDC00 ≤ n && n ≤ 0xDFFF then c.refuse .loneSurrogate
  else if 0xD800 ≤ n && n ≤ 0xDBFF then
    match c.peek with
    | none => c.refuse .endInString
    | some '\\' =>
      let c := c.skip
      match c.peek with
      | none => c.refuse .endInString
      | some 'u' =>
        let (m, c) ← hexEscape c.skip
        if 0xDC00 ≤ m && m ≤ 0xDFFF then
          .ok (Char.ofNat (0x10000 + (n - 0xD800) * 0x400 + (m - 0xDC00)), c)
        else c.refuse .loneSurrogate
      | some _ => c.refuseNext .endOfHexEscape
    | some _ => c.refuseNext .endOfHexEscape
  else .ok (Char.ofNat n, c)

def escaped (c : Cursor) : Except ReadError (Char × Cursor) :=
  match c.peek with
  | none => c.refuse .endInString
  | some '"' => .ok ('"', c.skip)
  | some '\\' => .ok ('\\', c.skip)
  | some '/' => .ok ('/', c.skip)
  | some 'b' => .ok ('\x08', c.skip)
  | some 'f' => .ok ('\x0c', c.skip)
  | some 'n' => .ok ('\n', c.skip)
  | some 'r' => .ok ('\r', c.skip)
  | some 't' => .ok ('\t', c.skip)
  | some 'u' => unicodeEscape c.skip
  | some _ => c.refuseNext .invalidEscape

/-- The text up to the closing quote, the cursor being behind the opening one. -/
def stringBody (c : Cursor) : Except ReadError (String × Cursor) := go (c.rest.length + 1) c ""
where
  go : Nat → Cursor → String → Except ReadError (String × Cursor)
    | 0, c, _ => c.refuse .endInString
    | fuel + 1, c, acc =>
      match c.peek with
      | none => c.refuse .endInString
      | some '"' => .ok (acc, c.skip)
      | some '\\' =>
        match escaped c.skip with
        | .ok (x, c) => go fuel c (acc.push x)
        | .error e => .error e
      | some x =>
        if x.val < 0x20 then c.refuseNext .controlCharacter else go fuel c.skip (acc.push x)

/-! ## Values -/

/-- The rest of one of the three names, letter by letter. -/
def ident (name : List Char) (value : Json) (c : Cursor) : Except ReadError (Json × Cursor) :=
  match name with
  | [] => .ok (value, c)
  | x :: xs =>
    match c.peek with
    | none => c.refuse .endInValue
    | some y => if x = y then ident xs value c.skip else c.refuseNext .expectedIdent

/-- A value without parts, which begins at the cursor. -/
def scalar (c : Cursor) : Except ReadError (Json × Cursor) :=
  match c.peek with
  | none => c.refuse .endInValue
  | some 'n' => ident ['u', 'l', 'l'] .null c.skip
  | some 't' => ident ['r', 'u', 'e'] (.bool true) c.skip
  | some 'f' => ident ['a', 'l', 's', 'e'] (.bool false) c.skip
  | some '-' => (number c.skip true).map fun r => (.number r.1, r.2)
  | some '"' => (stringBody c.skip).map fun r => (.string r.1, r.2)
  | some x =>
    if x.isDigit then (number c false).map fun r => (.number r.1, r.2)
    else c.refuseNext .expectedValue

/-- Behind an opening bracket, as long as another level of nesting is allowed. -/
def openBracket (depth : Nat) (c : Cursor) : Except ReadError Cursor :=
  if depth ≤ 1 then c.refuseNext .tooDeep else .ok c.skip

/-- Whether another item follows; then the cursor is in front of it, else at the bracket. -/
def nextItem (first : Bool) (c : Cursor) : Except ReadError (Bool × Cursor) :=
  let c := c.skipSpaces
  match c.peek with
  | none => c.refuse .endInList
  | some ']' => .ok (false, c)
  | some x =>
    if first then .ok (true, c)
    else if x = ',' then
      let c := c.skip.skipSpaces
      match c.peek with
      | none => c.refuse .endInValue
      | some ']' => c.refuseNext .trailingComma
      | some _ => .ok (true, c)
    else c.refuseNext .expectedListComma

/-- The next key, with the cursor behind it; without one the cursor is at the brace. -/
def nextKey (first : Bool) (c : Cursor) : Except ReadError (Option String × Cursor) :=
  let c := c.skipSpaces
  let key := fun (c : Cursor) => (stringBody c.skip).map fun r => (some r.1, r.2)
  match c.peek with
  | none => c.refuse .endInObject
  | some '\x7d' => .ok (none, c)
  | some x =>
    if first then if x = '"' then key c else c.refuseNext .keyNotString
    else if x = ',' then
      let c := c.skip.skipSpaces
      match c.peek with
      | none => c.refuse .endInValue
      | some '"' => key c
      | some '\x7d' => c.refuseNext .trailingComma
      | some _ => c.refuseNext .keyNotString
    else c.refuseNext .expectedObjectComma

/-- Behind the colon that follows a key. -/
def colon (c : Cursor) : Except ReadError Cursor :=
  let c := c.skipSpaces
  match c.peek with
  | none => c.refuse .endInObject
  | some ':' => .ok c.skip
  | some _ => c.refuseNext .expectedColon

mutual

/-- One value; `depth` levels of nesting are still allowed. -/
def value : Nat → Nat → Cursor → Except ReadError (Json × Cursor)
  | 0, _, c => c.refuse .endInValue
  | fuel + 1, depth, c => do
    let c := c.skipSpaces
    match c.peek with
    | some '[' =>
      let (xs, c) ← listItems fuel (depth - 1) true (← openBracket depth c)
      .ok (.array xs, c.skip)
    | some '\x7b' =>
      let (es, c) ← objectEntries fuel (depth - 1) true (← openBracket depth c)
      .ok (.object es, c.skip)
    | _ => scalar c

/-- The items up to the closing bracket. -/
def listItems : Nat → Nat → Bool → Cursor → Except ReadError (List Json × Cursor)
  | 0, _, _, c => c.refuse .endInList
  | fuel + 1, depth, first, c => do
    match ← nextItem first c with
    | (false, c) => .ok ([], c)
    | (true, c) =>
      let (j, c) ← value fuel depth c
      let (xs, c) ← listItems fuel depth false c
      .ok (j :: xs, c)

/-- The entries up to the closing brace. -/
def objectEntries : Nat → Nat → Bool → Cursor →
    Except ReadError (List (String × Json) × Cursor)
  | 0, _, _, c => c.refuse .endInObject
  | fuel + 1, depth, first, c => do
    match ← nextKey first c with
    | (none, c) => .ok ([], c)
    | (some key, c) =>
      let (j, c) ← value fuel depth (← colon c)
      let (es, c) ← objectEntries fuel depth false c
      .ok ((key, j) :: es, c)

end

/-- A value with all its parts; `depth` levels of nesting are still allowed. -/
def whole (depth : Nat) (c : Cursor) : Except ReadError (Json × Cursor) :=
  value (4 * c.rest.length + 4) depth c

/-- Levels of nesting that a document may have, and one more. -/
def maxDepth : Nat := 128

/-- Nothing but white space may follow. -/
def finish (c : Cursor) : Except ReadError Unit :=
  let c := c.skipSpaces
  match c.peek with
  | none => .ok ()
  | some _ => c.refuseNext .trailingCharacters

end Reader

/-- The value that makes up the whole text. -/
def read (s : String) : Except ReadError Json := do
  let (j, c) ← Reader.whole Reader.maxDepth (.ofString s)
  Reader.finish c
  .ok j

end RoleOperator.Json
