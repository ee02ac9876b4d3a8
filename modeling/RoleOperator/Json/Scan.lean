import RoleOperator.Json.DecodeFlaw
import RoleOperator.Json.Skip

/-!
# Scanning documents

A document is read and judged in one go: whatever is wrong first, be it the text or what it says,
decides, and what nobody asks for is passed over. A flaw of a single value is shown behind it, an
unwanted bracket in front of it, and a flaw of a list or an object behind its end, if that is next.
-/
namespace RoleOperator.Json

/-- Read a part of a text, so many levels of nesting being allowed: the value it stands for, as far
as anybody asks for it. -/
abbrev Scan := Nat → Cursor → Except TextError (Json × Cursor)

namespace Scan

variable {α : Type}

def reading : Except ReadError α → Except TextError α
  | .ok a => .ok a
  | .error e => .error ⟨.reading e.flaw, e.position⟩

def failAt (c : Cursor) (flaw : DecodeFlaw) : Except TextError α :=
  .error ⟨.decoding flaw, c.position⟩

/-- Refuse the value at the cursor. -/
def unwanted (expected : String) (c : Cursor) : Except TextError α :=
  match c.peek with
  | some '[' => failAt c (.wrongType .sequence expected)
  | some '\x7b' => failAt c (.wrongType .map expected)
  | _ => do
    let (j, c) ← reading (Reader.scalar c)
    failAt c (.wrongType j.found expected)

/-- A value without parts. -/
def single (expected : String) (check : Json → Except DecodeFlaw Unit) : Scan := fun _ c =>
  let c := c.skipSpaces
  match c.peek with
  | some '[' | some '\x7b' => unwanted expected c
  | _ => do
    let (j, c) ← reading (Reader.scalar c)
    match check j with
    | .ok () => .ok (j, c)
    | .error flaw => failAt c flaw

/-- Null, or what the other scan wants. -/
def optional (scan : Scan) : Scan := fun depth c =>
  let c := c.skipSpaces
  if c.peek = some 'n' then reading (Reader.scalar c) else scan depth c

/-- Any value with all its parts; of entries with one key the last is kept. -/
def whole : Scan := fun depth c => do
  let (j, c) ← reading (Reader.whole depth c)
  .ok (j.canonical, c)

/-! ## Lists -/

/-- The items up to the closing bracket. -/
def items (item : Cursor → Except TextError (Json × Cursor)) :
    Nat → Bool → Cursor → Except TextError (List Json × Cursor)
  | 0, _, c => reading (c.refuse .endInList)
  | fuel + 1, first, c => do
    match ← reading (Reader.nextItem first c) with
    | (false, c) => .ok ([], c)
    | (true, c) =>
      let (j, c) ← item c
      let (xs, c) ← items item fuel false c
      .ok (j :: xs, c)

def list (item : Scan) : Scan := fun depth c => do
  let c := c.skipSpaces
  if c.peek = some '[' then
    let c ← reading (Reader.openBracket depth c)
    let (xs, c) ← items (item (depth - 1)) (c.rest.length + 1) true c
    .ok (.array xs, c.skip)
  else unwanted "a sequence" c

/-- Behind a list that should end here. -/
def closeList (c : Cursor) : Except ReadError Cursor :=
  let c := c.skipSpaces
  match c.peek with
  | none => c.refuse .endInList
  | some ']' => .ok c.skip
  | some ',' =>
    let c := c.skip.skipSpaces
    if c.peek = some ']' then c.refuseNext .trailingComma else c.refuseNext .trailingCharacters
  | some _ => c.refuseNext .trailingCharacters

/-- Where a flaw of a list is shown. -/
def listFlawPlace (c : Cursor) : Cursor :=
  let c := c.skipSpaces
  match c.peek with
  | some ']' => c.skip
  | some ',' => c.skip.skipSpaces
  | _ => c

/-! ## Objects -/

/-- The entries up to the closing brace. `part` reads what follows a key, given the entries so far,
and says which entries that adds. -/
def entries
    (part : List (String × Json) → String → Cursor →
      Except TextError (List (String × Json) × Cursor)) :
    Nat → List (String × Json) → Bool → Cursor →
      Except TextError (List (String × Json) × Cursor)
  | 0, _, _, c => reading (c.refuse .endInObject)
  | fuel + 1, found, first, c => do
    match ← reading (Reader.nextKey first c) with
    | (none, c) => .ok (found, c)
    | (some key, c) =>
      let (new, c) ← part found key c
      entries part fuel (found ++ new) false c

/-- An object of parts that are all alike. -/
def map (item : Scan) : Scan := fun depth c => do
  let c := c.skipSpaces
  if c.peek = some '\x7b' then
    let c ← reading (Reader.openBracket depth c)
    let part := fun _ key c => do
      let (j, c) ← item (depth - 1) (← reading (Reader.colon c))
      .ok ([(key, j)], c)
    let (es, c) ← entries part (c.rest.length + 1) [] true c
    .ok (.object es, c.skip)
  else unwanted "a map" c

/-- Where a flaw of an object is shown. -/
def objectFlawPlace (c : Cursor) : Cursor :=
  let c := c.skipSpaces
  if c.peek = some '\x7d' then c.skip else c

/-! ## Names -/

/-- A name, bare or as the only key of an object with the value null. -/
def variant (check : Json → Except DecodeFlaw Unit) : Scan := fun depth c => do
  let c := c.skipSpaces
  match c.peek with
  | some '"' => single "string or map" check depth c
  | some '\x7b' =>
    match ← reading (Reader.nextKey true (← reading (Reader.openBracket depth c))) with
    | (none, c) => reading (c.refuseNext .expectedValue)
    | (some name, c) =>
      match check (.string name) with
      | .error flaw => failAt c flaw
      | .ok () =>
        let (_, c) ← single "unit" nothing depth (← reading (Reader.colon c))
        let c := c.skipSpaces
        match c.peek with
        | some '\x7d' => .ok (.string name, c.skip)
        | some _ => reading (c.refuse .expectedValue)
        | none => reading (c.refuse .endInObject)
  | none => reading (c.refuse .endInValue)
  | some _ => reading (c.refuseNext .expectedValue)
where
  nothing : Json → Except DecodeFlaw Unit
    | .null => .ok ()
    | j => .error (.wrongType j.found "unit")

end Scan
end RoleOperator.Json
