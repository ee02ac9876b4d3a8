import RoleOperator.Json.Reader

/-!
# Passing over JSON text

A part of a document that nobody asks for is passed over without being understood: brackets have to
match, but numbers may have any size, escapes any code and nesting any depth.
-/
namespace RoleOperator.Json.Skip

/-- What a bracket opens. -/
inductive Bracket where
  | list | object
  deriving DecidableEq, Repr

def Bracket.closing : Bracket → Char
  | .list => ']'
  | .object => '\x7d'

def Bracket.unfinished : Bracket → Flaw
  | .list => .endInList
  | .object => .endInObject

def Bracket.expectedComma : Bracket → Flaw
  | .list => .expectedListComma
  | .object => .expectedObjectComma

/-- The rest of a text up to its quote. -/
def string (c : Cursor) : Except ReadError Cursor := go (c.rest.length + 1) c
where
  go : Nat → Cursor → Except ReadError Cursor
    | 0, c => c.refuse .endInString
    | fuel + 1, c =>
      match c.peek with
      | none => c.refuse .endInString
      | some '"' => .ok c.skip
      | some '\\' =>
        match escape c.skip with
        | .ok c => go fuel c
        | .error e => .error e
      | some x => if x.val < 0x20 then c.refuse .controlCharacter else go fuel c.skip
  /-- Any four digits will do behind a `u`. -/
  escape (c : Cursor) : Except ReadError Cursor :=
    match c.peek with
    | none => c.refuse .endInString
    | some 'u' => (Reader.hexEscape c.skip).map (·.2)
    | some x =>
      if ['"', '\\', '/', 'b', 'f', 'n', 'r', 't'].contains x then .ok c.skip
      else c.refuseNext .invalidEscape

/-- At least one digit and all that follow. -/
def someDigits (c : Cursor) : Except ReadError Cursor :=
  let (ds, after) := c.digits
  if ds.isEmpty then c.refuseNext .invalidNumber else .ok after

/-- The exponent of a number, if there is one. -/
def exponent (c : Cursor) : Except ReadError Cursor :=
  match c.peek with
  | some 'e' | some 'E' =>
    let c := c.skip
    match c.peek with
    | some '+' | some '-' => someDigits c.skip
    | _ => someDigits c
  | _ => .ok c

/-- A number without its sign. -/
def number (c : Cursor) : Except ReadError Cursor := do
  let (ds, _) := c.digits
  if ds.head? = some '0' && ds.length > 1 then c.skip.refuseNext .invalidNumber
  else
    let c ← someDigits c
    match c.peek with
    | some '.' => exponent (← someDigits c.skip)
    | _ => exponent c

/-- A value without parts. -/
def scalar (c : Cursor) : Except ReadError Cursor :=
  match c.peek with
  | some '-' => number c.skip
  | some '"' => string c.skip
  | some x => if x.isDigit then number c else (Reader.scalar c).map (·.2)
  | none => c.refuse .endInValue

/-- What has to come next. -/
inductive Due where
  | value | key | first | after
  deriving DecidableEq, Repr

/-- What every part of a list or an object begins with. -/
def Bracket.part : Bracket → Due
  | .list => .value
  | .object => .key

/-- Go on until nothing is open any more. -/
def go : Nat → Due → List Bracket → Cursor → Except ReadError Cursor
  | _, .after, [], c => .ok c
  | 0, _, _, c => c.refuse .endInValue
  | fuel + 1, due, open', c =>
    let c := c.skipSpaces
    match due, open' with
    | .value, _ =>
      match c.peek with
      | some '[' => go fuel .first (.list :: open') c.skip
      | some '\x7b' => go fuel .first (.object :: open') c.skip
      | _ =>
        match scalar c with
        | .ok c => go fuel .after open' c
        | .error e => .error e
    | .key, _ =>
      match c.peek with
      | none => c.refuse .endInObject
      | some '"' =>
        match string c.skip with
        | .error e => .error e
        | .ok c =>
          match Reader.colon c with
          | .ok c => go fuel .value open' c
          | .error e => .error e
      | some _ => c.refuseNext .keyNotString
    | _, [] => .ok c
    | .first, b :: outer =>
      match c.peek with
      | none => c.refuse b.unfinished
      | some x =>
        if x = b.closing then go fuel .after outer c.skip else go fuel b.part (b :: outer) c
    | .after, b :: outer =>
      match c.peek with
      | none => c.refuse b.unfinished
      | some x =>
        if x = ',' then go fuel b.part (b :: outer) c.skip
        else if x = b.closing then go fuel .after outer c.skip
        else c.refuseNext b.expectedComma

/-- Pass over one value. -/
def value (c : Cursor) : Except ReadError Cursor := go (4 * c.rest.length + 4) .value [] c

end RoleOperator.Json.Skip
