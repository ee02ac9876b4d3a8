import RoleOperator.Json.Scan

/-!
# Decoding JSON values

A decoder turns a value, or a part of a text, into a domain value or says what is wrong. A record is
decoded from an object by visiting its entries in order: the first entry that fails decides, then
the first required field that is missing, in the order of declaration. Entries of other names are
passed over.
-/
namespace RoleOperator.Json

/-- `ofJson` judges a value. `scan` judges a text by the same rules and leaves a value that `ofJson`
accepts. -/
structure Decoder (α : Type) where
  ofJson : Json → Except DecodeFlaw α
  scan : Scan

namespace Decoder

variable {α β : Type}

instance : CoeFun (Decoder α) fun _ => Json → Except DecodeFlaw α := ⟨ofJson⟩

/-- Whether a value can be decoded. -/
def check (d : Decoder α) (j : Json) : Except DecodeFlaw Unit := (d j).map fun _ => ()

def map (f : α → β) (d : Decoder α) : Decoder β := ⟨fun j => (d j).map f, d.scan⟩

end Decoder

namespace Decode

variable {α β : Type}

/-- A value without parts. -/
def single (expected : String) (f : Json → Except DecodeFlaw α) : Decoder α :=
  ⟨f, Scan.single expected fun j => (f j).map fun _ => ()⟩

def string : Decoder String := single "a string" fun
  | .string s => .ok s
  | j => .error (.wrongType j.found "a string")

def bool : Decoder Bool := single "a boolean" fun
  | .bool b => .ok b
  | j => .error (.wrongType j.found "a boolean")

/-- An integer of the named type, between `lo` and `hi`. -/
def integer (name : String) (lo hi : Int) : Decoder Int := single name fun
  | .number (.int n) =>
    if lo ≤ n ∧ n ≤ hi then .ok n else .error (.wrongValue (.number (.int n)) name)
  | j => .error (.wrongType j.found name)

def int64 : Decoder Int := integer "i64" (-9223372036854775808) 9223372036854775807

def int32 : Decoder Int := integer "i32" (-2147483648) 2147483647

def uint16 : Decoder Int := integer "u16" 0 65535

/-- Any value with all its parts, judged when it has been read. -/
def whole (f : Json → Except DecodeFlaw α) : Decoder α := ⟨f, Scan.whole⟩

def any : Decoder Json := whole .ok

/-- Null stands for absence. -/
def optional (d : Decoder α) : Decoder (Option α) where
  ofJson
    | .null => .ok none
    | j => (d j).map some
  scan := Scan.optional d.scan

def list (d : Decoder α) : Decoder (List α) where
  ofJson
    | .array xs => xs.mapM d.ofJson
    | j => .error (.wrongType j.found "a sequence")
  scan := Scan.list d.scan

/-- Keys with their values, in order. -/
def entries (d : Json → Except DecodeFlaw α) (es : List (String × Json)) :
    Except DecodeFlaw (List (String × α)) :=
  es.mapM fun e => (d e.2).map fun x => (e.1, x)

/-- An object of strings, sorted by key, the last of equal keys kept. -/
def stringMap : Decoder (List (String × String)) where
  ofJson
    | .object es => do
      let xs ← entries string.ofJson es
      .ok (xs.foldl (fun acc e => insert e.1 e.2 acc) [])
    | j => .error (.wrongType j.found "a map")
  scan := Scan.map string.scan
where
  insert (k v : String) : List (String × String) → List (String × String)
    | [] => [(k, v)]
    | (l, w) :: rest =>
      if k < l then (k, v) :: (l, w) :: rest
      else if k = l then (k, v) :: rest
      else (l, w) :: insert k v rest

def timestamp : Decoder Timestamp :=
  let expected := "an RFC 3339 formatted date and time string"
  single expected fun
    | .string s => (Timestamp.read s).mapError .badTime
    | j => .error (.wrongType j.found expected)

/-- One of several names, bare or as the only key of an object with the value null. -/
def variant (choices : List (String × α)) : Decoder α where
  ofJson
    | .string s => pick s
    | .object [(k, j)] => do
      let x ← pick k
      match j with
      | .null => .ok x
      | _ => .error (.wrongType j.found "unit")
    | .object _ => .error (.wrongValue .map "map with a single key")
    | j => .error (.notVariant j.found)
  scan := Scan.variant fun
    | .string s => (pick s).map fun _ => ()
    | j => .error (.notVariant j.found)
where
  pick (s : String) : Except DecodeFlaw α :=
    match choices.lookup s with
    | some x => .ok x
    | none => .error (.unknownVariant s (choices.map (·.1)))

/-! ## Records -/

/-- What the absence of a field means. In a list of fields by position only a field with a default
may be left out. -/
inductive Absence where
  | refused | allowed | defaulted
  deriving DecidableEq, Repr

structure Field where
  name : String
  check : Json → Except DecodeFlaw Unit
  scan : Scan
  absence : Absence

/-- The field that a decoder is for. -/
def Field.of (name : String) (d : Decoder α) (absence : Absence) : Field :=
  ⟨name, d.check, d.scan, absence⟩

/-- The fields of a record in the order of declaration, and how the record is put together from
entries that passed the checks. -/
structure Fields (α : Type) where
  fields : List Field
  build : List (String × Json) → Except DecodeFlaw α

namespace Fields

def const (a : α) : Fields α := ⟨[], fun _ => .ok a⟩

def apply (f : Fields (α → β)) (x : Fields α) : Fields β :=
  ⟨f.fields ++ x.fields, fun es => do
    let g ← f.build es
    let a ← x.build es
    .ok (g a)⟩

instance : Functor Fields :=
  ⟨fun f x => apply (const f) x, fun a x => apply (const fun _ => a) x⟩

instance : Pure Fields := ⟨const⟩

instance : Seq Fields := ⟨fun f x => apply f (x ())⟩

def required (name : String) (d : Decoder α) : Fields α :=
  ⟨[.of name d .refused], fun es =>
    match lookup name es with
    | some j => d j
    | none => .error (.missingField name)⟩

/-- Absence and null both mean `none`. -/
def opt (name : String) (d : Decoder α) : Fields (Option α) :=
  ⟨[.of name (optional d) .allowed], fun es =>
    match lookup name es with
    | some j => optional d j
    | none => .ok none⟩

/-- Absence means `default`; null does not. -/
def withDefault (name : String) (d : Decoder α) (default : α) : Fields α :=
  ⟨[.of name d .defaulted], fun es =>
    match lookup name es with
    | some j => d j
    | none => .ok default⟩

/-- Visit the entries; `seen` holds the names of fields met so far. -/
def visit (fields : List Field) (unique : Bool) :
    List String → List (String × Json) → Except DecodeFlaw Unit
  | _, [] => .ok ()
  | seen, (k, j) :: rest =>
    match fields.find? (·.name = k) with
    | none => visit fields unique seen rest
    | some f =>
      if unique && seen.contains k then .error (.duplicateField k)
      else do
        f.check j
        visit fields unique (k :: seen) rest

/-- The first required field without an entry. -/
def missing? (fields : List Field) (es : List (String × Json)) : Option String :=
  (fields.find? fun f => f.absence = .refused && (lookup f.name es).isNone).map (·.name)

def ofEntries (f : Fields α) (unique : Bool) (es : List (String × Json)) :
    Except DecodeFlaw α := do
  visit f.fields unique [] es
  match missing? f.fields es with
  | some name => .error (.missingField name)
  | none => f.build es

/-- Fields by position; the result pairs their names with the items. -/
def byPosition (expected : String) :
    Nat → List Field → List Json → Except DecodeFlaw (List (String × Json))
  | i, [], extra =>
    if extra.isEmpty then .ok [] else .error (.tooManyItems (i + extra.length))
  | i, f :: fs, [] =>
    if f.absence = .defaulted then byPosition expected (i + 1) fs []
    else .error (.tooFewItems i expected)
  | i, f :: fs, j :: rest => do
    f.check j
    let es ← byPosition expected (i + 1) fs rest
    .ok ((f.name, j) :: es)

/-- Fields in an object; `other` passes over what belongs to no field. -/
def scanObject (fields : List Field) (unique : Bool)
    (other : Nat → Cursor → Except TextError Cursor) : Scan := fun depth c => do
  let c ← Scan.reading (Reader.openBracket depth c)
  let part := fun (found : List (String × Json)) key c => do
    match fields.find? (·.name = key) with
    | none => .ok ([], ← other (depth - 1) (← Scan.reading (Reader.colon c)))
    | some f =>
      if unique && (lookup key found).isSome then
        Scan.failAt (Scan.objectFlawPlace c) (.duplicateField key)
      else
        let (j, c) ← f.scan (depth - 1) (← Scan.reading (Reader.colon c))
        .ok ([(key, j)], c)
  let (es, c) ← Scan.entries part (c.rest.length + 1) [] true c
  match missing? fields es with
  | some name => Scan.failAt (Scan.objectFlawPlace c) (.missingField name)
  | none => .ok (.object es, c.skip)

/-- Fields by position, up to the end of the list. -/
def scanItems (expected : String) (depth : Nat) :
    Nat → List Field → Bool → Cursor → Except TextError (List Json × Cursor)
  | _, [], _, c => do .ok ([], ← Scan.reading (Scan.closeList c))
  | i, f :: fs, first, c => do
    match ← Scan.reading (Reader.nextItem first c) with
    | (false, c) =>
      if f.absence = .defaulted then scanItems expected depth (i + 1) fs first c
      else Scan.failAt (Scan.listFlawPlace c) (.tooFewItems i expected)
    | (true, c) =>
      let (j, c) ← f.scan depth c
      let (xs, c) ← scanItems expected depth (i + 1) fs false c
      .ok (j :: xs, c)

/-- Pass over a value without looking at it. -/
def ignore (_ : Nat) (c : Cursor) : Except TextError Cursor := Scan.reading (Skip.value c)

/-- Pass over a value that has to be understood. -/
def discard (depth : Nat) (c : Cursor) : Except TextError Cursor := do
  let (_, c) ← Scan.whole depth c
  .ok c

end Fields

/-- What a record looks like as a list of its fields. -/
def shape (name : String) (size : Nat) : String :=
  s!"struct {name} with {size} element" ++ if size = 1 then "" else "s"

/-- A record from an object, or from an array of its fields in the order of declaration. An object
must not name a field twice. -/
def record (name : String) (f : Fields α) : Decoder α where
  ofJson
    | .object es => f.ofEntries true es
    | .array xs => do
      let es ← Fields.byPosition (shape name f.fields.length) 0 f.fields xs
      f.build es
    | j => .error (.wrongType j.found ("struct " ++ name))
  scan depth c := do
    let c := c.skipSpaces
    match c.peek with
    | some '\x7b' => Fields.scanObject f.fields true Fields.ignore depth c
    | some '[' =>
      let c ← Scan.reading (Reader.openBracket depth c)
      let expected := shape name f.fields.length
      let (xs, c) ← Fields.scanItems expected (depth - 1) 0 f.fields true c
      .ok (.array xs, c)
    | _ => Scan.unwanted ("struct " ++ name) c

/-- A record from an object only, which must not name a field twice. Other entries count as part of
it: they are left out, but have to be understood. -/
def keyedRecord (name : String) (f : Fields α) : Decoder α where
  ofJson
    | .object es => f.ofEntries true es
    | j => .error (.wrongType j.found ("struct " ++ name))
  scan depth c :=
    let c := c.skipSpaces
    if c.peek = some '\x7b' then Fields.scanObject f.fields true Fields.discard depth c
    else Scan.unwanted ("struct " ++ name) c

/-- A record from an object only; of equal names the last one counts. -/
def openRecord (name : String) (f : Fields α) : Decoder α where
  ofJson
    | .object es => f.ofEntries false es
    | j => .error (.wrongType j.found name)
  scan depth c := do
    let c := c.skipSpaces
    match c.peek with
    | some '\x7b' => Fields.scanObject f.fields false Fields.ignore depth c
    | some '[' =>
      let c ← Scan.reading (Reader.openBracket depth c)
      Scan.failAt (Scan.listFlawPlace c) (.wrongType .sequence name)
    | _ => Scan.unwanted name c

end Decode

/-- Decode a document; the text says what is wrong with it. -/
def decodeText {α : Type} (d : Decoder α) (s : String) : Except String α := do
  let scanned : Except TextError Json := do
    let (j, c) ← d.scan Reader.maxDepth (.ofString s)
    Scan.reading (Reader.finish c)
    .ok j
  let j ← scanned.mapError TextError.message
  (d j).mapError DecodeFlaw.message

end RoleOperator.Json
