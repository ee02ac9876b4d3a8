import RoleOperator.Metadata

/-!
# Schemas

What values of a type look like. Reading a value by a schema checks it and keeps what the type
knows: other entries and nulls are left out, and a field that every value of the type has is
filled in.
-/
namespace RoleOperator

inductive Schema where
  | text
  | flag
  | int32
  | int64
  | textOrInt
  | textMap
  | textLists
  | metadata
  | any
  | list (item : Schema)
  | object (name : String) (fields : List (String × Option Json × Schema))

namespace Schema

/-- A field that may be absent. -/
def opt (name : String) (s : Schema) : String × Option Json × Schema := (name, none, s)

/-- A field that every value has. -/
def always (name : String) (default : Json) (s : Schema) : String × Option Json × Schema :=
  (name, some default, s)

/-- A text that every value has. -/
def name (n : String) : String × Option Json × Schema := always n (.string "") .text

/-- Several fields of one schema that may be absent. -/
def opts (s : Schema) (names : List String) : List (String × Option Json × Schema) :=
  names.map fun n => opt n s

/-- Entries of the fields that are present or always there, in the order of the fields. -/
def arrange (fields : List (String × Option Json × Schema)) (found : List (String × Json)) :
    List (String × Json) :=
  fields.filterMap fun f =>
    match Json.lookup f.1 found with
    | some j => some (f.1, j)
    | none => f.2.1.map fun d => (f.1, d)

/-- A text or a 32-bit number. -/
def readTextOrInt : Json → Except Json.DecodeFlaw Json
  | .string s => .ok (.string s)
  | .number (.int n) =>
    if -2147483648 ≤ n ∧ n ≤ 2147483647 then .ok (Json.ofInt n)
    else Except.error (.wrongValue (.number (.int n)) "a 32-bit integer")
  | j => Except.error (.wrongType j.found "IntOrString")

/-- An object of lists of texts. -/
def readTextLists : Json → Except Json.DecodeFlaw Json
  | .object es =>
    (Json.Decode.entries (Json.Decode.list Json.Decode.string).ofJson es).map fun xs =>
      .object (xs.map fun e => (e.1, Json.ofStrings e.2))
  | j => Except.error (.wrongType j.found "a map")

mutual

/-- Check a value and keep what the schema knows. -/
def read : Schema → Json → Except Json.DecodeFlaw Json
  | .text, j => (Json.Decode.string j).map .string
  | .flag, j => (Json.Decode.bool j).map .bool
  | .int32, j => (Json.Decode.int32 j).map Json.ofInt
  | .int64, j => (Json.Decode.int64 j).map Json.ofInt
  | .textOrInt, j => readTextOrInt j
  | .textMap, j => (Json.Decode.stringMap j).map Json.ofStringMap
  | .textLists, j => readTextLists j
  | .metadata, j => (Json.Decode.metadata j).map Metadata.toJson
  | .any, j => .ok j
  | .list item, .array xs => (readItems item xs).map .array
  | .list _, j => Except.error (.wrongType j.found "a sequence")
  | .object _ fields, .object es =>
    (readEntries fields es).map fun found => .object (arrange fields found)
  | .object name _, j => Except.error (.wrongType j.found name)

def readItems (item : Schema) : List Json → Except Json.DecodeFlaw (List Json)
  | [] => .ok []
  | j :: rest => do
    let x ← read item j
    let xs ← readItems item rest
    .ok (x :: xs)

/-- The entries with a field, read by its schema; nulls count as absent. -/
def readEntries (fields : List (String × Option Json × Schema)) :
    List (String × Json) → Except Json.DecodeFlaw (List (String × Json))
  | [] => .ok []
  | (_, .null) :: rest => readEntries fields rest
  | (k, j) :: rest => do
    let head ← readField fields k j
    let tail ← readEntries fields rest
    .ok (head ++ tail)

def readField : List (String × Option Json × Schema) → String → Json →
    Except Json.DecodeFlaw (List (String × Json))
  | [], _, _ => .ok []
  | (name, _, s) :: rest, k, j =>
    if name = k then (read s j).map fun x => [(k, x)] else readField rest k j

end

end Schema
end RoleOperator
