import RoleOperator.Json.Cursor
import RoleOperator.Text.Quoted
import RoleOperator.Timestamp.Reader

/-!
# Flaws of values

What can be wrong with a value that is no mistake in its text, and the words for it.
-/
namespace RoleOperator.Json

/-- What stands in place of the wanted value. -/
inductive Found where
  | null
  | bool (value : Bool)
  | number (value : Number)
  | string (value : String)
  | sequence
  | map
  deriving DecidableEq, Repr

def found : Json → Found
  | .null => .null
  | .bool b => .bool b
  | .number n => .number n
  | .string s => .string s
  | .array _ => .sequence
  | .object _ => .map

def Found.message : Found → String
  | .null => "null"
  | .bool b => s!"boolean \x60{b}\x60"
  | .number (.int n) => s!"integer \x60{n}\x60"
  | .number (.float bits) => s!"floating point \x60{Number.floatText bits}\x60"
  | .string s => "string " ++ Text.quoted s
  | .sequence => "sequence"
  | .map => "map"

/-- What can be wrong with a value. -/
inductive DecodeFlaw where
  | wrongType (found : Found) (expected : String)
  | wrongValue (found : Found) (expected : String)
  | notVariant (found : Found)
  | unknownVariant (name : String) (choices : List String)
  | tooFewItems (count : Nat) (expected : String)
  | tooManyItems (count : Nat)
  | missingField (name : String)
  | duplicateField (name : String)
  | badTime (flaw : Timestamp.Flaw)
  deriving DecidableEq, Repr

/-- Names in back quotes, as a choice. -/
def oneOf : List String → String
  | [] => "there are no variants"
  | [a] => s!"\x60{a}\x60"
  | [a, b] => s!"\x60{a}\x60 or \x60{b}\x60"
  | names => "one of " ++ ", ".intercalate (names.map fun n => s!"\x60{n}\x60")

def DecodeFlaw.message : DecodeFlaw → String
  | .wrongType found expected => s!"invalid type: {found.message}, expected {expected}"
  | .wrongValue found expected => s!"invalid value: {found.message}, expected {expected}"
  | .notVariant found => s!"invalid type: {found.message}, expected string or map"
  | .unknownVariant name choices => s!"unknown variant \x60{name}\x60, expected {oneOf choices}"
  | .tooFewItems count expected => s!"invalid length {count}, expected {expected}"
  | .tooManyItems count => s!"invalid length {count}, expected fewer elements in array"
  | .missingField name => s!"missing field \x60{name}\x60"
  | .duplicateField name => s!"duplicate field \x60{name}\x60"
  | .badTime flaw => flaw.message

/-- What can be wrong with a document: its text, or what it says. -/
inductive TextFlaw where
  | reading (flaw : Flaw)
  | decoding (flaw : DecodeFlaw)
  deriving DecidableEq, Repr

def TextFlaw.message : TextFlaw → String
  | .reading f => f.message
  | .decoding f => f.message

structure TextError where
  flaw : TextFlaw
  position : Position
  deriving DecidableEq, Repr

def TextError.message (e : TextError) : String := atPosition e.flaw.message e.position

end RoleOperator.Json
