import RoleOperator.Json.Basic
import RoleOperator.Text.Quoted

/-!
# JSON text

Compact text of a value: no spaces, entries in their order, control characters escaped.
-/
namespace RoleOperator.Json

/-- Two hexadecimal digits of a control character. -/
def controlDigits (n : Nat) : String :=
  String.ofList [Nat.digitChar (n / 16), Nat.digitChar (n % 16)]

def escapeChar (c : Char) : String :=
  if c = '"' then "\\\""
  else if c = '\\' then "\\\\"
  else if c = '\n' then "\\n"
  else if c = '\r' then "\\r"
  else if c = '\t' then "\\t"
  else if c = '\x08' then "\\b"
  else if c = '\x0c' then "\\f"
  else if c.val < 0x20 then "\\u00" ++ controlDigits c.val.toNat
  else c.toString

def stringText (s : String) : String :=
  "\"" ++ s.foldl (fun acc c => acc ++ escapeChar c) "" ++ "\""

mutual

/-- Compact text of the value. -/
def text : Json → String
  | .null => "null"
  | .bool true => "true"
  | .bool false => "false"
  | .number n => n.text
  | .string s => stringText s
  | .array xs => "[" ++ ",".intercalate (itemTexts xs) ++ "]"
  | .object es => "\x7b" ++ ",".intercalate (entryTexts es) ++ "\x7d"

private def itemTexts : List Json → List String
  | [] => []
  | x :: xs => text x :: itemTexts xs

private def entryTexts : List (String × Json) → List String
  | [] => []
  | (k, v) :: rest => (stringText k ++ ":" ++ text v) :: entryTexts rest

end

end RoleOperator.Json
