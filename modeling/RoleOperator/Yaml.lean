import RoleOperator.Json.Writer

/-!
# YAML text

Block style of a value: one entry or item to a line, collections two spaces deeper than their keys,
items of a list as deep as the key of the list. Texts stand without quotes where nobody can mistake
them for anything else.
-/
namespace RoleOperator.Yaml

/-- Texts that mean something else when they stand without quotes. -/
def reserved : List String := [
  "", "~", "null", "Null", "NULL", "y", "Y", "yes", "Yes", "YES", "n", "N", "no", "No", "NO",
  "true", "True", "TRUE", "false", "False", "FALSE", "on", "On", "ON", "off", "Off", "OFF"]

/-- Characters that open something other than a plain text. -/
def isIndicator (c : Char) : Bool := "#,[]\x7b\x7d&*!|>'\"%@\x60?:-".toList.contains c

/-- Texts of these characters alone, at least one of them a digit, could be numbers. -/
def looksNumeric (cs : List Char) : Bool :=
  cs.any Char.isDigit && cs.all fun c => c.isDigit || "+-._eExoabcdfABCDF".toList.contains c

/-- Two characters that end a plain text. -/
def endsPlain : List Char → Bool
  | ':' :: ' ' :: _ | ' ' :: '#' :: _ | [':'] | [' '] => true
  | _ :: rest => endsPlain rest
  | [] => false

/-- Whether a text of one line can stand without quotes. -/
def isPlain (s : String) : Bool :=
  let cs := s.toList
  !reserved.contains s && !cs.head?.any (fun c => isIndicator c || c = ' ') && !looksNumeric cs
    && !endsPlain cs

/-- A text of one line; a quote inside quotes is written twice. -/
def scalar (s : String) : String :=
  if isPlain s then s
  else "'" ++ String.join (s.toList.map fun c => if c = '\'' then "''" else c.toString) ++ "'"

/-- Move a line in; an empty one stays empty. -/
def indent (line : String) : String := if line.isEmpty then line else "  " ++ line

/-- The lines of a text: one, or a block that keeps its line breaks. -/
def textLines (s : String) : List String :=
  match s.splitOn "\n" with
  | [_] | [] => [scalar s]
  | lines => "|-" :: lines.map indent

/-- Put a mark before the first line and the others below it. -/
def hang (mark : String) : List String → List String
  | [] => [mark]
  | line :: rest => (mark ++ " " ++ line) :: rest

/-- Put the lines of a value behind their key. -/
def attach (key : String) (value : Json) (lines : List String) : List String :=
  match value with
  | .object (_ :: _) => (key ++ ":") :: lines.map indent
  | .array (_ :: _) => (key ++ ":") :: lines
  | _ => hang (key ++ ":") lines

mutual

/-- The lines of a value. -/
def lines : Json → List String
  | .string s => textLines s
  | .array [] => ["[]"]
  | .array (x :: xs) => itemLines (x :: xs)
  | .object [] => ["\x7b\x7d"]
  | .object (e :: es) => entryLines (e :: es)
  | j => [j.text]

private def itemLines : List Json → List String
  | [] => []
  | x :: xs =>
    let own := lines x
    hang "-" (own.take 1 ++ (own.drop 1).map indent) ++ itemLines xs

private def entryLines : List (String × Json) → List String
  | [] => []
  | (k, v) :: rest => attach (scalar k) v (lines v) ++ entryLines rest

end

/-- A document. -/
def text (j : Json) : String := String.join ((lines j).map (· ++ "\n"))

end RoleOperator.Yaml
