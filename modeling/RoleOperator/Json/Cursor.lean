import RoleOperator.Json.Basic

/-!
# Places in a text

A cursor holds the unread text and its place, so that whatever is wrong with a document can be shown
at its line and column. Columns count bytes.
-/
namespace RoleOperator.Json

/-- Lines count from one; the column is the number of bytes since the line began. -/
structure Position where
  line : Nat
  column : Nat
  deriving DecidableEq, Repr

def Position.start : Position := ⟨1, 0⟩

def Position.after (p : Position) (c : Char) : Position :=
  if c = '\n' then ⟨p.line + 1, 0⟩ else ⟨p.line, p.column + c.utf8Size⟩

/-- What can be wrong with a text. -/
inductive Flaw where
  | endInList | endInObject | endInString | endInValue
  | expectedColon | expectedListComma | expectedObjectComma | expectedIdent | expectedValue
  | invalidEscape | invalidNumber | numberOutOfRange | controlCharacter | keyNotString
  | loneSurrogate | endOfHexEscape | trailingComma | trailingCharacters | tooDeep
  deriving DecidableEq, Repr

def Flaw.message : Flaw → String
  | .endInList => "EOF while parsing a list"
  | .endInObject => "EOF while parsing an object"
  | .endInString => "EOF while parsing a string"
  | .endInValue => "EOF while parsing a value"
  | .expectedColon => "expected \x60:\x60"
  | .expectedListComma => "expected \x60,\x60 or \x60]\x60"
  | .expectedObjectComma => "expected \x60,\x60 or \x60\x7d\x60"
  | .expectedIdent => "expected ident"
  | .expectedValue => "expected value"
  | .invalidEscape => "invalid escape"
  | .invalidNumber => "invalid number"
  | .numberOutOfRange => "number out of range"
  | .controlCharacter => "control character (\\u0000-\\u001F) found while parsing a string"
  | .keyNotString => "key must be a string"
  | .loneSurrogate => "lone leading surrogate in hex escape"
  | .endOfHexEscape => "unexpected end of hex escape"
  | .trailingComma => "trailing comma"
  | .trailingCharacters => "trailing characters"
  | .tooDeep => "recursion limit exceeded"

structure ReadError where
  flaw : Flaw
  position : Position
  deriving DecidableEq, Repr

/-- A message with the place it belongs to. -/
def atPosition (message : String) (p : Position) : String :=
  s!"{message} at line {p.line} column {p.column}"

def ReadError.message (e : ReadError) : String := atPosition e.flaw.message e.position

/-- The unread text and where it starts. -/
structure Cursor where
  rest : List Char
  position : Position
  deriving Repr

namespace Cursor

def ofString (s : String) : Cursor := ⟨s.toList, .start⟩

def peek (c : Cursor) : Option Char := c.rest.head?

def skip (c : Cursor) : Cursor :=
  match c.rest with
  | [] => c
  | x :: xs => ⟨xs, c.position.after x⟩

/-- Skip `n` characters. -/
def skipN (c : Cursor) : Nat → Cursor
  | 0 => c
  | n + 1 => c.skip.skipN n

/-- The position one byte on, at most the end of the text. -/
def beyond (c : Cursor) : Position :=
  match c.rest with
  | [] => c.position
  | x :: _ =>
    if x = '\n' then ⟨c.position.line + 1, 0⟩ else ⟨c.position.line, c.position.column + 1⟩

/-- Refuse the text at the cursor. -/
def refuse {α : Type} (c : Cursor) (f : Flaw) : Except ReadError α := .error ⟨f, c.position⟩

/-- Refuse the text just behind the next byte. -/
def refuseNext {α : Type} (c : Cursor) (f : Flaw) : Except ReadError α := .error ⟨f, c.beyond⟩

def isSpace (x : Char) : Bool := x = ' ' || x = '\n' || x = '\t' || x = '\r'

def skipSpaces (c : Cursor) : Cursor := go c.rest c.position
where
  go : List Char → Position → Cursor
    | [], p => ⟨[], p⟩
    | x :: xs, p => if isSpace x then go xs (p.after x) else ⟨x :: xs, p⟩

/-- The digits at the cursor and the cursor behind them. -/
def digits (c : Cursor) : List Char × Cursor :=
  let ds := c.rest.takeWhile Char.isDigit
  (ds, ⟨c.rest.drop ds.length, ⟨c.position.line, c.position.column + ds.length⟩⟩)

end Cursor

end RoleOperator.Json
