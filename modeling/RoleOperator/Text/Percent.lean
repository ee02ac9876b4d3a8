/-!
# Percent-encoding

Bytes of a text written as a percent sign and two hexadecimal digits, where the text could be
mistaken for something else.
-/
namespace RoleOperator.Text

def hexDigit (n : Nat) : Char := (Nat.digitChar n).toUpper

def percentByte (b : UInt8) : String :=
  String.ofList ['%', hexDigit (b.toNat / 16), hexDigit (b.toNat % 16)]

/-- All bytes of a character, encoded. -/
def percentChar (c : Char) : String := String.join (c.toString.toUTF8.toList.map percentByte)

/-- Encode the characters that must be, and in any case those outside printable ASCII. -/
def percentEncode (mustEncode : Char → Bool) (cs : List Char) : String :=
  String.join <| cs.map fun c =>
    if c.val > 0x7E || c.val < 0x20 || mustEncode c then percentChar c else c.toString

def hexValue? (b : UInt8) : Option UInt8 :=
  if 48 ≤ b && b ≤ 57 then some (b - 48)
  else if 65 ≤ b && b ≤ 70 then some (b - 55)
  else if 97 ≤ b && b ≤ 102 then some (b - 87)
  else none

/-- The bytes of a text in which encoded ones are written out. -/
def percentDecode : List UInt8 → List UInt8
  | 37 :: a :: b :: rest =>
    match hexValue? a, hexValue? b with
    | some x, some y => (x * 16 + y) :: percentDecode rest
    | _, _ => 37 :: percentDecode (a :: b :: rest)
  | b :: rest => b :: percentDecode rest
  | [] => []

/-- The text in which encoded bytes are written out, if it is one. -/
def percentDecoded? (cs : List Char) : Option String :=
  String.fromUTF8? ⟨(percentDecode (String.ofList cs).toUTF8.toList).toArray⟩

/-- Characters that a form field shows as they are. -/
def isFormChar (c : Char) : Bool :=
  c.isAlphanum || c = '*' || c = '-' || c = '.' || c = '_'

/-- Text as part of a form: a space becomes a plus sign. -/
def formEncode (s : String) : String :=
  String.join <| s.toList.map fun c =>
    if c = ' ' then "+" else if isFormChar c then c.toString else percentChar c

/-- Pairs as they follow a question mark, each introduced by an ampersand. -/
def formPairs (pairs : List (String × String)) : String :=
  String.join (pairs.map fun p => "&" ++ formEncode p.1 ++ "=" ++ formEncode p.2)

end RoleOperator.Text
