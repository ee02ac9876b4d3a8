import RoleOperator.Hostname.Direction
import RoleOperator.Hostname.Joining
import RoleOperator.Hostname.Mapping
import RoleOperator.Hostname.Punycode
import RoleOperator.Text.Pieces

/-!
# Host names in ASCII

A name is brought into its normal form and checked part by part; a part with other than ASCII
characters is written in punycode, marked by its beginning.
-/
namespace RoleOperator.Hostname

/-- How a part in punycode begins. -/
def punycodeMark : List Char := ['x', 'n', '-', '-']

/-- ASCII characters that no name in an address has. -/
def isForbidden (c : Char) : Bool :=
  c.val ≤ 0x20 || c.val = 0x7F
    || ['%', '#', '/', ':', '<', '>', '?', '@', '[', '\\', ']', '^', '|'].contains c

/-- The most characters that a part may have before it is written in punycode, and behind the
mark. -/
def maxPlain : Nat := 1000

def maxPunycode : Nat := 2000

/-- The text that a part in punycode stands for: nothing but characters in their normal form. -/
def readPunycode? (cs : List Char) : Option (List Char) := do
  if cs.getLast? = some '-' || cs.isEmpty || maxPunycode < cs.length then none
  else
    let text ← Punycode.decode? cs
    if text.all isKept && composed text = text then some text else none

/-- The text of a part. -/
def readLabel? (label : List Char) : Option (List Char) :=
  if punycodeMark.isPrefixOf label then readPunycode? (label.drop 4) else some label

/-- No mark comes first, and joiners stand where they show. -/
def isSound (label : List Char) : Bool :=
  !(label.head?.any isMark) && !label.any isForbidden && joinersShow [] label
    && (label.all Punycode.isAscii || label.length ≤ maxPlain)

def writeLabel (label : List Char) : List Char :=
  if label.all Punycode.isAscii then label else punycodeMark ++ Punycode.encode label

/-- The name in ASCII, if it may be a name. -/
def toAscii? (cs : List Char) : Option (List Char) := do
  let mapped ← cs.mapM mapChar
  let parts ← (Text.pieces (· = '.') (composed mapped.flatten)).mapM readLabel?
  let sound := parts.all isSound
    && (!(parts.any isBidirectional) || parts.all keepsDirection)
  if sound then some (['.'].intercalate (parts.map writeLabel)) else none

end RoleOperator.Hostname
