import RoleOperator.Hostname.Ascii
import RoleOperator.Text.Percent
import RoleOperator.Url.IpAddress

/-!
# Hosts

Who a web address leads to: a name, or an internet address. In schemes that know hosts a name is
brought into its ASCII form; in others it is any text.
-/
namespace RoleOperator.Url

/-- An address in brackets. -/
def bracketed? (cs : List Char) : Option String :=
  if cs.length > 1 && cs.getLast? = some ']' then
    (ipv6? (cs.drop 1).dropLast).map fun groups => "[" ++ ipv6Text groups ++ "]"
  else none

/-- The host in normal form, in a scheme that knows hosts. -/
def readHost? (cs : List Char) : Option String :=
  if cs.head? = some '[' then bracketed? cs
  else do
    let name ← Hostname.toAscii? (← Text.percentDecoded? cs).toList
    if name.isEmpty then none
    else if endsInNumber name then (ipv4? name).map ipv4Text
    else some (String.ofList name)

/-- Characters that not even a host in an unknown scheme has. -/
def isForbidden (c : Char) : Bool :=
  ['\x00', '\t', '\n', '\r', ' ', '#', '/', ':', '<', '>', '?', '@', '[', '\\', ']', '^',
    '|'].contains c

/-- The host in normal form, in an unknown scheme. It may be empty. -/
def readOpaqueHost? (cs : List Char) : Option String :=
  if cs.head? = some '[' then bracketed? cs
  else if cs.any isForbidden then none
  else some (Text.percentEncode (fun _ => false) cs)

end RoleOperator.Url
