import RoleOperator.Text.Percent

/-!
# Web addresses

The parts of an address that decide where a request goes, in their normal form: scheme and host in
lower case, the default port left out, dot segments resolved, and characters that an address cannot
hold percent-encoded.
-/
namespace RoleOperator

namespace Url

/-- Whom a request goes to, and as whom. User and password are encoded. -/
structure Authority where
  user : String := ""
  password : String := ""
  host : String := ""
  port : Option Nat := none
  deriving DecidableEq, Repr

def Authority.hasCredentials (a : Authority) : Bool := a.user ≠ "" || a.password ≠ ""

def Authority.text (a : Authority) : String :=
  (if a.hasCredentials then
    a.user ++ (if a.password = "" then "" else ":" ++ a.password) ++ "@" else "")
    ++ a.host ++ match a.port with
      | none => ""
      | some n => s!":{n}"

end Url

/-- An address without an authority may be opaque: its path is then any text. -/
structure Url where
  scheme : String
  authority : Option Url.Authority := none
  path : String
  query : Option String := none
  fragment : Option String := none
  deriving DecidableEq, Repr

namespace Url

/-- The text after a mark, if the mark is there. -/
def suffix (mark : String) : Option String → String
  | none => ""
  | some s => mark ++ s

/-- Path and query: what a request asks for. -/
def target (u : Url) : String := u.path ++ suffix "?" u.query

/-- A path with two slashes in front is kept from looking like an authority. -/
def text (u : Url) : String :=
  u.scheme ++ ":"
    ++ (match u.authority with
      | some a => "//" ++ a.text
      | none => if u.path.startsWith "//" then "/." else "")
    ++ u.target ++ suffix "#" u.fragment

/-- The host, if the address has one. -/
def host? (u : Url) : Option String := (u.authority.map (·.host)).filter (· ≠ "")

/-- Without user and password. They stay if the user is no text, and so does a password that is no
text if there is no user. -/
def withoutCredentials (u : Url) : Url :=
  match u.authority with
  | none => u
  | some a =>
    let isText := fun (s : String) => (Text.percentDecoded? s.toList).isSome
    if isText a.user && (a.user ≠ "" || isText a.password) then
      { u with authority := some { a with user := "", password := "" } }
    else u

end Url
end RoleOperator
