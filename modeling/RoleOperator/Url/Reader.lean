import RoleOperator.Url.Basic
import RoleOperator.Url.Host
import RoleOperator.Url.Path

/-!
# Reading web addresses

Addresses are read leniently, as browsers do: white space around them and line breaks within do not
count, and most characters that should have been encoded are.
-/
namespace RoleOperator.Url

def inFragment (c : Char) : Bool := c = ' ' || c = '"' || c = '<' || c = '>' || c = '\x60'

def inSpecialQuery (c : Char) : Bool := inQuery c || c = '\''

def inUserinfo (c : Char) : Bool :=
  inPath c || c = '/' || c = ':' || c = ';' || c = '=' || c = '@' || c = '[' || c = '\\'
    || c = ']' || c = '^' || c = '|'

/-- The text without the white space that addresses ignore. -/
def clean (s : String) : List Char :=
  let isEnd := fun (c : Char) => c.val ≤ 0x20
  let cs := ((s.toList.dropWhile isEnd).reverse.dropWhile isEnd).reverse
  cs.filter fun c => c ≠ '\t' && c ≠ '\n' && c ≠ '\r'

/-! ## Schemes -/

/-- The scheme and the text behind its colon. -/
def scheme? (cs : List Char) : Option (String × List Char) :=
  let name := cs.takeWhile fun c => c.isAlphanum || c = '+' || c = '-' || c = '.'
  match cs.drop name.length with
  | ':' :: rest =>
    if name.head?.any Char.isAlpha then some (String.ofList (name.map Char.toLower), rest) else none
  | _ => none

/-- Schemes whose addresses have a host, with the port that goes without saying. -/
def defaultPort? (scheme : String) : Option Nat :=
  if scheme = "http" || scheme = "ws" then some 80
  else if scheme = "https" || scheme = "wss" then some 443
  else if scheme = "ftp" then some 21
  else none

def schemeKind (scheme : String) : SchemeKind :=
  if scheme = "file" then .file else if (defaultPort? scheme).isSome then .web else .other

/-! ## Authorities -/

/-- User and password from the text in front of the last at sign. -/
def credentials (cs : List Char) : String × String :=
  let (user, password) := Text.cut ':' cs
  (Text.percentEncode inUserinfo user, Text.percentEncode inUserinfo (password.getD []))

/-- The text of a host and what follows it: a colon in brackets belongs to the host. -/
def splitHost : Bool → List Char → List Char × List Char
  | _, [] => ([], [])
  | inside, c :: cs =>
    if c = ':' && !inside then ([], c :: cs)
    else
      let (host, rest) := splitHost (if c = '[' then true else if c = ']' then false else inside) cs
      (c :: host, rest)

/-- The port behind a host and what follows it; the default port is none. -/
def port? (scheme : String) : List Char → Option (Option Nat × List Char)
  | ':' :: cs =>
    let ds := cs.takeWhile Char.isDigit
    let n := numeral 10 ds
    let rest := cs.drop ds.length
    if 65535 < n || !(rest.isEmpty || rest.head? = some '\\') then none
    else some (if ds.isEmpty || defaultPort? scheme = some n then none else some n, rest)
  | cs => some (none, cs)

/-- The authority from the text up to the path and what is left of it; `after` is what follows. -/
def authority? (scheme : String) (cs after : List Char) : Option (Authority × List Char) := do
  let (user, rest) := Text.cutLast '@' cs
  let (user, password) := credentials (user.getD [])
  let (name, behind) := splitHost false rest
  let host ← if schemeKind scheme = .other then readOpaqueHost? name else readHost? name
  let (port, behind) ← port? scheme behind
  let a : Authority := ⟨user, password, host, port⟩
  let signed := cs.head? = some '@' && rest.length + 1 = cs.length
  if host = "" && (a.hasCredentials || rest ≠ [] || (signed && after ≠ [])) then none
  else some (a, behind)

/-! ## Queries and fragments -/

/-- Add query and fragment from the text behind the path. -/
def finish (kind : SchemeKind) (u : Url) (cs : List Char) : Url :=
  let (query, fragment) := Text.cut '#' cs
  let encoded := Text.percentEncode (if kind.isSpecial then inSpecialQuery else inQuery)
  { u with
    query := match query with
      | '?' :: query => some (encoded query)
      | _ => none
    fragment := fragment.map (Text.percentEncode inFragment) }

/-! ## Addresses -/

def isMark (c : Char) : Bool := c = '?' || c = '#'

/-- The address behind two slashes. -/
def readAuthority? (scheme : String) (cs : List Char) : Option Url := do
  let kind := schemeKind scheme
  let before := cs.takeWhile fun c => !kind.isSlash c && !isMark c
  let after := cs.drop before.length
  let (authority, behind) ← authority? scheme before after
  let rest := behind ++ after
  let (text, _, rest) :=
    if kind.isSpecial then
      readPath kind ['/'] (if rest.head?.any kind.isSlash then rest.drop 1 else rest)
    else if rest.isEmpty || rest.head?.any isMark then ("", true, rest)
    else readPath kind ['/'] (if rest.head? = some '/' then rest.drop 1 else rest)
  some (finish kind { scheme, authority := some authority, path := text } rest)

/-- The address of a file. A host that names this machine is none, and a drive letter is no host. -/
def readFile? (cs : List Char) : Option Url := do
  let isSlash := SchemeKind.file.isSlash
  let file := fun (host : String) (p : String × Bool × List Char) =>
    let host := if p.2.1 then host else ""
    finish .file { scheme := "file", authority := some { host }, path := p.1 } p.2.2
  if cs.length ≥ 2 && (cs.take 2).all isSlash then
    let rest := cs.drop 2
    let name := rest.takeWhile fun c => !isSlash c && !isMark c
    if name.isEmpty || isDrive name then some (file "" (readPath .file ['/'] rest))
    else
      let host ← readHost? name
      let rest := rest.drop name.length
      if host = "localhost" then some (file "" (readPath .file ['/'] rest))
      else
        let rest := if rest.head?.any isSlash then rest.drop 1 else rest
        some (file host (readPath .file ['/'] rest))
  else some (file "" (readPath .file (if cs.head?.any isSlash then [] else ['/']) cs))

/-- The address without an authority. -/
def readPlain (scheme : String) (cs : List Char) : Url :=
  if cs.head? = some '/' then
    let (text, _, rest) := readPath .other ['/'] (cs.drop 1)
    finish .other { scheme, path := text } rest
  else
    let text := cs.takeWhile (!isMark ·)
    finish .other { scheme, path := Text.percentEncode (fun _ => false) text }
      (cs.drop text.length)

/-- The address that a text denotes. -/
def parse? (s : String) : Option Url := do
  let (scheme, rest) ← scheme? (clean s)
  match schemeKind scheme, rest with
  | .file, rest => readFile? rest
  | .web, rest => readAuthority? scheme (rest.dropWhile SchemeKind.web.isSlash)
  | .other, '/' :: '/' :: rest => readAuthority? scheme rest
  | .other, rest => some (readPlain scheme rest)

end RoleOperator.Url
