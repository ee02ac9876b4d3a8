import RoleOperator.Url.Reader
import RoleOperator.StatusReason
import RoleOperator.Json.Writer
import RoleOperator.Json.Decode
import RoleOperator.Text.Pieces
import RoleOperator.Text.Utf8
import RoleOperator.Fault

/-!
# Vault client

The two calls that roles need: write a body to a path, and delete a path. An answer that is no
success becomes a fault with the server's own words, or the usual words for its status.
-/
namespace RoleOperator.Vault

structure Client where
  addr : String
  token : String
  deriving DecidableEq, Repr

inductive Method where
  | post | delete
  deriving DecidableEq, Repr

def Method.text : Method → String
  | .post => "POST"
  | .delete => "DELETE"

structure Request where
  method : Method
  url : Url
  token : String
  body : Option Json
  deriving DecidableEq, Repr

/-- A body is sent as JSON. -/
def Request.contentType (r : Request) : Option String := r.body.map fun _ => "application/json"

def Request.bodyText (r : Request) : String := (r.body.map Json.text).getD ""

structure Response where
  status : Nat
  body : List UInt8
  deriving DecidableEq, Repr

namespace Client

/-- The address of a path: one slash on either side of the version. -/
def url (c : Client) (path : String) : String :=
  String.ofList (Text.trimEnd (· = '/') c.addr.toList) ++ "/v1/"
    ++ String.ofList (Text.trimStart (· = '/') path.toList)

/-- The token is not shown. -/
def debugText (c : Client) : String :=
  "VaultClient \x7b addr: " ++ Text.quoted c.addr ++ ", .. \x7d"

/-- A header holds no control characters but the tab. -/
def isHeaderValue (s : String) : Bool :=
  s.toList.all fun c => (c.val ≥ 0x20 && c.val ≠ 0x7F) || c = '\t'

/-- Bytes that an address may have. -/
def maxAddressSize : Nat := 65534

/-- A request can go to the address: it is not too long, and no host has quotes or braces. -/
def isReachable (u : Url) : Bool :=
  u.text.utf8ByteSize ≤ maxAddressSize
    && (u.host?.getD "").toList.all fun c => c ≠ '"' && c ≠ '\x60' && c ≠ '\x7b' && c ≠ '\x7d'

/-- The request for a path; it cannot be built for an address without a host, with a token that is
no header or for another scheme. User and password are not sent. -/
def prepare (c : Client) (method : Method) (path : String) (body : Option Json) :
    Except HttpFault Request :=
  match Url.parse? (c.url path) with
  | none => .error (.builder none)
  | some url =>
    if url.host?.isNone then .error (.builder (some url.text))
    else
      let url := url.withoutCredentials
      if !isHeaderValue c.token then .error (.builder none)
      else if (url.scheme ≠ "http" && url.scheme ≠ "https") || !isReachable url then
        .error (.builder (some url.text))
      else .ok ⟨method, url, c.token, body⟩

/-- The list of errors that Vault answers with. -/
def errorList : Json.Decoder (List String) :=
  Json.Decode.record "ErrorBody" (Json.Decode.Fields.withDefault "errors"
    (Json.Decode.list Json.Decode.string) [])

/-- Vault's own errors, else the body, else the usual words for the status. -/
def errorMessage (body : String) (status : Nat) : String :=
  let fallback :=
    if Text.trim body ≠ "" then Text.trim body
    else (statusReason? status).getD "unexpected status"
  match Json.decodeText errorList body with
  | .ok (e :: es) => "; ".intercalate (e :: es)
  | _ => fallback

/-- What an answer means for the caller. -/
def check (url : String) (r : Response) : Except Fault Unit :=
  if 200 ≤ r.status && r.status < 300 then .ok ()
  else if r.status = 404 then .error (.notFound url)
  else .error (.vault r.status (errorMessage (Text.lossy r.body) r.status))

/-- How requests are answered. -/
abbrev Transport (m : Type → Type) := Request → m (Except HttpFault Response)

/-- Send a request, if it can be built. -/
def call {m : Type → Type} [Monad m] (send : Transport m) (c : Client) (method : Method)
    (path : String) (body : Option Json) : m (Except Fault Unit) :=
  match c.prepare method path body with
  | .error e => pure (.error (.http e))
  | .ok request => do
    match ← send request with
    | .error e => pure (.error (.http e))
    | .ok response => pure (check request.url.text response)

def write {m : Type → Type} [Monad m] (send : Transport m) (c : Client) (path : String)
    (body : Json) : m (Except Fault Unit) :=
  c.call send .post path (some body)

def delete {m : Type → Type} [Monad m] (send : Transport m) (c : Client) (path : String) :
    m (Except Fault Unit) :=
  c.call send .delete path none

end Client
end RoleOperator.Vault
