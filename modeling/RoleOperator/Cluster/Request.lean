import RoleOperator.Program
import RoleOperator.Json.Writer
import RoleOperator.StatusReason

/-!
# Requests to the cluster

How objects are addressed at the API server, and what its answers mean.
-/
namespace RoleOperator.Cluster

structure Request where
  method : String
  uri : String
  body : Option Json := none
  deriving DecidableEq, Repr

structure Response where
  status : Nat
  body : String
  deriving DecidableEq, Repr

/-- Characters that may stand in the path of an address as they are. -/
def isPathChar (c : Char) : Bool :=
  c.val ≥ 0x7E || c = '!' || ('$' ≤ c && c ≤ ';') || c = '=' || ('@' ≤ c && c ≤ '_')
    || ('a' ≤ c && c ≤ '\x7d') || c = '"'

/-- Characters that may stand in the query of an address as they are. -/
def isQueryChar (c : Char) : Bool :=
  c.val ≥ 0x7F || c = '!' || ('$' ≤ c && c ≤ ';') || c = '=' || ('?' ≤ c && c ≤ '~')

/-- Bytes that an address may have. -/
def maxAddressSize : Nat := 65534

/-- The address as it is sent. A fragment is left out; nothing is encoded, so that a character that
may not stand there makes the address invalid. -/
def address (target : String) : Except AddressFlaw String :=
  if maxAddressSize < target.utf8ByteSize then .error .length
  else
    let cs := target.toList.takeWhile (· ≠ '#')
    let path := cs.takeWhile (· ≠ '?')
    let query := (cs.drop path.length).drop 1
    if path.all isPathChar && query.all isQueryChar then .ok (String.ofList cs)
    else .error .character

/-- Where all objects of a kind are. -/
def collectionPath (kind : Kind) : String :=
  "/apis/" ++ Kind.group ++ "/" ++ Kind.version ++ "/" ++ kind.plural

/-- Where an object of a kind is. -/
def objectPath (kind : Kind) (ns name : String) : String :=
  "/apis/" ++ Kind.group ++ "/" ++ Kind.version ++ "/namespaces/" ++ ns ++ "/" ++ kind.plural
    ++ "/" ++ name

/-- A request, if its address can be sent. -/
def request (method target : String) (body : Option Json) : Except ClusterFault Request :=
  match address target with
  | .ok uri => .ok ⟨method, uri, body⟩
  | .error flaw => .error (.invalidAddress flaw)

/-! ## Answers -/

/-- The server's own account of a refusal. -/
def apiStatus : Json.Decoder ApiStatus :=
  open Json.Decode in
  record "ErrorResponse" <|
    (fun status message reason (code : Int) => ApiStatus.mk status message reason code.toNat)
      <$> Fields.required "status" string
      <*> Fields.withDefault "message" string ""
      <*> Fields.withDefault "reason" string ""
      <*> Fields.required "code" uint16

/-- A refusal in words that the server did not use. -/
def rawStatus (r : Response) : ApiStatus where
  status := toString r.status ++ " " ++ (statusReason? r.status).getD "<unknown status code>"
  message := Text.quoted r.body
  reason := "Failed to parse error data"
  code := r.status

/-- The text of an answer, or why the request was refused. -/
def Response.text (r : Response) : Except ClusterFault String :=
  if 400 ≤ r.status && r.status < 600 then
    match Json.decodeText apiStatus r.body with
    | .ok s => .error (.refused s)
    | .error _ => .error (.refused (rawStatus r))
  else .ok r.body

def Response.decode {α : Type} (d : Json.Decoder α) (r : Response) : Except ClusterFault α := do
  let body ← r.text
  match Json.decodeText d body with
  | .ok a => .ok a
  | .error reason => .error (.undecodable reason)

/-! ## Exchanges -/

/-- How requests are answered. -/
abbrev Transport (m : Type → Type) := Request → m (Except ClusterFault Response)

/-- Send a request, if it can be built, and decode the answer. -/
def exchange {m : Type → Type} [Monad m] {α : Type} (send : Transport m) (d : Json.Decoder α)
    (request : Except ClusterFault Request) : m (Except ClusterFault α) :=
  match request with
  | .error e => pure (.error e)
  | .ok r => do
    match ← send r with
    | .error e => pure (.error e)
    | .ok response => pure (response.decode d)

end RoleOperator.Cluster
