import RoleOperator.Text.Quoted

/-!
# Faults

Everything that can go wrong in the operator, by cause, with one text for each.
-/
namespace RoleOperator

/-- What the cluster's API server says about a request that it refused. -/
structure ApiStatus where
  status : String
  message : String
  reason : String
  code : Nat
  deriving DecidableEq, Repr

def ApiStatus.debugText (s : ApiStatus) : String :=
  "ErrorResponse \x7b status: " ++ Text.quoted s.status ++ ", message: " ++ Text.quoted s.message
    ++ ", reason: " ++ Text.quoted s.reason ++ ", code: " ++ toString s.code ++ " \x7d"

/-- Why an address cannot be sent. -/
inductive AddressFlaw where
  | character
  | length
  deriving DecidableEq, Repr

def AddressFlaw.message : AddressFlaw → String
  | .character => "invalid uri character"
  | .length => "uri too long"

/-- How a call to the cluster can fail. -/
inductive ClusterFault where
  | refused (status : ApiStatus)
  | undecodable (reason : String)
  | service (reason : String)
  | invalidAddress (flaw : AddressFlaw)
  deriving DecidableEq, Repr

def ClusterFault.message : ClusterFault → String
  | .refused s => s!"ApiError: {s.message}: {s.reason} ({s.debugText})"
  | .undecodable reason => s!"Error deserializing response: {reason}"
  | .service reason => s!"ServiceError: {reason}"
  | .invalidAddress flaw => s!"Failed to build request: failed to build request: {flaw.message}"

/-- How an HTTP request can fail before there is an answer. -/
inductive HttpFault where
  | builder (url : Option String)
  | sending (url : String)
  deriving DecidableEq, Repr

def HttpFault.message : HttpFault → String
  | .builder none => "builder error"
  | .builder (some url) => s!"builder error for url ({url})"
  | .sending url => s!"error sending request for url ({url})"

inductive Fault where
  | cluster (fault : ClusterFault)
  | notFound (what : String)
  | conflict (what : String)
  | vault (status : Nat) (message : String)
  | http (fault : HttpFault)
  | config (reason : String)
  | invalidKey (key : String)
  | serialization (reason : String)
  | aggregate (faults : List Fault)
  deriving Repr, Inhabited

namespace Fault

mutual

def message : Fault → String
  | .cluster f => s!"Kubernetes API error: {f.message}"
  | .notFound what => s!"Not found: {what}"
  | .conflict what => s!"Conflict: {what}"
  | .vault status message => s!"Vault API error ({status}): {message}"
  | .http f => s!"HTTP error: {f.message}"
  | .config reason => s!"Configuration error: {reason}"
  | .invalidKey key => s!"Invalid object key: {key}"
  | .serialization reason => s!"Serialization error: {reason}"
  | .aggregate faults => "[" ++ ", ".intercalate (messages faults) ++ "]"

private def messages : List Fault → List String
  | [] => []
  | f :: fs => f.message :: messages fs

end

/-- A refusal with code 404 or 409 is told apart from other failures of a call. -/
def ofCluster : ClusterFault → Fault
  | .refused s =>
    if s.code = 404 then .notFound s.message
    else if s.code = 409 then .conflict s.message
    else .cluster (.refused s)
  | f => .cluster f

/-- Several failures of one operation; none is no failure, and one is itself. -/
def combine : List Fault → Option Fault
  | [] => none
  | [f] => some f
  | fs => some (.aggregate fs)

def isNotFound : Fault → Bool
  | .notFound _ => true
  | _ => false

def isConflict : Fault → Bool
  | .conflict _ => true
  | _ => false

end Fault
end RoleOperator
