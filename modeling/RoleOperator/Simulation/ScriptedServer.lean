import RoleOperator.Cluster.Listing
import RoleOperator.Cluster.Store
import RoleOperator.Store.ObjectTable
import RoleOperator.Simulation.Surroundings

/-!
# Simulated API servers

One server answers requests with the responses of a list, in order, and remembers what it was asked.
Another has a table of objects behind its requests: answers to its first lists may be given, all other
lists show the same objects, and a watch is always granted.
-/
namespace RoleOperator.Simulation

structure ScriptedServer where
  responses : List Cluster.Response := []
  requests : List Cluster.Request := []
  deriving Repr

/-- Answer one request; without a response left the service fails. -/
def ScriptedServer.answer (request : Cluster.Request) :
    StateM ScriptedServer (Except ClusterFault Cluster.Response) :=
  modifyGet fun s =>
    let asked := s.requests ++ [request]
    match s.responses with
    | [] => (.error (.service "script exhausted"), { s with requests := asked })
    | r :: rest => (.ok r, ⟨rest, asked⟩)

structure ApiServer where
  kind : Kind
  table : ObjectTable := {}
  listed : List Role := []
  lists : List (Option Cluster.Response) := []
  asked : List String := []
  notes : List Note := []

namespace ApiServer

/-- Version of the default list. -/
def listVersion : String := "1000"

def defaultList (s : ApiServer) : Cluster.Response where
  status := 200
  body := Json.text <| .object [
    ("apiVersion", .string Kind.apiVersion), ("items", .array (s.listed.map Role.toJson)),
    ("kind", .string (s.kind.text ++ "List")),
    ("metadata", .object [("resourceVersion", .string listVersion)])]

/-- A refusal in the server's own words. -/
def refusal (code : Nat) (reason message : String) : Cluster.Response where
  status := code
  body := Json.text <| .object [
    ("apiVersion", .string "v1"), ("code", .ofNat code), ("kind", .string "Status"),
    ("message", .string message), ("metadata", .object []), ("reason", .string reason),
    ("status", .string "Failure")]

/-- The answer to a call on the table. -/
def responseOf : Except Fault Role → Cluster.Response
  | .ok role => ⟨200, role.toJson.text⟩
  | .error e =>
    if e.isNotFound then refusal 404 "NotFound" e.message
    else if e.isConflict then refusal 409 "Conflict" e.message
    else refusal 500 "InternalError" e.message

/-- The object at a path. -/
def find (s : ApiServer) (path : String) : Except Fault Role :=
  let isThere := fun (e : ObjectKey × Role) =>
    e.1.ns.any fun ns => Cluster.objectPath s.kind ns e.1.name = path
  match s.table.objects.find? isThere with
  | some e => .ok e.2
  | none => .error (.notFound path)

/-- Replace an object or its status. -/
def replace (s : ApiServer) (path : String) (body : Json) : Except Fault Role × ObjectTable :=
  match Json.Decode.role s.kind body with
  | .error e => (.error (.serialization e.message), s.table)
  | .ok role => s.table.write role (if path.endsWith "/status" then .status else .object)

def answerList (s : ApiServer) (uri : String) : Cluster.Response × ApiServer :=
  let s := { s with asked := s.asked ++ [uri] }
  match s.lists with
  | [] => (s.defaultList, s)
  | r :: rest => (r.getD s.defaultList, { s with lists := rest })

def isWatch (uri : String) : Bool := (uri.splitOn "?&watch=true&").length = 2

/-- Answer one request. -/
def serve (r : Cluster.Request) : StateM ApiServer (Except ClusterFault Cluster.Response) :=
  modifyGet fun s =>
    let path := String.ofList (r.uri.toList.takeWhile (· ≠ '?'))
    if path = Cluster.collectionPath s.kind then
      if isWatch r.uri then (.ok ⟨200, ""⟩, { s with asked := s.asked ++ [r.uri] })
      else
        let (response, s) := s.answerList r.uri
        (.ok response, s)
    else
      let (result, table) := match r.body with
        | none => (s.find path, s.table)
        | some body => s.replace path body
      let response := responseOf result
      (.ok response, { s with
        table := table
        notes := s.notes ++ [.request r.method path response.status] })

end ApiServer

/-- A cluster with a Vault beside it, and a cache that follows the cluster. -/
structure ClusterWorld where
  server : ApiServer
  cache : ReadCache := {}
  vault : Vault.Client
  sendVault : Vault.Client.Transport Id
  clock : Timestamp

namespace ClusterWorld

/-- Do something that sends requests to the server, and show these. -/
def exchange {α : Type} (w : ClusterWorld) (f : StateM ApiServer α) : Reply ClusterWorld α :=
  let (a, server) := f.run { w.server with notes := [] }
  { answer := a, world := { w with server := server }, notes := server.notes }

def answer : Answering ClusterWorld
  | .cached key, w => { answer := w.cache.get? key, world := w }
  | .get key, w => w.exchange (Cluster.get ApiServer.serve w.server.kind key)
  | .write role target, w => w.exchange (Cluster.write ApiServer.serve role target)
  | .bind _, w => { answer := .ok (), world := w }
  | .create role, w =>
    { answer := (Vault.Adapter.ofRole w.vault role).create w.sendVault, world := w }
  | .delete role name, w =>
    { answer := (Vault.Adapter.ofRole w.vault role).delete w.sendVault name, world := w }
  | .clock, w => { answer := w.clock, world := w }
  | .finalize _, w => { answer := (), world := w }

end ClusterWorld
end RoleOperator.Simulation
