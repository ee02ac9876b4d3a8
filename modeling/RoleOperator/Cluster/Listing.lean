import RoleOperator.Cluster.Request
import RoleOperator.Text.Percent
import RoleOperator.Watch

/-!
# Listing and watching

The objects of a kind are listed page by page; the last page names the version from which a watch
goes on. A follower turns this into watch events, and starts over when a page cannot be had.
-/
namespace RoleOperator

namespace Cluster

/-- One page of a list. An empty text stands for absence. -/
structure Listing where
  version : Option String
  next : Option String
  roles : List Role
  deriving Repr

/-- Where a page is asked for. -/
def listPath (kind : Kind) (limit : Nat) (next : Option String) : String :=
  collectionPath kind ++ "?" ++ Text.formPairs
    (("limit", toString limit) :: next.toList.map fun token => ("continue", token))

/-- Where a watch is asked for. -/
def watchPath (kind : Kind) (version : String) : String :=
  collectionPath kind ++ "?" ++ Text.formPairs
    [("watch", "true"), ("timeoutSeconds", "290"), ("allowWatchBookmarks", "true"),
      ("resourceVersion", version)]

end Cluster

namespace Json.Decode

/-- Version and continuation of a list. -/
def listMetadata : Decoder (Option String × Option String) :=
  openRecord "ListMeta" <|
    (fun next _ version _ => (version, next))
      <$> Fields.opt "continue" string <*> Fields.opt "remainingItemCount" int64
      <*> Fields.opt "resourceVersion" string <*> Fields.opt "selfLink" string

def listing (kind : Kind) : Decoder Cluster.Listing :=
  keyedRecord "ObjectList" <|
    (fun m roles => ⟨m.1.filter (· ≠ ""), m.2.filter (· ≠ ""), roles⟩)
      <$> Fields.withDefault "metadata" listMetadata (none, none)
      <*> Fields.required "items" (list (role kind))

end Json.Decode

namespace Cluster

variable {m : Type → Type} [Monad m]

/-- Ask for a page. -/
def list (send : Transport m) (kind : Kind) (limit : Nat) (next : Option String) :
    m (Except ClusterFault Listing) :=
  exchange send (Json.Decode.listing kind) (request "GET" (listPath kind limit next) none)

/-- Ask for a watch; events follow if it is granted. -/
def openWatch (send : Transport m) (kind : Kind) (version : String) :
    m (Except ClusterFault Unit) :=
  match request "GET" (watchPath kind version) none with
  | .error e => pure (.error e)
  | .ok r => do
    match ← send r with
    | .error e => pure (.error e)
    | .ok response => pure (response.text.map fun _ => ())

/-- Where somebody who follows a kind stands. -/
inductive Follower where
  | starting
  | listing (next : Option String)
  | listed (version : String)
  | watching (version : String)
  deriving DecidableEq, Repr

/-- Objects on a page. -/
def pageSize : Nat := 500

/-- What a page leads to: more pages, the watch, or a new start if neither is possible. -/
def Follower.ofPage (page : Listing) : List WatchEvent × Follower :=
  let events := page.roles.map .initApply
  match page.next, page.version with
  | some token, _ => (events, .listing (some token))
  | none, some version => (events ++ [.initDone], .listed version)
  | none, none => ([], .starting)

/-- Go on by one request at most. -/
def Follower.advance (send : Transport m) (kind : Kind) :
    Follower → m (List WatchEvent × Follower)
  | .starting => pure ([.init], .listing none)
  | .listing next => do
    match ← list send kind pageSize next with
    | .ok page => pure (Follower.ofPage page)
    | .error _ => pure ([], .starting)
  | .listed version => do
    match ← openWatch send kind version with
    | .ok () => pure ([], .watching version)
    | .error _ => pure ([], .listed version)
  | .watching version => pure ([], .watching version)

end Cluster
end RoleOperator
