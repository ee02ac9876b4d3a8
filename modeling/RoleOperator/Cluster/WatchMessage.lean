import RoleOperator.Cluster.Listing

/-!
# Messages on a watch

What the server sends on an open watch, and how somebody who follows a kind takes it. An object
without a version, or the news that the version watched from is gone, makes the follower list all
objects again; what else was on the watch is lost then.
-/
namespace RoleOperator.Cluster

inductive WatchMessage where
  | changed (role : Role)
  | deleted (role : Role)
  | bookmark (version : String)
  | refused (status : ApiStatus)
  | unreadable
  deriving Repr

namespace WatchMessage

/-- The version that a bookmark stands for. -/
def bookmarkVersion : Json.Decoder String :=
  open Json.Decode in
  record "Bookmark" (Fields.required "metadata"
    (record "BookmarkMeta" (Fields.required "resourceVersion" string)))

/-- The message of a type about an object. -/
def ofParts (kind : Kind) (type : String) (object : Json) : WatchMessage :=
  let reading : Except Json.DecodeFlaw WatchMessage :=
    match type with
    | "ADDED" | "MODIFIED" => (Json.Decode.role kind object).map .changed
    | "DELETED" => (Json.Decode.role kind object).map .deleted
    | "BOOKMARK" => (bookmarkVersion object).map .bookmark
    | "ERROR" => (apiStatus object).map .refused
    | _ => .ok .unreadable
  match reading with
  | .ok message => message
  | .error _ => .unreadable

end WatchMessage

namespace Follower

/-- Code of a refusal because the version is gone. -/
def goneCode : Nat := 410

/-- Report an event about an object, unless the object has no version. -/
def hearOf (event : Role → WatchEvent) (role : Role) : List WatchEvent × Follower :=
  let version := role.metadata.resourceVersion.getD ""
  if version = "" then ([], .starting) else ([event role], .watching version)

/-- Take a message. Nobody hears it without an open watch. -/
def hear (f : Follower) (message : WatchMessage) : List WatchEvent × Follower :=
  match f, message with
  | .watching _, .changed role => hearOf .apply role
  | .watching _, .deleted role => hearOf .delete role
  | .watching _, .bookmark version => ([], .watching version)
  | .watching _, .refused s => ([], if s.code = goneCode then .starting else f)
  | _, _ => ([], f)

/-- Take all messages, in order. -/
def hearAll (f : Follower) (messages : List WatchMessage) : List WatchEvent × Follower :=
  messages.foldl (fun (events, f) message =>
    let (more, f) := f.hear message
    (events ++ more, f)) ([], f)

end Follower
end RoleOperator.Cluster
