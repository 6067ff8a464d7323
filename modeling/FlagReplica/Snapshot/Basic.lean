import FlagReplica.Change.Path
import FlagReplica.Change.Payload
import FlagReplica.Fetcher
import FlagReplica.Health.Feed
import FlagReplica.Readiness
import FlagReplica.Status.Basic
import FlagReplica.Store.Repository

/-!
# Snapshots

What items, a store, a status and a request look like from outside: JSON values to show, and notices
as lines.
-/

namespace FlagReplica

open Json (Value)

/-- A value, or null in its absence. -/
def Json.Value.nullable {α : Type} (value : α → Value) : Option α → Value
  | some a => value a
  | none => .null

/-- The JSON form of a descriptor: its version, the type of its item, and the item. -/
def Descriptor.value (d : Descriptor) : Value :=
  .object [("version", .integer d.version),
    ("type", .nullable (fun item : Item => .string item.kind.typeName) d.item),
    ("item", .nullable Item.value d.item)]

/-- The JSON form of a collection. -/
def Collection.value (c : Collection) : Value :=
  .object (c.map fun (key, d) => (key, d.value))

/-- The JSON form of a data set: lists of pairs, which keep the order of kinds and keys. -/
def DataSet.value (data : DataSet) : Value :=
  .array (data.map fun (kind, c) => .array [.string kind.namespaceName,
    .array (c.map fun (key, d) => .array [.text key, d.value])])

/-- The JSON form of a path. -/
def ItemPath.value (p : ItemPath) : Value :=
  .object [("kind", .string p.kind.namespaceName), ("key", .text p.key)]

/-- The JSON form of a new version of an item. -/
def Patch.value (p : Patch) : Value :=
  .object [("path", .text p.path), ("item", p.content)]

/-- The JSON form of a deletion. -/
def Removal.value (r : Removal) : Value :=
  .object [("path", .text r.path), ("version", .integer r.version)]

/-- The JSON form of a store. -/
def Store.value (s : Store) : Value :=
  .object (("initialized", .boolean s.initialized) ::
    Kind.all.map fun kind => ((kind.namespaceName : Text), Collection.value (s.collection kind)))

/-- A request in one line: for a full data set, the keys in the order in which they were handed
over. -/
def Request.line : Request → Text
  | init order =>
    Text.joinWith " " ("init" :: order.map fun (kind, keys) =>
      kind.namespaceName ++ "=" ++ Text.joinWith "," keys)
  | upsert => "upsert"
  | get => "get"
  | all => "all"

/-- The JSON form of a failure at some time. -/
def Failure.value (f : Failure) (time : Millis) : Value :=
  .object [("kind", .string f.kind.word), ("status_code", .integer f.statusCode),
    ("time", .integer time), ("message", .nullable .text f.message)]

/-- The JSON form of a status. -/
def Status.value (s : Status) : Value :=
  .object [("state", .string s.state.word), ("since", .integer s.since),
    ("error", .nullable (fun e : ErrorRecord => e.failure.value e.time) s.error)]

/-- The JSON form of a health: whether the store is available, and whether it is stale. -/
def Health.value (h : Health) : Value :=
  .array [.boolean h.available, .boolean h.stale]

/-- The JSON form of a signal: whether it has been resolved, and how. -/
def Readiness.value (r : Readiness) : Value :=
  .array [.boolean r.isResolved, .nullable .boolean r.success?]

/-- The JSON form of a request, which is repeated once at most if it fails. -/
def FetchRequest.value (r : FetchRequest) : Value :=
  .object [("method", .string "GET"), ("uri", .text r.uri), ("headers", .object r.headers),
    ("retries", .integer 1)]

/-- The line that a notice makes in a log. -/
def Notice.line (n : Notice) : Text :=
  n.level.word ++ " " ++ n.text

end FlagReplica
