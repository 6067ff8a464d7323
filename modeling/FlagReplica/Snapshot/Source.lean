import FlagReplica.Replica
import FlagReplica.Snapshot.Basic

/-!
# Snapshots of sources

What a source and a whole replica look like from outside at one moment. What happened on the way,
the statuses that were heard and the notices, is no part of a snapshot.
-/

namespace FlagReplica

open Json (Value Members)

/-- The JSON form of recorded attempts. -/
def Attempt.values (attempts : List Attempt) : Value :=
  .array (attempts.map Attempt.value)

/-- What a gateway shows: its status, and its store in memory. -/
def Gateway.members (g : Gateway Memory) : Members :=
  [("status", g.status.value), ("store", g.store.store.value)]

/-- What a streaming source shows. -/
def StreamSource.members (s : StreamSource Memory) : Members :=
  let own : Members := [("ready", s.readiness.value), ("initialized", .boolean s.initialized),
    ("alive", .boolean (s.worker = .running)), ("uri", .text s.uri),
    ("connected_uri", .nullable .text s.line.address), ("interrupts", .integer s.line.interrupts),
    ("closes", .integer s.line.closes),
    ("subscribed", .nullable (fun _ => .boolean (s.subscriptions ≠ 0)) s.healthWatched),
    ("inits", .nullable (fun t => Attempt.values t.attempts) s.telemetry)]
  own ++ s.gateway.members

/-- What a polling source shows. -/
def PollSource.members (s : PollSource Memory) : Members :=
  let own : Members := [("ready", s.readiness.value), ("initialized", .boolean s.initialized),
    ("alive", .boolean s.isAlive), ("requests", .integer s.fetches)]
  own ++ s.gateway.members

/-- What the source of a replica shows. -/
def Source.members {σ : Type} (source : Source σ) : Members :=
  let (name, uri, line, fetches) : String × Value × Line × Nat := match source with
    | idle _ => ("NoneType", .null, {}, 0)
    | refused s | streaming s => ("StreamingDataSource", .text s.uri, s.line, 0)
    | polling s => ("PollingDataSource", .null, {}, s.fetches)
  [("source", .string name), ("uri", uri), ("interrupts", .integer line.interrupts),
    ("closes", .integer line.closes), ("requests", .integer fetches),
    ("ready", .nullable Readiness.value source.readiness?),
    ("initialized", .boolean source.initialized)]

/-- What a replica shows. -/
def Replica.members (r : Replica Memory) : Members :=
  let store := r.store
  let isDispatching {ν : Type} (a : Audience ν) : Value := .boolean (a.dispatching = some true)
  let own : Members := [("store_initialized", .boolean (Repository.initialized store)),
    ("store_status", store.feed.current.value), ("monitoring", .boolean store.watched),
    ("checking", .boolean store.isChecking),
    ("dispatching", .array [isDispatching r.gateway.audience, isDispatching store.feed.audience]),
    ("inits", .nullable Attempt.values r.attempts?), ("store", store.inner.store.value),
    ("status", r.gateway.status.value)]
  own ++ r.source.members

end FlagReplica
