import FlagReplica.Health.Watch
import FlagReplica.Source.Poll
import FlagReplica.Source.Stream

/-!
# The replica

Everything together: a store under watch, the gateway through which the source writes to it, and the
source that the settings ask for. The source is made at the first start. Connections are somebody
else's work, and may be refused to the settings: there are no polls then, and a stream is there but
has not been started, so that the next start makes another one. Listeners of the status and of the
store's health are told by dispatchers, so that nothing waits for a listener. `settle` is what the
dispatchers do once the rest is quiet.
-/

namespace FlagReplica

/-- What keeps a store in step: nothing so far, a stream, or polls. A stream whose line could not be
opened is there without having been started. -/
inductive Source (σ : Type) where
  | idle (gateway : Gateway σ)
  | refused (s : StreamSource σ)
  | streaming (s : StreamSource σ)
  | polling (s : PollSource σ)

namespace Source

variable {σ : Type}

/-- The gateway through which the source writes. -/
def gateway : Source σ → Gateway σ
  | idle gateway => gateway
  | refused s => s.gateway
  | streaming s => s.gateway
  | polling s => s.gateway

/-- The source with another gateway. -/
def withGateway (gateway : Gateway σ) : Source σ → Source σ
  | idle _ => idle gateway
  | refused s => refused { s with gateway }
  | streaming s => streaming { s with gateway }
  | polling s => polling { s with gateway }

/-- The signal that tells how the start went, if there has been one that did not fail. -/
def readiness? : Source σ → Option Readiness
  | idle _ | refused _ => none
  | streaming s => some s.readiness
  | polling s => some s.readiness

/-- Whether a full data set has been stored. -/
def initialized : Source σ → Bool
  | idle _ => false
  | refused s => s.initialized
  | streaming s => s.initialized
  | polling s => s.initialized

/-- Starts the source, if there is one. -/
def start : Source σ → Except Fault Unit × Source σ
  | idle gateway => (.ok (), idle gateway)
  | refused s | streaming s =>
    let (result, started) := s.start
    (result, if s.refusal.isSome then refused started else streaming started)
  | polling s =>
    let (result, s) := s.start
    (result, polling s)

/-- Stops the source, if there is one. -/
def stop : Source σ → Source σ
  | idle gateway => idle gateway
  | refused s => refused s.stop
  | streaming s => streaming s.stop
  | polling s => polling s.stop

/-- The source hears of the store's health, if it listens. -/
def hearPublished (source : Source σ) (h : Health) : Source σ :=
  match source with
  | streaming s => streaming (s.hearPublished h)
  | source => source

end Source

/-- A replica. -/
structure Replica (σ : Type) where
  settings : Settings
  /-- Why connections are refused to the settings, if they are. -/
  refusal : Option SettingFault
  /-- What is told once about the setup, unless the settings forbid it. -/
  setup : Option Json.Value
  /-- What a streaming source will begin to record in. -/
  telemetry : Option Telemetry
  source : Source (WatchedStore σ)

namespace Replica

variable {σ : Type}

/-- The dispatcher that tells of changes of the status. -/
def statusDispatcher : String := "source-status"

/-- The dispatcher that tells of changes of the store's health. -/
def healthDispatcher : String := "store-health"

/-- What is told once about the setup, unless the settings forbid it. The key has to have an end,
from which whose telemetry it is can be told. `component` is the store as it
describes itself, `id` says whose telemetry it is, and `platform` is what is told about the
machine. -/
def setupOf (settings : Settings) (component : Component) (id : Json.Value)
    (platform : Json.Members) (now : Millis) : Except SettingFault (Option Json.Value) :=
  if settings.withoutDiagnostics then .ok none
  else do
    let _ ← keySuffix settings.sdkKey
    return some (← settings.setupEvent now id component platform)

/-- A replica that has not been started, with what is told about its setup. `id` says whose
telemetry it is. `refusal` is why connections are refused to the settings. Unless something else is
said, those for polls are set up as the settings say, and the lines of streams are opened by
somebody who takes any settings. -/
def create (settings : Settings) (store : σ) (probe : HealthProbe) (setup : Option Json.Value)
    (id : Json.Value) (now : Millis)
    (refusal : Option SettingFault := if settings.streams then none else settings.http.refusal?) :
    Replica σ :=
  let watched : WatchedStore σ :=
    { inner := store
      watched := probe.isWatched
      feed := .create (some healthDispatcher) }
  let gateway := Gateway.create watched (some statusDispatcher) now
  { settings
    refusal
    setup
    telemetry := if settings.withoutDiagnostics then none else some { id, since := now }
    source := .idle { gateway with journal := settings.validate } }

/-- The gateway of the replica. -/
def gateway (r : Replica σ) : Gateway (WatchedStore σ) :=
  r.source.gateway

/-- The store under watch. -/
def store (r : Replica σ) : WatchedStore σ :=
  r.gateway.store

/-- The replica with a changed gateway. -/
def mapGateway (r : Replica σ)
    (f : Gateway (WatchedStore σ) → Gateway (WatchedStore σ)) : Replica σ :=
  { r with source := r.source.withGateway (f r.gateway) }

/-- The replica after its store has changed and something was reported on the way. -/
def withStore (r : Replica σ) (notices : List Notice) (store : WatchedStore σ) : Replica σ :=
  r.mapGateway fun g => { g with store, journal := g.journal ++ notices }

/-- The attempts to connect that have been recorded, unless the settings forbid telemetry. -/
def attempts? (r : Replica σ) : Option (List Attempt) :=
  let telemetry := match r.source with
    | .streaming s => s.telemetry
    | _ => r.telemetry
  telemetry.map (·.attempts)

/-! ## Starting and stopping -/

/-- The source that the settings ask for, if they are fit for one. That connections are refused is
found out when a fetcher is made, but for a stream only when its line is opened. -/
def makeSource (r : Replica σ) : Except SettingFault (Source (WatchedStore σ)) := do
  if r.settings.streams then
    return .streaming {
      gateway := r.gateway
      uri := ← r.settings.streamAddress
      telemetry := r.telemetry
      refusal := r.refusal.map .badSetting
      healthWatched := some r.store.watched }
  else
    return .polling {
      gateway := r.gateway
      interval := r.settings.pollInterval
      fetcher := ← Fetcher.create r.settings r.refusal }

/-- Starts the replica. Once a call has given away the signal of a source the others do nothing. -/
def start (r : Replica σ) : Except Fault Unit × Replica σ :=
  match r.source.readiness? with
  | some _ => (.ok (), r.mapGateway (·.note .startedAgain))
  | none =>
    match r.makeSource with
    | .error fault => (.error (.badSetting fault), r)
    | .ok source =>
      let (result, source) := source.start
      (result, { r with source })

/-- Stops the source and the watch over the store, and ends the dispatchers. -/
def stop (r : Replica σ) : Replica σ :=
  let r := { r with source := r.source.stop }
  r.mapGateway fun g =>
    let store := g.store.stop
    { g with
      store := { store with feed := { store.feed with audience := store.feed.audience.close } }
      audience := g.audience.close }

/-! ## What reaches the replica -/

/-- The line of a streaming source delivers something. `none` if nobody is there to take it. -/
def deliver [Repository σ] (r : Replica σ) (d : Delivered) : Option (Replica σ) :=
  match r.source with
  | .streaming s => (s.deliver d).map fun s => { r with source := .streaming s }
  | _ => none

/-- A fetch of a polling source has an outcome. `none` if no fetch is under way. -/
def poll [Repository σ] (r : Replica σ) (fetched : Except Fault Payload) : Option (Replica σ) :=
  match r.source with
  | .polling s => if s.fetching then some { r with source := .polling (s.poll fetched) } else none
  | _ => none

/-- A watcher has its answer about the store. `none` if no question is open. -/
def check (r : Replica σ) (reply : Except Fault Json.Value) : Option (Replica σ) :=
  (r.store.hear reply).map fun (notices, store) => r.withStore notices store

/-! ## Reading -/

/-- Looks up an item. -/
def get [Repository σ] (r : Replica σ) (kind : Kind) (key : Text) :
    Except Fault (Option Descriptor) × Replica σ :=
  let reply := Repository.get r.store kind key
  (reply.result, r.withStore reply.notices reply.state)

/-- Looks up all items of a kind. -/
def all [Repository σ] (r : Replica σ) (kind : Kind) : Except Fault Collection × Replica σ :=
  let reply := Repository.all r.store kind
  (reply.result, r.withStore reply.notices reply.state)

/-! ## The dispatchers -/

/-- The dispatchers deliver what waits: first the health of the store, which the source hears too,
then the statuses. -/
def settle (r : Replica σ) : Replica σ :=
  let published := r.store.feed.audience.queue
  let source := published.foldl (fun source h => source.hearPublished h) r.source
  { r with source }.mapGateway fun g =>
    let (notices, audience) := g.store.feed.audience.settle.takeNotices
    { g with
      store := { g.store with feed := { g.store.feed with audience } }
      journal := g.journal ++ notices }.settle

end Replica

end FlagReplica
