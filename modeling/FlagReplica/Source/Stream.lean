import FlagReplica.Health.Feed
import FlagReplica.Readiness
import FlagReplica.Source.Line
import FlagReplica.Status.Gateway
import FlagReplica.Telemetry

/-!
# The streaming source

Keeps a store in step from a stream of events, handled one at a time. Reconnecting is the line's
work. The source decides whether a connection error is worth retrying, and has the line reconnect
when what was applied can no longer be trusted: after invalid data, after a failed write, and when
the store comes back from an outage stale.

A write takes time, and the source can be stopped meanwhile. So an event is handled in two steps:
`receive` decodes it and begins the write, `write` ends the write and draws the conclusions. What
happens in between is up to the caller.
-/

namespace FlagReplica

/-- The worker that handles what the line delivers. -/
inductive Worker where
  | unstarted
  | running
  | ended
deriving DecidableEq

/-- A streaming source. -/
structure StreamSource (σ : Type) where
  gateway : Gateway σ
  uri : Text
  telemetry : Option Telemetry := none
  readiness : Readiness := .pending
  /-- Whether it was started and not stopped since. -/
  running : Bool := false
  worker : Worker := .unstarted
  line : Line := {}
  /-- Why the line cannot be opened, if it cannot. -/
  refusal : Option Fault := none
  /-- When the present attempt to connect began, until it is known how the attempt went. -/
  attemptStart : Option Millis := none
  /-- Whether the store's health can be heard of; `none` if nobody could tell. -/
  healthWatched : Option Bool := none
  /-- How many times the source is registered to hear of the store's health. -/
  subscriptions : Nat := 0
  /-- The change that is being written. -/
  writing : Option Change := none
  /-- The state whose announcement moves a listener to stop the source, once. -/
  stopsUpon : Option SyncState := none

namespace StreamSource

variable {σ : Type}

/-! ## Parts of the work -/

/-- Records a notice. -/
def note (s : StreamSource σ) (n : Notice) : StreamSource σ :=
  { s with gateway := s.gateway.note n }

/-- Whether a full data set has been stored. -/
def initialized (s : StreamSource σ) : Bool :=
  s.readiness.success? = some true

/-- The worker ends, if there is one, and closes the line. -/
def endWorker (s : StreamSource σ) : StreamSource σ :=
  if s.worker = .running then { s with worker := .ended, line := s.line.close } else s

/-- A worker that writes nothing ends if the line will deliver nothing more. -/
def settle (s : StreamSource σ) : StreamSource σ :=
  if s.line.phase = .closed ∧ s.writing.isNone then s.endWorker else s

/-- Stops for good, because of a failure or because of nothing. -/
def stopWith (s : StreamSource σ) (failure? : Option Failure) : StreamSource σ :=
  let s :=
    if s.running then
      { s.note .streamStopping with
        running := false
        subscriptions := s.subscriptions - 1
        line := if s.line.address.isSome then s.line.close else s.line }
    else s
  let (announced, gateway) := s.gateway.report .off failure?
  let s := { s with
    gateway
    readiness := (s.readiness.resolve false).2
    stopsUpon := if announced.isSome ∧ s.stopsUpon = some SyncState.off then none else s.stopsUpon }
  s.settle

/-- A listener who has been waiting for the announced state stops the source. -/
def heed (s : StreamSource σ) : Option Status → StreamSource σ
  | none => s
  | some announced =>
    if s.stopsUpon = some announced.state then { s with stopsUpon := none }.stopWith none else s

/-- Reports a status. -/
def report (s : StreamSource σ) (state : SyncState) (failure? : Option Failure) :
    StreamSource σ :=
  let (announced, gateway) := s.gateway.report state failure?
  { s with gateway }.heed announced

/-- Records how the present attempt to connect went, if that is not known yet. -/
def recordAttempt (s : StreamSource σ) (failed : Bool) : StreamSource σ :=
  let now := s.gateway.now
  { s with
    attemptStart := none
    telemetry := match s.attemptStart, s.telemetry with
      | some start, some t => some (t.record ⟨start, max (now - start) 0, failed⟩)
      | _, telemetry => telemetry }

/-- Begins a new attempt to connect, after the delay of the line. -/
def beginAttempt (s : StreamSource σ) : Except Fault Unit × StreamSource σ :=
  match s.line.address with
  | none => (.error (.noLine "next_retry_delay"), s)
  | some _ => (.ok (), { s with attemptStart := some (s.gateway.now + s.line.retryDelay) })

/-- Has the line reconnect. -/
def restart (s : StreamSource σ) (isFailure : Bool) : Except Fault Unit × StreamSource σ :=
  if !s.running then (.ok (), s)
  else
    let s := if isFailure then s.recordAttempt true else s
    match s.line.address with
    | none => (.error (.noLine "interrupt"), s)
    | some _ => { s with line := s.line.interrupt }.beginAttempt

/-! ## Starting and stopping -/

/-- Opens the line, registers for the store's health where it is watched, and sets the worker to
work, which can be done once. What comes before a failure stays done. -/
def start (s : StreamSource σ) : Except Fault Unit × StreamSource σ :=
  let s := { s.note (.streamStarting s.uri) with
    running := true
    attemptStart := some s.gateway.now }
  match s.refusal with
  | some fault => (.error fault, s)
  | none =>
    let s := { s with
      line := s.line.openAt s.uri
      subscriptions :=
        if s.healthWatched = some true then s.subscriptions + 1 else s.subscriptions }
    match s.worker with
    | .unstarted => (.ok (), { s with worker := .running })
    | _ => (.error .alreadyStarted, s)

/-- Stops the source. -/
def stop (s : StreamSource σ) : StreamSource σ :=
  s.stopWith none

/-! ## Events -/

/-- An event could not be applied. What a stopped source makes of it does not matter any more. A
failed write has been reported already. -/
def eventFailed (s : StreamSource σ) (fault : Fault) : Except Fault Unit × StreamSource σ :=
  if !s.running then (.ok (), s)
  else match fault with
  | .storeUpdate _ _ => (s.note (.eventNotStored fault)).restart true
  | .invalidData _ =>
    ((s.note (.eventInvalid fault)).report .interrupted (some (.ofFault fault))).restart true
  | _ => ((s.note (.eventFailed fault)).report .interrupted (some (.ofFault fault))).restart true

/-- A full data set has been stored, which counts for nothing if the source was stopped
meanwhile. -/
def dataStored (s : StreamSource σ) : StreamSource σ :=
  if !s.running then s
  else
    let s := (s.recordAttempt false).report .valid none
    let (first, readiness) := s.readiness.resolve true
    let s := { s with readiness }
    if first then s.note .streamReady else s

/-- Decodes an event and begins the write that it asks for, if it asks for one. -/
def receive (s : StreamSource σ) (e : StreamEvent) : Except Fault Unit × StreamSource σ :=
  match Message.ofName? e.name with
  | none => (.ok (), s.note (.eventUnknown e.name))
  | some m =>
    match m.read (.text e.data) with
    | .error fault => s.eventFailed fault
    | .ok (.skip m path) => (.ok (), s.note (.unknownPath m path))
    | .ok (.change c) => (.ok (), { s with writing := some c })

/-- Ends the write that has begun, if one has. -/
def write [Repository σ] (s : StreamSource σ) : Except Fault Unit × StreamSource σ :=
  match s.writing with
  | none => (.ok (), s)
  | some c =>
    let written := s.gateway.write c
    let s := { s with writing := none, gateway := written.gateway }.heed written.announced
    let (result, s) := match written.result, c with
      | .error fault, _ => s.eventFailed fault
      | .ok _, .replace _ => (.ok (), s.dataStored)
      | .ok _, .upsert _ _ _ => (.ok (), s)
    (result, s.settle)

/-! ## Connection errors -/

/-- A connection was lost, and the line will make another. -/
def retry (s : StreamSource σ) (failure : Failure) : Except Fault Bool × StreamSource σ :=
  let (result, s) := (s.report .interrupted (some failure)).beginAttempt
  (result.map fun _ => true, s)

/-- Handles a connection error, and tells whether to go on. Nothing is retried after a stop, nor if
the server will never accept the credentials. -/
def handleError (s : StreamSource σ) (fault : Fault) : Except Fault Bool × StreamSource σ :=
  if !s.running then (.ok false, s)
  else
    let s := s.recordAttempt true
    let failure := Failure.ofFault fault
    match fault with
    | .streamRejected status =>
      let s := s.note (.streamRejected status)
      if Rejection.isRecoverable status then s.retry failure
      else (.ok false, s.stopWith (some failure))
    | _ => (s.note (.connectionFailed fault)).retry failure

/-! ## The worker -/

/-- The worker takes what the line delivers and handles it up to a write. `none` if there is no
worker to take it. -/
def accept (s : StreamSource σ) (d : Delivered) : Option (StreamSource σ) :=
  match s.worker with
  | .running =>
    if !s.running then some s.endWorker
    else
      let s := { s with line := s.line.deliver }
      some <| match d with
        | .event e => (s.receive e).2.settle
        | .lost (some fault) =>
          match s.handleError fault with
          | (.ok true, s) => s.settle
          | (_, s) => s.endWorker
        | .lost none | .comment | .connected => s.settle
  | _ => none

/-- The worker takes what the line delivers and handles it to the end. -/
def deliver [Repository σ] (s : StreamSource σ) (d : Delivered) : Option (StreamSource σ) :=
  (s.accept d).map fun s => s.write.2

/-! ## The store's health -/

/-- The store has become unavailable, or available again. -/
def hearHealth (s : StreamSource σ) (h : Health) : Except Fault Unit × StreamSource σ :=
  if !s.running then (.ok (), s)
  else if !h.available then
    (.ok (), s.report .interrupted (some ⟨.store, 0, some "data store is unavailable"⟩))
  else if h.stale then (s.note .refreshing).restart false
  else (.ok (), s)

/-- The source hears of the store's health, once for each time it is registered. -/
def hearPublished (s : StreamSource σ) (h : Health) : StreamSource σ :=
  (List.range s.subscriptions).foldl (fun s _ => (s.hearHealth h).2) s

end StreamSource

end FlagReplica
