import FlagReplica.Fetcher
import FlagReplica.Readiness
import FlagReplica.Status.Gateway

/-!
# The polling source

Keeps a store in step by fetching the full data set again and again. Fetches never overlap: the next
one is due only when the outcome of the one before has been dealt with. Only an answer which says
that the credentials will never be accepted ends the polling; after every other failure it goes on.

As with a stream, a write takes time, and the source can be stopped meanwhile: `receive` decodes the
outcome of a fetch and begins the write, `write` ends it and draws the conclusions.
-/

namespace FlagReplica

/-- A polling source. -/
structure PollSource (σ : Type) where
  gateway : Gateway σ
  /-- Seconds between polls. -/
  interval : Number
  fetcher : Fetcher
  readiness : Readiness := .pending
  /-- Whether somebody asked for a start. -/
  started : Bool := false
  /-- Whether the work was set going, which can be done once. -/
  begun : Bool := false
  stopped : Bool := false
  /-- Whether a fetch has begun whose outcome is not known yet. -/
  fetching : Bool := false
  /-- How many fetches have begun. -/
  fetches : Nat := 0
  /-- The full data set that is being written. -/
  writing : Option DataSet := none

namespace PollSource

variable {σ : Type}

/-! ## Parts of the work -/

/-- Records a notice. -/
def note (s : PollSource σ) (n : Notice) : PollSource σ :=
  { s with gateway := s.gateway.note n }

/-- Reports a status. -/
def report (s : PollSource σ) (state : SyncState) (failure? : Option Failure) : PollSource σ :=
  { s with gateway := (s.gateway.report state failure?).2 }

/-- Whether a full data set has been stored. -/
def initialized (s : PollSource σ) : Bool :=
  s.readiness.success? = some true

/-- Whether the source was started and not stopped. -/
def isAlive (s : PollSource σ) : Bool :=
  s.started && !s.stopped

/-- The next fetch begins, unless the source was stopped. -/
def fetchNext (s : PollSource σ) : PollSource σ :=
  if s.stopped then { s with fetching := false }
  else { s with fetching := true, fetches := s.fetches + 1 }

/-- Stops for good, because of a failure or because of nothing. -/
def stopWith (s : PollSource σ) (failure? : Option Failure) : PollSource σ :=
  let s := if s.stopped then s else { s.note .pollStopping with stopped := true }
  { s.report .off failure? with readiness := (s.readiness.resolve false).2 }

/-! ## Starting and stopping -/

/-- Sets the work going, which can be done once. -/
def start (s : PollSource σ) : Except Fault Unit × PollSource σ :=
  let s := { s.note (.pollStarting s.interval) with started := true }
  if s.begun then (.error .alreadyStarted, s) else (.ok (), { s with begun := true }.fetchNext)

/-- Stops the source. -/
def stop (s : PollSource σ) : PollSource σ :=
  s.stopWith none

/-! ## Outcomes of a fetch -/

/-- Reports a failure, unless the source was stopped. -/
def interrupted (s : PollSource σ) (fault : Fault) : PollSource σ :=
  if s.stopped then s else s.report .interrupted (some (.ofFault fault))

/-- A poll failed. A failed write has been reported already. -/
def pollFailed (s : PollSource σ) (fault : Fault) : PollSource σ :=
  match fault with
  | .fetchRejected status =>
    if !Rejection.isRecoverable status then
      (s.note (.pollRejected status)).stopWith (some (.ofFault fault))
    else if s.stopped then s
    else (s.note (.pollRejected status)).interrupted fault
  | .storeUpdate _ _ => s.note (.pollNotStored fault)
  | .invalidData _ => (s.note (.pollInvalid fault)).interrupted fault
  | _ => (s.note (.pollFailed fault)).interrupted fault

/-- A full data set has been stored, which counts for nothing if the source was stopped
meanwhile. -/
def dataStored (s : PollSource σ) : PollSource σ :=
  if s.stopped then s
  else
    let s := s.report .valid none
    let (first, readiness) := s.readiness.resolve true
    let s := { s with readiness }
    if first then s.note .pollReady else s

/-- Decodes what was fetched and begins to write it. What cannot be decoded is a failed poll, and so
is a failed fetch. -/
def receive (s : PollSource σ) (fetched : Except Fault Payload) : PollSource σ :=
  match fetched.bind Payload.toDataSet with
  | .ok data => { s with writing := some data }
  | .error fault => (s.pollFailed fault).fetchNext

/-- Ends the write that has begun, if one has. -/
def write [Repository σ] (s : PollSource σ) : PollSource σ :=
  match s.writing with
  | none => s
  | some data =>
    let written := s.gateway.write (.replace data)
    let s := { s with writing := none, gateway := written.gateway }
    let s := match written.result with
      | .ok _ => s.dataStored
      | .error fault => s.pollFailed fault
    s.fetchNext

/-- Deals with the outcome of a fetch from beginning to end. -/
def poll [Repository σ] (s : PollSource σ) (fetched : Except Fault Payload) : PollSource σ :=
  (s.receive fetched).write

/-- What the server's answer brings, with the memory of its tag. -/
def fetch (s : PollSource σ) (answer : Response) : Except Fault Payload × PollSource σ :=
  let (fetched, fetcher) := s.fetcher.receive answer
  (fetched.map .value, { s with fetcher })

end PollSource

end FlagReplica
