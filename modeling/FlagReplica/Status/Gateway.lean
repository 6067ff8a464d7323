import FlagReplica.Audience
import FlagReplica.Change.Basic
import FlagReplica.Status.Basic
import FlagReplica.Store.Repository

/-!
# The gateway

The one place where a source writes to its store and reports its status. A report first assigns the
status and then tells the listeners; the two are separate steps here, because another report can
come between them. A write that fails is reported as an interruption by the gateway itself, before
the source learns of it.
-/

namespace FlagReplica

/-- A store with the status of the source that writes to it, and those who hear of changes of the
status. -/
structure Gateway (σ : Type) where
  store : σ
  status : Status
  audience : Audience Status
  /-- How many failures have been recorded. -/
  failures : Nat := 0
  /-- What has been reported, in order. -/
  journal : List Notice := []
  now : Millis

/-- How a write went: whether it changed the store, the status that was announced on its account, if
any, and what the gateway has become. -/
structure Written (σ : Type) where
  result : Except Fault Bool
  announced : Option Status
  gateway : Gateway σ

namespace Gateway

variable {σ : Type}

/-- The gateway of a source that has done nothing yet. -/
def create (store : σ) (dispatcher : Option Text) (now : Millis) : Gateway σ :=
  { store
    status := ⟨.initializing, now, none⟩
    audience := { typeName := fun _ => "DataSourceStatus", dispatcher }
    now }

/-- Records a notice. -/
def note (g : Gateway σ) (n : Notice) : Gateway σ :=
  { g with journal := g.journal ++ [n] }

/-! ## Status -/

/-- Puts a failure on record: it gets the next serial number and the present time. -/
def record (g : Gateway σ) (failure : Failure) : ErrorRecord :=
  ⟨g.failures, failure, g.now⟩

/-- Assigns the status that a state and perhaps a new record lead to, and gives it out if it is a
change. -/
def assign (g : Gateway σ) (state : SyncState) (error? : Option ErrorRecord) :
    Option Status × Gateway σ :=
  match g.status.next state error? g.now with
  | none => (none, g)
  | some status =>
    (some status,
      { g with status, failures := if error?.isSome then g.failures + 1 else g.failures })

/-- Tells the listeners of a status. -/
def broadcast (g : Gateway σ) (status : Status) : Gateway σ :=
  let (notices, audience) := (g.audience.tell status).takeNotices
  { g with audience, journal := g.journal ++ notices }

/-- Assigns a status and tells the listeners of it, with nothing in between. -/
def update (g : Gateway σ) (state : SyncState) (error? : Option ErrorRecord) :
    Option Status × Gateway σ :=
  match g.assign state error? with
  | (some status, g) => (some status, g.broadcast status)
  | (none, g) => (none, g)

/-- Reports a state and perhaps a failure, which is put on record now. -/
def report (g : Gateway σ) (state : SyncState) (failure? : Option Failure) :
    Option Status × Gateway σ :=
  g.update state (failure?.map g.record)

/-- Delivers what waits for the dispatcher. -/
def settle (g : Gateway σ) : Gateway σ :=
  let (notices, audience) := g.audience.settle.takeNotices
  { g with audience, journal := g.journal ++ notices }

/-! ## Writing -/

/-- Writes a change to a store. A full data set always changes it. -/
def request [Repository σ] (store : σ) : Change → Reply σ Bool
  | .replace data =>
    let reply := Repository.init store data
    ⟨reply.result.map fun _ => true, reply.state, reply.notices⟩
  | .upsert kind key d => Repository.upsert store kind key d

/-- Writes a change. If the store fails, that is recorded and reported. -/
def write [Repository σ] (g : Gateway σ) (c : Change) : Written σ :=
  let reply := request g.store c
  let g := { g with store := reply.state, journal := g.journal ++ reply.notices }
  match reply.result with
  | .ok changed => ⟨.ok changed, none, g⟩
  | .error fault =>
    let (announced, g) :=
      (g.note (.storeFailed fault)).report .interrupted (some ⟨.store, 0, some fault.text⟩)
    ⟨.error (.storeUpdate fault.text (some fault)), announced, g⟩

/-- Does what a message asks for. -/
def apply [Repository σ] (g : Gateway σ) : Reading → Written σ
  | .change c => g.write c
  | .skip m path => ⟨.ok false, none, g.note (.unknownPath m path)⟩

end Gateway

end FlagReplica
