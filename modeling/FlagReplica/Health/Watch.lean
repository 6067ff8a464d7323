import FlagReplica.Health.Feed
import FlagReplica.Store.Repository
import FlagReplica.DataSet.Order

/-!
# A store under watch

A repository around another one. It hands full data sets over in writing order, and it turns
failures into published health: the first request that fails marks an outage and sets a watcher,
which asks again and again whether the store is available and marks the recovery once it is. Only a
store that can tell its health is watched.

The flag that tells whether the store counts as available, the published health and the current
watcher are changed one after another, so each change is a function of its own here: `lapse` and
`setWatcher` make up an outage, `revive` and `dismiss` a recovery.
-/

namespace FlagReplica

/-- What a store offers for its health to be watched: a method that says whether it wants that, and
one that says whether it is available. The first is absent or gives an answer. -/
structure HealthProbe where
  wantsWatch : Option Bool
  tellsAvailability : Bool

/-- Whether a store is watched: it has to offer both methods, and the first has to say so. -/
def HealthProbe.isWatched (p : HealthProbe) : Bool :=
  p.tellsAvailability && p.wantsWatch = some true

/-- Somebody who asks whether the store is available. While it exists, a question of its is
unanswered; it ends with the first answer after it was stopped. -/
structure Watcher where
  id : Nat
  stopped : Bool
deriving DecidableEq

/-- Milliseconds from one question of a watcher to its next. -/
def healthCheckInterval : Nat := 500

/-- A store under watch. -/
structure WatchedStore (σ : Type) where
  inner : σ
  watched : Bool
  /-- Whether a store that comes back counts as stale. -/
  staleOnRecovery : Bool := true
  available : Bool := true
  /-- The watcher that a recovery stops. -/
  current : Option Nat := none
  watchers : List Watcher := []
  watchersSet : Nat := 0
  feed : HealthFeed

namespace WatchedStore

variable {σ : Type}

/-- Marks the store as unavailable and publishes that. -/
def lapse (w : WatchedStore σ) : WatchedStore σ :=
  { w with available := false, feed := w.feed.publish ⟨false, false⟩ }

/-- Sets a new watcher, which asks at once. -/
def setWatcher (w : WatchedStore σ) : WatchedStore σ :=
  { w with
    current := some w.watchersSet
    watchers := w.watchers ++ [⟨w.watchersSet, false⟩]
    watchersSet := w.watchersSet + 1 }

/-- Marks the store as available and publishes that. -/
def revive (w : WatchedStore σ) : WatchedStore σ :=
  { w with available := true, feed := w.feed.publish ⟨true, w.staleOnRecovery⟩ }

/-- Stops the current watcher, if there is one. -/
def dismiss (w : WatchedStore σ) : WatchedStore σ :=
  { w with
    current := none
    watchers := w.watchers.map fun watcher =>
      if w.current = some watcher.id then { watcher with stopped := true } else watcher }

/-- Stops the watch from outside. -/
def stop (w : WatchedStore σ) : WatchedStore σ :=
  w.dismiss

/-- Takes note of a failed request. -/
def onFailure (w : WatchedStore σ) : List Notice × WatchedStore σ :=
  if w.watched && w.available then ([.storeLost], w.lapse.setWatcher) else ([], w)

/-- Takes note of a store that is available again. -/
def onRecovery (w : WatchedStore σ) : List Notice × WatchedStore σ :=
  if w.available then ([], w) else ([.storeRecovered], w.revive.dismiss)

/-- A watcher ends if it has been stopped; else it asks again. -/
def release (w : WatchedStore σ) (id : Nat) : WatchedStore σ :=
  { w with watchers := w.watchers.filter fun watcher => !(watcher.id == id && watcher.stopped) }

/-- A watcher has its answer: a value that counts as yes or as no, or a failure to tell. -/
def answer (w : WatchedStore σ) (id : Nat) (reply : Except Fault Json.Value) :
    List Notice × WatchedStore σ :=
  let (notices, w) := match reply with
    | .ok v => if v.isTruthy then w.onRecovery else ([], w)
    | .error fault => ([.checkFailed fault], w)
  (notices, w.release id)

/-- Whether a watcher waits for an answer. -/
def isChecking (w : WatchedStore σ) : Bool :=
  !w.watchers.isEmpty

/-- The watcher that has waited longest has its answer. `none` if nobody waits for one. -/
def hear (w : WatchedStore σ) (reply : Except Fault Json.Value) :
    Option (List Notice × WatchedStore σ) :=
  match w.watchers with
  | [] => none
  | watcher :: _ => some (w.answer watcher.id reply)

/-- Passes a reply on, taking note of a failure. -/
def passOn {α : Type} (w : WatchedStore σ) (reply : Reply σ α) : Reply (WatchedStore σ) α :=
  let w := { w with inner := reply.state }
  match reply.result with
  | .ok a => ⟨.ok a, w, reply.notices⟩
  | .error fault =>
    let (notices, w) := w.onFailure
    ⟨.error fault, w, reply.notices ++ notices⟩

instance [Repository σ] : Repository (WatchedStore σ) where
  init w data := w.passOn (Repository.init w.inner data.arranged)
  upsert w kind key d := w.passOn (Repository.upsert w.inner kind key d)
  get w kind key := w.passOn (Repository.get w.inner kind key)
  all w kind := w.passOn (Repository.all w.inner kind)
  initialized w := Repository.initialized w.inner

end WatchedStore

end FlagReplica
