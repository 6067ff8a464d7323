import FlagReplica.Proofs.Stream.Writing
import FlagReplica.Replica

/-!
# Runs of a replica, step by step

The parts of a replica work side by side: the worker of a stream, readers, the watcher of the store,
and the dispatchers. A write is taken apart here, so that the others may come in between: the store
has answered before a refusal is reported, and that is reported before the source learns of it. News
about the store's health waits for the dispatcher and reaches the source one by one. `Run.write` and
`Run.deliver` say that what a stream does in one go is a run of such steps, and `Run.settle` says so
of the dispatchers.
-/

namespace FlagReplica

variable {σ : Type}

namespace Source

/-- Whether the source is a stream that runs. -/
def running : Source σ → Bool
  | streaming s => s.running
  | _ => false

/-- How often the line of the source was broken off. -/
def interrupts : Source σ → Nat
  | streaming s => s.line.interrupts
  | _ => 0

/-- The source when its line has chosen another delay. -/
def withDelay (delay : Millis) : Source σ → Source σ
  | streaming s => streaming { s with line := { s.line with retryDelay := delay } }
  | source => source

section Fields

variable (source : Source σ) (g : Gateway σ) (delay : Millis)

@[simp] theorem withGateway_gateway : (source.withGateway g).gateway = g := by
  cases source <;> rfl

@[simp] theorem withGateway_interrupts :
    (source.withGateway g).interrupts = source.interrupts := by
  cases source <;> rfl

@[simp] theorem withDelay_gateway : (source.withDelay delay).gateway = source.gateway := by
  cases source <;> rfl

@[simp] theorem withDelay_interrupts :
    (source.withDelay delay).interrupts = source.interrupts := by
  cases source <;> rfl

end Fields

end Source

/-- The audience when everybody has heard a value, with `queue` what goes on waiting. -/
def Audience.pass {ν : Type} (a : Audience ν) (value : ν) (queue : List ν) : Audience ν :=
  { a with queue, heard := a.heard ++ a.registered.map fun name => (name, value) }

namespace Replica

/-- The replica with another source. -/
def withSource (r : Replica σ) (source : Source (WatchedStore σ)) : Replica σ :=
  { r with source }

/-- The replica with other listeners of the store's health. -/
def withListeners (r : Replica σ) (listeners : Audience Health) : Replica σ :=
  r.mapGateway fun g =>
    { g with store := { g.store with feed := { g.store.feed with audience := listeners } } }

/-- The dispatcher delivers a health to the source and to everybody who is registered, and the rest
of the queue goes on waiting. -/
def tell (r : Replica σ) (health : Health) (queue : List Health) : Replica σ :=
  (r.withSource (r.source.hearPublished health)).withListeners
    (r.store.feed.audience.pass health queue)

/-- Time has passed: the store within, the listeners, what was noted and the delay of the line may
be others now. -/
def elapse (r : Replica σ) (inner : σ) (now delay : Millis) (journal : List Notice)
    (statuses : Audience Status) (listeners : Audience Health) : Replica σ :=
  { r with source := r.source.withDelay delay }.mapGateway fun g =>
    { g with
      store := { g.store with inner, feed := { g.store.feed with audience := listeners } }
      audience := statuses
      journal
      now }

/-- Other listeners are all that is different about the store. -/
theorem store_withListeners (r : Replica σ) (listeners : Audience Health) :
    (r.withListeners listeners).store =
      { r.store with feed := { r.store.feed with audience := listeners } } := by
  rw [store, gateway, withListeners, mapGateway, Source.withGateway_gateway]
  rfl

/-- The stream that a replica makes of itself. -/
def newStream (r : Replica σ) (uri : Text) : StreamSource (WatchedStore σ) :=
  { gateway := r.gateway
    uri
    telemetry := r.telemetry
    refusal := r.refusal.map .badSetting
    healthWatched := some r.store.watched }

/-- Its line is opened unless connections are refused. -/
theorem start_newStream (r : Replica σ) (uri : Text) :
    (Source.streaming (r.newStream uri)).start.2 =
      if r.refusal.isSome then .refused (r.newStream uri).start.2
      else .streaming (r.newStream uri).start.2 := by
  simp [Source.start, newStream]

/-- Nothing comes of a start that finds the settings unfit for a source. -/
theorem start_of_unmakable {r : Replica σ} (h : r.source.readiness? = none) {fault : SettingFault}
    (hmake : r.makeSource = .error fault) : r.start = (.error (.badSetting fault), r) := by
  simp only [start, h, hmake]

/-- Any other start makes a source and starts it, as long as none has been started before. -/
theorem start_of_makable {r : Replica σ} (h : r.source.readiness? = none)
    {source : Source (WatchedStore σ)} (hmake : r.makeSource = .ok source) :
    r.start = (source.start.1, r.withSource source.start.2) := by
  simp only [start, h, hmake]
  rfl

/-- Every other start is only noted. -/
theorem start_of_made {r : Replica σ} (made : r.source.readiness?.isSome = true) :
    r.start = (.ok (), r.mapGateway (·.note .startedAgain)) := by
  rcases Option.isSome_iff_exists.1 made with ⟨signal, hsignal⟩
  simp only [start, hsignal]

/-- Where the settings ask for a stream, a start makes one if they are fit for it. -/
theorem start_of_streams {r : Replica σ} (h : r.source.readiness? = none)
    (hstreams : r.settings.streams = true) :
    r.start.2 = r ∨
      ∃ uri, r.start.2 = r.withSource (Source.streaming (r.newStream uri)).start.2 := by
  cases haddress : r.settings.streamAddress with
  | error fault =>
    have hmake : r.makeSource = .error fault := by
      simp only [makeSource, hstreams, if_true, haddress]
      rfl
    rw [start_of_unmakable h hmake]
    exact .inl rfl
  | ok uri =>
    have hmake : r.makeSource = .ok (.streaming (r.newStream uri)) := by
      simp only [makeSource, hstreams, if_true, haddress]
      rfl
    rw [start_of_makable h hmake]
    exact .inr ⟨uri, rfl⟩

end Replica

/-! ## Stages -/

/-- How far the write has come that is under way, if one is. -/
inductive Progress where
  /-- The store has not been asked yet. -/
  | waiting
  /-- The store has answered. -/
  | answered (answer : Except Fault Bool)
  /-- A refusal has been reported, and the source has yet to learn of the answer. -/
  | reported (answer : Except Fault Bool)

/-- A replica and how far its write has come. -/
structure Stage (σ : Type) where
  replica : Replica σ
  progress : Progress := .waiting

namespace Stage

/-- What happens to a replica. -/
inductive Happening where
  | started
  | stopped
  /-- The worker takes what the line delivers. -/
  | taken (d : Delivered)
  /-- The store answers a write. -/
  | answered (answer : Except Fault Bool)
  /-- The gateway reports the refusal of a write, if it was refused. -/
  | reported
  /-- The source draws its conclusions from the answer to a write. -/
  | concluded (answer : Except Fault Bool)
  /-- A reader is answered or refused. -/
  | read (answered : Bool)
  /-- A watcher has its answer. -/
  | checked (reply : Except Fault Json.Value)
  /-- The dispatcher delivers a health. -/
  | told (health : Health)
  | elapsed

/-- One happening. -/
inductive Step [Repository σ] : Stage σ → Happening → Stage σ → Prop where
  | start (st : Stage σ) : Step st .started { st with replica := st.replica.start.2 }
  | stop (st : Stage σ) : Step st .stopped { st with replica := st.replica.stop }
  | take {st : Stage σ} {s s' : StreamSource (WatchedStore σ)} {d : Delivered}
      (streams : st.replica.source = .streaming s) (idle : s.writing = none)
      (accepted : s.accept d = some s') :
      Step st (.taken d) { st with replica := st.replica.withSource (.streaming s') }
  | answer {st : Stage σ} {s : StreamSource (WatchedStore σ)} {c : Change}
      (streams : st.replica.source = .streaming s) (writing : s.writing = some c)
      (progress : st.progress = .waiting) :
      Step st (.answered (Gateway.request s.gateway.store c).result)
        ⟨st.replica.withSource (.streaming (s.asking c)),
          .answered (Gateway.request s.gateway.store c).result⟩
  | report {st : Stage σ} {s : StreamSource (WatchedStore σ)} {answer : Except Fault Bool}
      (streams : st.replica.source = .streaming s) (progress : st.progress = .answered answer) :
      Step st .reported
        ⟨st.replica.withSource (.streaming (s.reporting answer)), .reported answer⟩
  | conclude {st : Stage σ} {s : StreamSource (WatchedStore σ)} {c : Change}
      {answer : Except Fault Bool} (streams : st.replica.source = .streaming s)
      (writing : s.writing = some c) (progress : st.progress = .reported answer) :
      Step st (.concluded answer)
        ⟨st.replica.withSource (.streaming (s.concluding c answer)), .waiting⟩
  | get (st : Stage σ) (kind : Kind) (key : Text) :
      Step st (.read (st.replica.get kind key).1.isOk)
        { st with replica := (st.replica.get kind key).2 }
  | all (st : Stage σ) (kind : Kind) :
      Step st (.read (st.replica.all kind).1.isOk) { st with replica := (st.replica.all kind).2 }
  | check {st : Stage σ} {reply : Except Fault Json.Value} {r : Replica σ}
      (checked : st.replica.check reply = some r) :
      Step st (.checked reply) { st with replica := r }
  | tell {st : Stage σ} {health : Health} {queue : List Health}
      (waits : st.replica.store.feed.audience.queue = health :: queue) :
      Step st (.told health) { st with replica := st.replica.tell health queue }
  | elapse (st : Stage σ) (inner : σ) (now delay : Millis) (journal : List Notice)
      (statuses : Audience Status) (listeners : Audience Health)
      (queue : listeners.queue = st.replica.store.feed.audience.queue)
      (dispatcher : listeners.dispatcher = st.replica.store.feed.audience.dispatcher) :
      Step st .elapsed
        { st with replica := st.replica.elapse inner now delay journal statuses listeners }

/-- Happenings one after another, the latest at the end, each with whether the source was running
when it came. -/
inductive Run [Repository σ] (st : Stage σ) : List (Bool × Happening) → Stage σ → Prop where
  | nil : Run st [] st
  | snoc {past : List (Bool × Happening)} {st' st'' : Stage σ} {a : Happening}
      (run : Run st past st') (step : Step st' a st'') :
      Run st (past ++ [(st'.replica.source.running, a)]) st''

namespace Run

variable [Repository σ] {st st' st'' : Stage σ}

/-- A run goes on with another. -/
theorem trans {past later : List (Bool × Happening)} (h : Run st past st')
    (h' : Run st' later st'') : Run st (past ++ later) st'' := by
  induction h' with
  | nil =>
    rw [List.append_nil]
    exact h
  | snoc _ step ih =>
    rw [← List.append_assoc]
    exact ih.snoc step

/-- A write in one go is a run: the store answers, the gateway reports, the source concludes. -/
theorem write {r : Replica σ} {s : StreamSource (WatchedStore σ)}
    (hstreams : r.source = .streaming s) (hn : s.stopsUpon = none) :
    ∃ past, Run ⟨r, .waiting⟩ past ⟨r.withSource (.streaming s.write.2), .waiting⟩ := by
  cases hw : s.writing with
  | none =>
    have hsame : r.withSource (.streaming s.write.2) = r := by
      rw [StreamSource.write_of_idle hw, ← hstreams]
      rfl
    rw [hsame]
    exact ⟨[], .nil⟩
  | some c =>
    have hasked := (show Run ⟨r, .waiting⟩ [] _ from .nil).snoc (.answer hstreams hw rfl)
    have hreported := hasked.snoc (.report rfl rfl)
    have hasking : (s.asking c).stopsUpon = none := hn
    have hwriting : ((s.asking c).reporting
        (Gateway.request s.gateway.store c).result).writing = some c :=
      (StreamSource.reporting_writing hasking _).trans hw
    have hconcluded := hreported.snoc (.conclude rfl hwriting rfl)
    rw [StreamSource.write_parts hw hn rfl]
    exact ⟨_, hconcluded⟩

/-- So is a delivery that is handled in one go. -/
theorem deliver {r r' : Replica σ} {s : StreamSource (WatchedStore σ)} {d : Delivered}
    (hstreams : r.source = .streaming s) (hidle : s.writing = none) (hs : s.Sound) (hl : s.Linked)
    (h : r.deliver d = some r') : ∃ past, Run ⟨r, .waiting⟩ past ⟨r', .waiting⟩ := by
  have hdelivered : (s.deliver d).map (fun s => r.withSource (.streaming s)) = some r' := by
    rw [← h, Replica.deliver, hstreams]
    rfl
  cases haccept : s.accept d with
  | none =>
    rw [StreamSource.deliver, haccept] at hdelivered
    exact absurd hdelivered (by simp)
  | some s' =>
    rw [StreamSource.deliver, haccept] at hdelivered
    have hsound : s'.Sound := (StreamSource.Works.accept hs hl haccept).sound
    have htaken := (show Run ⟨r, .waiting⟩ [] _ from .nil).snoc (.take hstreams hidle haccept)
    rcases write (r := r.withSource (.streaming s')) rfl hsound.stopsUpon with ⟨past, hwritten⟩
    rw [← Option.some.inj hdelivered]
    exact ⟨_, htaken.trans hwritten⟩

end Run

end Stage

end FlagReplica
