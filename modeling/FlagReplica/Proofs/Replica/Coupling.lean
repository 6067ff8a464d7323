import FlagReplica.Proofs.Audience
import FlagReplica.Proofs.Health.Turns
import FlagReplica.Proofs.Replica.Stage

/-!
# What a replica breaks its line off for

A replica that streams, over a store that is watched, breaks its line off once for every event whose
handling failed while it ran and once for every recovery of its store that it was told of while it
ran, and for nothing else. One failed write is seen by the store's watch, by the gateway and by the
source, and the news of it comes back to the source while it is still concluding; the run lemma
counts each of them once. The invariant is `Coupled`; it ties the number to what has happened.
-/

namespace FlagReplica

variable {σ : Type}

namespace Stage

/-! ## What is counted -/

namespace Happening

/-- The handling of an event fails: it cannot be decoded, or the source learns that the store has
refused it. -/
def failsEvent : Happening → Bool
  | taken d => d.isMisread
  | concluded answer => !answer.isOk
  | _ => false

/-- What is told, if something is. -/
def told? : Happening → Option Health
  | told health => some health
  | _ => none

/-- What a happening tells about the store. -/
def occasion? : Happening → Option WatchedStore.Occasion
  | answered answer => some (.asked answer.isOk)
  | read served => some (.asked served)
  | checked reply => some (.checked reply)
  | _ => none

end Happening

/-- How many events failed while the source ran. -/
def failures (past : List (Bool × Happening)) : Nat :=
  past.countP fun (running, a) => running && a.failsEvent

/-- What the dispatcher delivered, each with whether the source ran then. -/
def told (past : List (Bool × Happening)) : List (Bool × Health) :=
  past.filterMap fun (running, a) => a.told?.map fun health => (running, health)

/-- What the happenings tell about the store. -/
def occasions (past : List (Bool × Happening)) : List WatchedStore.Occasion :=
  past.filterMap fun (_, a) => a.occasion?

/-- How often a store that was unavailable was found available again while the source ran, with
`before` what was told of it first. -/
def recoveries (before : Health) : List (Bool × Health) → Nat
  | [] => 0
  | (running, health) :: rest =>
    (if running && (!before.available && health.available) then 1 else 0) + recoveries health rest

theorem recoveries_concat (before : Health) (deliveries : List (Bool × Health)) (running : Bool)
    (health : Health) :
    recoveries before (deliveries ++ [(running, health)]) =
      recoveries before deliveries +
        if running && (!((deliveries.map Prod.snd).getLast?.getD before).available &&
          health.available) then 1 else 0 := by
  -- the health that was told last moves along the list, so that `before` has to vary
  induction deliveries generalizing before with
  | nil => simp [recoveries]
  | cons d deliveries ih =>
    rcases d with ⟨running', health'⟩
    have hlast : ((health' :: deliveries.map Prod.snd).getLast?.getD before) =
        (deliveries.map Prod.snd).getLast?.getD health' := by
      rw [List.getLast?_cons, Option.getD_some]
    rw [List.cons_append, recoveries, recoveries, ih, List.map_cons, hlast, Nat.add_assoc]

theorem failures_concat (past : List (Bool × Happening)) (running : Bool) (a : Happening) :
    failures (past ++ [(running, a)]) =
      failures past + if running && a.failsEvent then 1 else 0 := by
  rw [failures, List.countP_append, List.countP_singleton]
  rfl

theorem told_concat_of_untold {a : Happening} (h : a.told? = none) (past : List (Bool × Happening))
    (running : Bool) : told (past ++ [(running, a)]) = told past := by
  simp [told, h]

theorem told_concat {a : Happening} {health : Health} (h : a.told? = some health)
    (past : List (Bool × Happening)) (running : Bool) :
    told (past ++ [(running, a)]) = told past ++ [(running, health)] := by
  simp [told, h]

/-- What has been told about the store, after one more happening. -/
theorem tally_concat (past : List (Bool × Happening)) (running : Bool) (a : Happening) :
    WatchedStore.tally (occasions (past ++ [(running, a)])) =
      a.occasion?.elim (WatchedStore.tally (occasions past)) fun occasion =>
        occasion.count (WatchedStore.tally (occasions past)) := by
  cases ha : a.occasion? with
  | none => simp [occasions, ha]
  | some occasion =>
    have hoccasions : occasions (past ++ [(running, a)]) = occasions past ++ [occasion] := by
      simp [occasions, ha]
    rw [hoccasions, WatchedStore.tally_concat]
    rfl

end Stage

/-! ## The source -/

/-- A source that is a stream, or none that was started. One that runs has a line and is registered
for the store's health, once. -/
inductive Source.Wired : Source σ → Prop where
  | idle {g : Gateway σ} (recorded : g.Recorded) : Wired (.idle g)
  | refused {s : StreamSource σ} (sound : s.Sound) : Wired (.refused s)
  | streaming {s : StreamSource σ} (sound : s.Sound) (linked : s.Linked)
      (subscribed : s.Subscribed) : Wired (.streaming s)

namespace Source.Wired

variable {source : Source σ}

/-- There is a stream, or there is nothing that runs, hears of the store's health or has a line that
could be broken off. -/
theorem cases (h : source.Wired) :
    (source.readiness? = none ∧ source.running = false ∧ source.interrupts = 0 ∧
        ∀ health, source.hearPublished health = source) ∨
      ∃ s, source = .streaming s ∧ s.Sound ∧ s.Linked ∧ s.Subscribed := by
  cases h with
  | @idle g recorded => exact Or.inl ⟨rfl, rfl, rfl, fun _ => rfl⟩
  | @refused s sound => exact Or.inl ⟨rfl, rfl, rfl, fun _ => rfl⟩
  | @streaming s sound linked subscribed => exact Or.inr ⟨s, rfl, sound, linked, subscribed⟩

/-- What can be said of a stream that is wired. -/
theorem stream {s : StreamSource σ} (h : source.Wired) (hs : source = .streaming s) :
    s.Sound ∧ s.Linked ∧ s.Subscribed := by
  subst hs
  cases h with
  | streaming sound linked subscribed => exact ⟨sound, linked, subscribed⟩

theorem recorded (h : source.Wired) : source.gateway.Recorded := by
  cases h with
  | idle recorded => exact recorded
  | refused sound => exact sound.recorded
  | streaming sound linked subscribed => exact sound.recorded

/-- Another gateway makes no difference. -/
theorem withGateway (h : source.Wired) {g : Gateway σ} (hg : g.Recorded) :
    (source.withGateway g).Wired := by
  cases h with
  | idle recorded => exact .idle hg
  | refused sound => exact .refused ⟨sound.stopsUpon, sound.address, hg⟩
  | streaming sound linked subscribed =>
    exact .streaming ⟨sound.stopsUpon, sound.address, hg⟩ linked subscribed

theorem withDelay (h : source.Wired) (delay : Millis) : (source.withDelay delay).Wired := by
  cases h with
  | idle recorded => exact .idle recorded
  | refused sound => exact .refused sound
  | streaming sound linked subscribed =>
    exact .streaming ⟨sound.stopsUpon, sound.address, sound.recorded⟩ linked subscribed

/-- A part of a stream's work keeps it wired. -/
theorem works {s s' : StreamSource σ} {n : Nat} (h : (Source.streaming s).Wired)
    (hw : s.Works s' n) : (Source.streaming s').Wired := by
  cases h with
  | streaming sound linked subscribed =>
    exact .streaming hw.sound (hw.linked linked) (hw.subscribed subscribed)

/-- A source that is registered as it ought to be hears of a health once. -/
theorem hearPublished_eq {s : StreamSource σ} (h : s.Subscribed) (health : Health) :
    (Source.streaming s).hearPublished health = .streaming (s.hearHealth health).2 :=
  congrArg Source.streaming (StreamSource.Works.hearPublished_eq h health)

/-- The dispatcher tells the source of a health. A stream that runs breaks its line off if the store
is available again and stale, and only then. -/
theorem hearPublished (h : source.Wired) (health : Health) :
    (source.hearPublished health).Wired ∧
      (source.hearPublished health).gateway.store = source.gateway.store ∧
      (source.hearPublished health).interrupts = source.interrupts +
        if source.running && (health.available && health.stale) then 1 else 0 := by
  rcases h.cases with ⟨-, hrests, -, hdeaf⟩ | ⟨s, rfl, sound, linked, subscribed⟩
  · rw [hdeaf, hrests]
    exact ⟨h, rfl, rfl⟩
  · have hworks := StreamSource.Works.hearHealth sound linked health
    rw [hearPublished_eq subscribed]
    exact ⟨h.works hworks, hworks.store, hworks.interrupts⟩

/-- A stop keeps a source wired, and neither asks its store nor breaks its line off. -/
theorem stop (h : source.Wired) :
    source.stop.Wired ∧ source.stop.gateway.store = source.gateway.store ∧
      source.stop.interrupts = source.interrupts := by
  cases id h with
  | idle recorded => exact ⟨h, rfl, rfl⟩
  | refused sound =>
    have hworks := (StreamSource.Works.stopWith sound none).1
    exact ⟨.refused hworks.sound, hworks.store, rfl⟩
  | streaming sound linked subscribed =>
    have hworks := (StreamSource.Works.stopWith sound none).1
    exact ⟨h.works hworks, hworks.store, hworks.interrupts⟩

/-- A source that runs and is told of an outage reports it as a new failure. -/
theorem hearPublished_of_outage (h : source.Wired) (hrunning : source.running = true)
    (stale : Bool) :
    (source.hearPublished ⟨false, stale⟩).gateway =
      (source.gateway.report .interrupted
        (some ⟨.store, 0, some "data store is unavailable"⟩)).2 := by
  rcases h.cases with ⟨-, hrests, -, -⟩ | ⟨s, rfl, sound, -, subscribed⟩
  · exact absurd (hrests.symm.trans hrunning) Bool.false_ne_true
  · -- an outage does not restart a stream, it only makes it report
    have hheard : (s.hearHealth ⟨false, stale⟩).2 =
        s.report .interrupted (some ⟨.store, 0, some "data store is unavailable"⟩) := by
      have hr : s.running = true := hrunning
      rw [StreamSource.hearHealth, hr]
      rfl
    rw [hearPublished_eq subscribed, hheard, StreamSource.report_of_unstopped sound.stopsUpon]
    rfl

end Source.Wired

/-! ## What every run preserves -/

namespace Stage

/-- What was published so far: what the dispatcher has delivered, and what waits for it. -/
structure Waits (delivered published : List Health) (a : Audience Health) : Prop where
  dispatcher : a.dispatcher ≠ none
  published : delivered ++ a.queue = published

theorem records_waits (delivered : List Health) : Audience.Records (Waits delivered) := by
  intro published a health h
  rcases Option.ne_none_iff_exists'.1 h.dispatcher with ⟨name, hname⟩
  rw [Audience.tell_to_dispatcher hname]
  constructor
  · exact h.dispatcher
  · rw [← List.append_assoc, h.published]

/-- The store within makes no difference, nor do the listeners, if what was delivered to them and
what waits for them is the same together. -/
theorem turned_listeners {w : WatchedStore σ} {delivered delivered' : List Health} {t : Bool × Nat}
    (h : w.Turned (Waits delivered) true t) (inner : σ) {listeners : Audience Health}
    (hdispatcher : listeners.dispatcher = w.feed.audience.dispatcher)
    (hqueue : delivered' ++ listeners.queue = delivered ++ w.feed.audience.queue) :
    ({ w with inner, feed := { w.feed with audience := listeners } } : WatchedStore σ).Turned
      (Waits delivered') true t := by
  -- what one has been delivered the other has not waiting any more
  have hwaits : Waits delivered' (Health.alternating true t.2) listeners := by
    constructor
    · rw [hdispatcher]
      exact h.recorded.dispatcher
    · rw [hqueue]
      exact h.recorded.published
  exact ⟨h.watched, h.marked, h.staleOnRecovery, h.parity, hwaits, h.current⟩

variable {st st' : Stage σ} {past : List (Bool × Happening)}

/-- A replica that streams over a watched store, after a run: its source is wired, its store has
published every turn, and the line was broken off as often as it ought to be. -/
structure Coupled (st : Stage σ) (past : List (Bool × Happening)) : Prop where
  streams : st.replica.settings.streams = true
  wired : st.replica.source.Wired
  turned : st.replica.store.Turned (Waits ((told past).map Prod.snd)) true
    (WatchedStore.tally (occasions past))
  interrupts : st.replica.source.interrupts =
    failures past + recoveries ⟨true, false⟩ (told past)

namespace Coupled

/-- One more happening that is no delivery of a health. -/
theorem snoc (h : st.Coupled past) (a : Happening) (huntold : a.told? = none)
    (hsettings : st'.replica.settings = st.replica.settings)
    (hwired : st'.replica.source.Wired)
    (hturned : st'.replica.store.Turned (Waits ((told past).map Prod.snd)) true
      (a.occasion?.elim (WatchedStore.tally (occasions past)) fun occasion =>
        occasion.count (WatchedStore.tally (occasions past))))
    (hinterrupts : st'.replica.source.interrupts = st.replica.source.interrupts +
      if st.replica.source.running && a.failsEvent then 1 else 0) :
    st'.Coupled (past ++ [(st.replica.source.running, a)]) := by
  constructor
  · rw [hsettings]
    exact h.streams
  · exact hwired
  · rw [told_concat_of_untold huntold, tally_concat]
    exact hturned
  · -- what is no delivery adds to the failures or to nothing
    rw [hinterrupts, h.interrupts, failures_concat, told_concat_of_untold huntold]
    omega

/-- A part of the stream's work. -/
theorem works (h : st.Coupled past) {s s' : StreamSource (WatchedStore σ)}
    (hstreams : st.replica.source = .streaming s) (a : Happening) (huntold : a.told? = none)
    (hsilent : a.occasion? = none)
    (hw : s.Works s' (if s.running && a.failsEvent then 1 else 0)) (progress : Progress) :
    Coupled ⟨st.replica.withSource (.streaming s'), progress⟩
      (past ++ [(st.replica.source.running, a)]) := by
  have hwired : (Source.streaming s).Wired := hstreams ▸ h.wired
  have hstore : (st.replica.withSource (.streaming s')).store = st.replica.store := by
    rw [Replica.store, Replica.store, Replica.gateway, Replica.gateway, hstreams]
    exact hw.store
  refine h.snoc a huntold rfl ?_ ?_ ?_
  · exact hwired.works hw
  · rw [hstore, hsilent]
    exact h.turned
  · rw [hstreams]
    exact hw.interrupts

/-- A change of the gateway. -/
theorem gateway (h : st.Coupled past)
    (f : Gateway (WatchedStore σ) → Gateway (WatchedStore σ)) (a : Happening)
    (huntold : a.told? = none) (hharmless : a.failsEvent = false)
    (hrecorded : (f st.replica.gateway).Recorded)
    (hturned : (f st.replica.gateway).store.Turned (Waits ((told past).map Prod.snd)) true
      (a.occasion?.elim (WatchedStore.tally (occasions past)) fun occasion =>
        occasion.count (WatchedStore.tally (occasions past)))) (progress : Progress) :
    Coupled ⟨st.replica.mapGateway f, progress⟩ (past ++ [(st.replica.source.running, a)]) := by
  refine h.snoc a huntold rfl ?_ ?_ ?_
  · exact h.wired.withGateway hrecorded
  · have hstore : (st.replica.mapGateway f).store = (f st.replica.gateway).store := by
      rw [Replica.store, Replica.gateway, Replica.mapGateway, Source.withGateway_gateway]
    rw [hstore]
    exact hturned
  · rw [hharmless, Bool.and_false]
    exact Source.withGateway_interrupts _ _

/-! ## Where each happening leads -/

/-- The stream that a replica makes of itself is wired once it has been started, whether or not its
line could be opened. -/
theorem newStream_wired {r : Replica σ} (hrecorded : r.gateway.Recorded)
    (hwatched : r.store.watched = true) (uri : Text) :
    (Source.streaming (r.newStream uri)).start.2.Wired ∧
      (Source.streaming (r.newStream uri)).start.2.gateway =
        r.gateway.note (.streamStarting uri) ∧
      (Source.streaming (r.newStream uri)).start.2.interrupts = 0 := by
  have hsound : (r.newStream uri).Sound := by
    refine ⟨rfl, ?_, hrecorded⟩
    intro hworker
    exact absurd hworker (by simp [Replica.newStream])
  cases hrefusal : r.refusal with
  | some fault =>
    -- the start has failed when the line was to be opened
    rw [Replica.start_newStream, hrefusal]
    refine ⟨.refused hsound.start, ?_, rfl⟩
    simp [Source.gateway, StreamSource.start, Replica.newStream, hrefusal, StreamSource.note]
  | none =>
    have hopen : (r.newStream uri).refusal = none := by
      simp [Replica.newStream, hrefusal]
    have hstart := StreamSource.start_of_unstarted (s := r.newStream uri) hopen rfl
    rw [Replica.start_newStream, hrefusal]
    refine ⟨.streaming hsound.start ?_ ?_, ?_, ?_⟩
    · intro _
      rw [hstart]
      rfl
    · rw [hstart]
      simp [StreamSource.Subscribed, Replica.newStream, hwatched]
    · rw [hstart]
      rfl
    · rw [hstart]
      rfl

/-- A start makes a stream as long as none has been started, and is only noted afterwards. -/
theorem start (h : st.Coupled past) :
    Coupled { st with replica := st.replica.start.2 }
      (past ++ [(st.replica.source.running, .started)]) := by
  rcases h.wired.cases with ⟨hunmade, -, hinterrupts, -⟩ | ⟨s, hsource, -, -, -⟩
  · -- a start that fails leaves nothing that runs, and so nothing that could be counted
    rcases Replica.start_of_streams hunmade h.streams with hfailed | ⟨uri, hstarted⟩
    · rw [hfailed]
      exact h.snoc .started rfl rfl h.wired h.turned (by simp [Happening.failsEvent])
    · rw [hstarted]
      rcases newStream_wired h.wired.recorded h.turned.watched uri with ⟨hwired, hgateway, hnever⟩
      have hstore : (st.replica.withSource
          (Source.streaming (st.replica.newStream uri)).start.2).store = st.replica.store := by
        show (Source.streaming (st.replica.newStream uri)).start.2.gateway.store = _
        rw [hgateway]
        rfl
      have hharmless : (st.replica.source.running && Happening.started.failsEvent) = false :=
        Bool.and_false _
      refine h.snoc .started rfl rfl hwired ?_ ?_
      · rw [hstore]
        exact h.turned
      · rw [hinterrupts, hharmless]
        exact hnever
  · rw [Replica.start_of_made (by rw [hsource]; rfl)]
    exact h.gateway (·.note .startedAgain) .started rfl rfl h.wired.recorded h.turned _

/-- A stop ends the stream and the watch over the store, which publishes nothing. -/
theorem stop (h : st.Coupled past) :
    Coupled { st with replica := st.replica.stop }
      (past ++ [(st.replica.source.running, .stopped)]) := by
  rcases h.wired.stop with ⟨hwired, hstore, hinterrupts⟩
  refine h.snoc .stopped rfl rfl ?_ ?_ ?_
  · exact hwired.withGateway hwired.recorded
  · have hdismissed : st.replica.stop.store =
        { st.replica.store.dismiss with
          feed :=
            { st.replica.store.feed with audience := st.replica.store.feed.audience.close } } := by
      have hkept : st.replica.store = st.replica.source.stop.gateway.store := hstore.symm
      rw [hkept]
      exact congrArg Gateway.store (Source.withGateway_gateway _ _)
    rw [hdismissed]
    -- whom nobody asks any more about the store makes no difference to what was published
    have hdismissed : st.replica.store.dismiss.Turned (Waits ((told past).map Prod.snd)) true
        (WatchedStore.tally (occasions past)) := h.turned.congr rfl rfl rfl rfl
    exact turned_listeners hdismissed st.replica.store.inner rfl rfl
  · show _ = _ + if st.replica.source.running && false then 1 else 0
    rw [Bool.and_false]
    exact (Source.withGateway_interrupts _ _).trans hinterrupts

/-- The worker takes what the line delivers. -/
theorem take (h : st.Coupled past) {s s' : StreamSource (WatchedStore σ)} {d : Delivered}
    (hstreams : st.replica.source = .streaming s) (haccept : s.accept d = some s') :
    Coupled { st with replica := st.replica.withSource (.streaming s') }
      (past ++ [(st.replica.source.running, .taken d)]) := by
  rcases h.wired.stream hstreams with ⟨sound, linked, -⟩
  exact h.works hstreams (.taken d) rfl rfl (.accept sound linked haccept) _

/-- The store answers a write. -/
theorem answer [Repository σ] (h : st.Coupled past) {s : StreamSource (WatchedStore σ)}
    (hstreams : st.replica.source = .streaming s) (c : Change) (progress : Progress) :
    Coupled ⟨st.replica.withSource (.streaming (s.asking c)), progress⟩
      (past ++ [(st.replica.source.running,
        .answered (Gateway.request s.gateway.store c).result)]) := by
  rcases h.wired.stream hstreams with ⟨sound, linked, subscribed⟩
  have hstore : st.replica.store = s.gateway.store := by
    rw [Replica.store, Replica.gateway, hstreams]
    rfl
  have hturned := h.turned
  rw [hstore] at hturned
  refine h.snoc (.answered _) rfl rfl ?_ ?_ ?_
  · exact .streaming ⟨sound.stopsUpon, sound.address, sound.recorded⟩ linked subscribed
  · exact hturned.request (records_waits _) c
  · rw [hstreams]
    show _ = _ + if s.running && false then 1 else 0
    rw [Bool.and_false]
    rfl

/-- The gateway reports a refusal, if it was one. -/
theorem report (h : st.Coupled past) {s : StreamSource (WatchedStore σ)}
    (hstreams : st.replica.source = .streaming s) (answer : Except Fault Bool)
    (progress : Progress) :
    Coupled ⟨st.replica.withSource (.streaming (s.reporting answer)), progress⟩
      (past ++ [(st.replica.source.running, .reported)]) := by
  rcases h.wired.stream hstreams with ⟨sound, -, -⟩
  have hworks := StreamSource.Works.reporting sound answer
  refine h.works hstreams .reported rfl rfl ?_ _
  -- the report breaks nothing off: that is counted when the source learns of the answer
  show s.Works (s.reporting answer) (if s.running && false then 1 else 0)
  rw [Bool.and_false]
  exact hworks

/-- The source draws its conclusions. -/
theorem conclude (h : st.Coupled past) {s : StreamSource (WatchedStore σ)}
    (hstreams : st.replica.source = .streaming s) (c : Change) (answer : Except Fault Bool)
    (progress : Progress) :
    Coupled ⟨st.replica.withSource (.streaming (s.concluding c answer)), progress⟩
      (past ++ [(st.replica.source.running, .concluded answer)]) := by
  rcases h.wired.stream hstreams with ⟨sound, linked, -⟩
  exact h.works hstreams (.concluded answer) rfl rfl (.concluding sound linked c answer) _

/-- A reader is answered or refused. -/
theorem read [Repository σ] {α : Type} (h : st.Coupled past) (c : Call α) :
    Coupled
      ⟨st.replica.withStore (c.ask st.replica.store).notices (c.ask st.replica.store).state,
        st.progress⟩
      (past ++ [(st.replica.source.running, .read (c.ask st.replica.store).result.isOk)]) :=
  h.gateway _ (.read _) rfl rfl h.wired.recorded (h.turned.ask (records_waits _) c) _

/-- A watcher has its answer. -/
theorem check (h : st.Coupled past) {reply : Except Fault Json.Value} {r : Replica σ}
    (hchecked : st.replica.check reply = some r) :
    Coupled { st with replica := r } (past ++ [(st.replica.source.running, .checked reply)]) := by
  rcases Option.map_eq_some_iff.1 hchecked with ⟨⟨notices, store⟩, hheard, rfl⟩
  refine h.gateway _ (.checked reply) rfl rfl h.wired.recorded ?_ _
  unfold WatchedStore.hear at hheard
  split at hheard
  · exact absurd hheard (by simp)
  · -- `hear` is the answer to the watcher who has asked
    rename_i watcher _ _
    have hstore : (st.replica.store.answer watcher.id reply).2 = store :=
      congrArg Prod.snd (Option.some.inj hheard)
    have hturned := h.turned.answer (records_waits _) watcher.id reply
    rw [hstore] at hturned
    exact hturned

/-- Time passes; what waits for the dispatcher goes on waiting. -/
theorem elapse (h : st.Coupled past) (inner : σ) (now delay : Millis) (journal : List Notice)
    (statuses : Audience Status) {listeners : Audience Health}
    (hqueue : listeners.queue = st.replica.store.feed.audience.queue)
    (hdispatcher : listeners.dispatcher = st.replica.store.feed.audience.dispatcher) :
    Coupled { st with replica := st.replica.elapse inner now delay journal statuses listeners }
      (past ++ [(st.replica.source.running, .elapsed)]) := by
  have hturned := turned_listeners h.turned inner hdispatcher (by rw [hqueue])
  have hwired := h.wired.withDelay delay
  refine h.snoc .elapsed rfl rfl ?_ ?_ ?_
  · exact hwired.withGateway hwired.recorded
  · have hstore : (st.replica.elapse inner now delay journal statuses listeners).store =
        { st.replica.store with
          inner, feed := { st.replica.store.feed with audience := listeners } } := by
      simp [Replica.store, Replica.gateway, Replica.elapse, Replica.mapGateway]
    rw [hstore]
    exact hturned
  · simp [Replica.elapse, Replica.mapGateway, Happening.failsEvent]

/-- The dispatcher delivers a health. The source restarts over a recovery, and over nothing else
that it is told. -/
theorem tell (h : st.Coupled past) {health : Health} {queue : List Health}
    (hwaits : st.replica.store.feed.audience.queue = health :: queue) :
    Coupled { st with replica := st.replica.tell health queue }
      (past ++ [(st.replica.source.running, .told health)]) := by
  have hrecorded := h.turned.recorded
  have hpublished := hrecorded.published
  rw [hwaits] at hpublished
  rcases Health.eq_ofTurn_of_append hpublished with ⟨hdelivered, hturn⟩
  rcases h.wired.hearPublished health with ⟨hwired, hstore, hinterrupts⟩
  -- a store that comes back is stale, so the source restarts exactly at a recovery
  have hrecovery : (!(((told past).map Prod.snd).getLast?.getD ⟨true, false⟩).available &&
      health.available) = (health.available && health.stale) := by
    rw [hturn, ← Health.recovers_iff, Health.after, ← hdelivered]
  constructor
  · exact h.streams
  · exact hwired.withGateway hwired.recorded
  · have htellstore : (st.replica.tell health queue).store =
        { st.replica.store with
          feed :=
            { st.replica.store.feed with
              audience := st.replica.store.feed.audience.pass health queue } } := by
      have hkept : (st.replica.withSource (st.replica.source.hearPublished health)).store =
          st.replica.store := hstore
      rw [Replica.tell, Replica.store_withListeners, hkept]
    rw [told_concat rfl, tally_concat, List.map_append, htellstore]
    refine turned_listeners h.turned st.replica.store.inner rfl ?_
    rw [hwaits]
    exact List.append_assoc _ _ _
  · have hkept : (st.replica.tell health queue).source.interrupts =
        (st.replica.source.hearPublished health).interrupts :=
      Source.withGateway_interrupts _ _
    have hharmless : (st.replica.source.running && (Happening.told health).failsEvent) = false := by
      simp [Happening.failsEvent]
    rw [hkept, hinterrupts, h.interrupts, failures_concat, told_concat rfl, recoveries_concat,
      hrecovery, hharmless]
    simp only [Bool.false_eq_true, if_false]
    omega

end Coupled

end Stage

end FlagReplica
