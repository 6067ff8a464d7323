import FlagReplica.Proofs.Audience.Listener
import FlagReplica.Proofs.Health.Guard
import FlagReplica.Proofs.Replica.Stage
import FlagReplica.Proofs.Source.Advance

/-!
# What can happen to a replica

Whichever source its settings ask for, whether or not its store is watched, and whatever the
listeners of its status do. A write is taken apart into its beginning and its end, and starts and
stops may come at any time, in any order and number. `Consequences` is what one happening makes of a
replica: of its source, of the watch over its store, and of what a listener of its status hears.
-/

namespace FlagReplica

variable {σ : Type}

/-- The line of a stream chooses another delay. -/
theorem Source.Advances.withDelay {source : Source σ} (h : source.Orderly) (delay : Millis) :
    Advances False False source (source.withDelay delay) := by
  cases id h with
  | idle recorded => exact .refl h id id
  | polling recorded => exact .refl h id id
  | streaming sound once =>
    exact ⟨.streaming ⟨sound.stopsUpon, sound.address, sound.recorded⟩ once, rfl, .kept id id,
      .of_same (.refl _)⟩

namespace Replica

open Audience (Awaits)
open Source (Advances)

/-! ## What can happen -/

/-- What happens to a replica. -/
inductive Happening where
  | started
  | stopped
  /-- The worker of a stream takes what the line delivers. -/
  | taken (d : Delivered)
  /-- A fetch has an outcome. The wait before it counts as a part of it. -/
  | fetched (outcome : Except Fault Payload)
  /-- A write ends, and the store has answered it or failed. -/
  | written (c : Change) (answer : Except Fault Bool)
  /-- A reader is answered or refused. -/
  | read
  /-- A watcher has its answer about the store. -/
  | checked (reply : Except Fault Json.Value)
  /-- The dispatcher delivers a health. -/
  | told (health : Health)
  /-- The dispatcher of the statuses, or one of the listeners it serves, does the next thing. -/
  | attended
  /-- A listener of the status is registered. -/
  | enlisted (name : Text)
  /-- A listener of the status is taken off. -/
  | struck (name : Text)
  /-- Time passes; the store, the listeners of its health and the delay of the line change. -/
  | elapsed

namespace Happening

/-- A stop, or a rejection of the credentials. -/
def Ends : Happening → Prop
  | stopped => True
  | taken d => (FlagReplica.Happening.taken d).Ends
  | fetched outcome => (PollHappening.fetched outcome).Ends
  | _ => False

/-- The store has taken a full data set. -/
def StoresAll : Happening → Prop
  | written c answer => (FlagReplica.Happening.written c answer).StoresAll
  | _ => False

/-- What stores a full data set ends nothing. -/
theorem not_ends_of_storesAll {a : Happening} (h : a.StoresAll) : ¬ a.Ends := by
  cases a <;> simp_all [StoresAll, Ends]

/-- Nobody registers or takes off the listener of a name. -/
def Spares (name : Text) : Happening → Prop
  | enlisted other => other ≠ name
  | struck other => other ≠ name
  | _ => True

end Happening

/-- One happening. -/
inductive Step [Repository σ] : Replica σ → Happening → Replica σ → Prop where
  | start (r : Replica σ) : Step r .started r.start.2
  | stop (r : Replica σ) : Step r .stopped r.stop
  | take {r : Replica σ} {s s' : StreamSource (WatchedStore σ)} {d : Delivered}
      (streams : r.source = .streaming s) (idle : s.writing = none)
      (accepted : s.accept d = some s') : Step r (.taken d) (r.withSource (.streaming s'))
  | fetch {r : Replica σ} {s : PollSource (WatchedStore σ)} (polls : r.source = .polling s)
      (fetching : s.fetching = true) (idle : s.writing = none) (outcome : Except Fault Payload) :
      Step r (.fetched outcome) (r.withSource (.polling (s.receive outcome)))
  | write {r : Replica σ} {s : StreamSource (WatchedStore σ)} {c : Change}
      (streams : r.source = .streaming s) (writing : s.writing = some c) :
      Step r (.written c (Gateway.request s.gateway.store c).result)
        (r.withSource (.streaming s.write.2))
  | writeAll {r : Replica σ} {s : PollSource (WatchedStore σ)} {data : DataSet}
      (polls : r.source = .polling s) (writing : s.writing = some data) :
      Step r (.written (.replace data) (Gateway.request s.gateway.store (.replace data)).result)
        (r.withSource (.polling s.write))
  | get (r : Replica σ) (kind : Kind) (key : Text) : Step r .read (r.get kind key).2
  | all (r : Replica σ) (kind : Kind) : Step r .read (r.all kind).2
  | check {r r' : Replica σ} {reply : Except Fault Json.Value}
      (checked : r.check reply = some r') : Step r (.checked reply) r'
  | tell {r : Replica σ} {health : Health} {queue : List Health}
      (waits : r.store.feed.audience.queue = health :: queue) :
      Step r (.told health) (r.tell health queue)
  | attend {r : Replica σ} {audience : Audience Status}
      (step : r.gateway.audience.step = some audience) :
      Step r .attended (r.mapGateway fun g => { g with audience })
  | enlist (r : Replica σ) (name : Text) :
      Step r (.enlisted name) (r.mapGateway fun g => { g with audience := g.audience.add name })
  | strike (r : Replica σ) (name : Text) :
      Step r (.struck name) (r.mapGateway fun g => { g with audience := g.audience.remove name })
  | elapse (r : Replica σ) (inner : σ) (now delay : Millis) (journal : List Notice)
      (listeners : Audience Health) (queue : listeners.queue = r.store.feed.audience.queue)
      (dispatcher : listeners.dispatcher = r.store.feed.audience.dispatcher) :
      Step r .elapsed (r.elapse inner now delay journal r.gateway.audience listeners)

/-- The settings are fit for a source, and no connection is refused to them. -/
def Fit (r : Replica σ) : Prop :=
  r.refusal = none ∧ ∃ source, r.makeSource = .ok source

/-! ## Starts -/

/-- The polling source that a replica makes of itself. -/
def newPolls (r : Replica σ) (fetcher : Fetcher) : PollSource (WatchedStore σ) :=
  { gateway := r.gateway
    interval := r.settings.pollInterval
    fetcher }

/-- What a replica makes of itself if its settings are fit for a source. No polls are made where
connections are refused. -/
theorem makeSource_ok {r : Replica σ} {source : Source (WatchedStore σ)}
    (h : r.makeSource = .ok source) :
    (∃ uri, source = .streaming (r.newStream uri)) ∨
      r.refusal = none ∧ ∃ fetcher, source = .polling (r.newPolls fetcher) := by
  unfold makeSource at h
  split at h
  · cases haddress : r.settings.streamAddress with
    | error fault =>
      rw [haddress] at h
      exact absurd h (by simp [bind, Except.bind])
    | ok uri =>
      rw [haddress] at h
      exact .inl ⟨uri, (Except.ok.inj h).symm⟩
  · cases hfetcher : Fetcher.create r.settings r.refusal with
    | error fault =>
      rw [hfetcher] at h
      exact absurd h (by simp [bind, Except.bind])
    | ok fetcher =>
      -- a fetcher sets its connections up at once, so that there is none where they are refused
      have hopen : r.refusal = none := by
        cases hrefusal : r.refusal with
        | none => rfl
        | some fault => exact absurd hfetcher (by simp [Fetcher.create, hrefusal])
      rw [hfetcher] at h
      exact .inr ⟨hopen, fetcher, (Except.ok.inj h).symm⟩

/-- Whether a replica is fit for a source depends on its settings and on what is refused to them,
and not on what has happened. -/
theorem fit_iff (r : Replica σ) :
    r.Fit ↔ r.refusal = none ∧
      if r.settings.streams then ∃ uri, r.settings.streamAddress = .ok uri
      else ∃ fetcher, Fetcher.create r.settings r.refusal = .ok fetcher := by
  refine and_congr_right fun _ => ?_
  unfold makeSource
  split
  · cases r.settings.streamAddress <;> simp [bind, Except.bind, pure, Except.pure]
  · cases Fetcher.create r.settings r.refusal <;> simp [bind, Except.bind, pure, Except.pure]

theorem fit_congr {r r' : Replica σ} (hsettings : r'.settings = r.settings)
    (hrefusal : r'.refusal = r.refusal) : r'.Fit ↔ r.Fit := by
  rw [fit_iff, fit_iff, hsettings, hrefusal]

/-- A source that has just been made and started has done nothing yet. -/
theorem started_source {r : Replica σ} (hopen : r.refusal = none)
    {source : Source (WatchedStore σ)} (h : r.makeSource = .ok source)
    (hrecorded : r.gateway.Recorded) :
    source.start.2.Orderly ∧ source.start.2.readiness?.isSome = true ∧
      source.start.2.standing = ⟨true, r.gateway.status.state, .pending⟩ ∧
      r.gateway.Same source.start.2.gateway := by
  rcases makeSource_ok h with ⟨uri, rfl⟩ | ⟨-, fetcher, rfl⟩
  · have hsound : (r.newStream uri).Sound :=
      ⟨rfl, fun hworker => absurd hworker (by simp [newStream]), hrecorded⟩
    have haccepted : (r.newStream uri).refusal = none := by
      simp [newStream, hopen]
    have hstart := StreamSource.start_of_unstarted (s := r.newStream uri) haccepted rfl
    -- a new stream has not been registered before, and its start registers it once at most
    have honce : (r.newStream uri).start.2.subscriptions ≤ 1 := by
      rw [hstart]
      by_cases hwatched : (r.newStream uri).healthWatched = some true
      · exact Nat.le_of_eq (if_pos hwatched)
      · exact Nat.le_trans (Nat.le_of_eq (if_neg hwatched)) (Nat.zero_le 1)
    have hstanding : (r.newStream uri).start.2.standing =
        ⟨true, r.gateway.status.state, .pending⟩ := by
      rw [hstart]
      rfl
    have hsame : r.gateway.Same (r.newStream uri).start.2.gateway := by
      rw [hstart]
      exact .note _ _
    rw [start_newStream, hopen]
    exact ⟨.streaming hsound.start honce, rfl, hstanding, hsame⟩
  · have hsame := PollSource.start_same (r.newPolls fetcher)
    exact ⟨.polling (hsame.recorded hrecorded), rfl,
      PollSource.standing_start (r.newPolls fetcher), hsame⟩

/-- A start of a replica that is unfit for a source leaves a stream whose line is refused, or
nothing. -/
theorem start_of_unfit {r : Replica σ} (hunmade : r.source.readiness? = none) (hunfit : ¬ r.Fit) :
    r.start.2 = r ∨
      ∃ s, r.start.2 = r.withSource (.refused s) ∧ r.gateway.Same s.gateway := by
  cases hmake : r.makeSource with
  | error fault =>
    rw [start_of_unmakable hunmade hmake]
    exact .inl rfl
  | ok source =>
    -- the settings would do, so that it is the connections that are refused
    have hrefused : r.refusal.isSome = true := by
      rw [Option.isSome_iff_ne_none]
      exact fun hopen => hunfit ⟨hopen, source, hmake⟩
    rw [start_of_makable hunmade hmake]
    rcases makeSource_ok hmake with ⟨uri, rfl⟩ | ⟨hopen, -⟩
    · refine .inr ⟨(r.newStream uri).start.2, ?_, ?_⟩
      · rw [start_newStream, if_pos hrefused]
      · rcases Option.isSome_iff_exists.1 hrefused with ⟨fault, hfault⟩
        simp only [StreamSource.start, newStream, hfault, Option.map_some]
        exact .note _ _
    · exact absurd hrefused (by simp [hopen])

/-- No start changes the settings or what is refused to them. -/
theorem start_settings (r : Replica σ) :
    r.start.2.settings = r.settings ∧ r.start.2.refusal = r.refusal := by
  unfold start
  split
  · exact ⟨rfl, rfl⟩
  · split <;> exact ⟨rfl, rfl⟩

/-- Nothing else that happens does, so that a replica stays fit for a source or unfit for one. -/
theorem Step.fit_iff [Repository σ] {r r' : Replica σ} {a : Happening} (hs : Step r a r') :
    r'.Fit ↔ r.Fit := by
  cases hs with
  | start => exact fit_congr r.start_settings.1 r.start_settings.2
  | check checked =>
    rcases Option.map_eq_some_iff.1 checked with ⟨⟨notices, store⟩, -, rfl⟩
    exact fit_congr rfl rfl
  | _ => exact fit_congr rfl rfl

/-! ## What one happening makes of a replica -/

/-- What is no part of a source's work leaves the source where it stands. -/
structure Aside (a : Happening) (r r' : Replica σ) : Prop where
  orderly : r.source.Orderly → r'.source.Orderly
  made : r'.source.readiness?.isSome = r.source.readiness?.isSome
  standing : r'.source.standing = r.source.standing
  status : r'.gateway.status = r.gateway.status
  guarded : r.store.Guarded → r'.store.Guarded
  awaits : ∀ {name told}, a.Spares name → Awaits name told r.gateway.audience →
    Awaits name told r'.gateway.audience

/-- What one happening makes of a replica that is fit for a source. A stop ends the source if there
is one. -/
structure Consequences (a : Happening) (r r' : Replica σ) : Prop where
  orderly : r'.source.Orderly
  made : r'.source.readiness?.isSome = true ↔ r.source.readiness?.isSome = true ∨ a = .started
  move : r.source.standing.Move r'.source.standing
  effect : (a = .stopped → r.source.readiness?.isSome = true) →
    r.source.standing.Effect a.Ends a.StoresAll r'.source.standing
  guarded : r.store.Guarded → r'.store.Guarded
  awaits : ∀ {name told}, a.Spares name → Awaits name told r.gateway.audience →
    Awaits name
      (told ++ if r'.gateway.status = r.gateway.status then [] else [r'.gateway.status])
      r'.gateway.audience

variable {r r' r'' : Replica σ} {a : Happening}

@[simp] theorem gateway_mapGateway (r : Replica σ)
    (f : Gateway (WatchedStore σ) → Gateway (WatchedStore σ)) :
    (r.mapGateway f).gateway = f r.gateway :=
  Source.withGateway_gateway _ _

theorem readiness?_mapGateway (r : Replica σ)
    (f : Gateway (WatchedStore σ) → Gateway (WatchedStore σ)) :
    (r.mapGateway f).source.readiness? = r.source.readiness? := by
  rw [mapGateway]
  cases r.source <;> rfl

namespace Aside

/-- A change of the gateway that reports nothing. -/
theorem gateway (r : Replica σ) {f : Gateway (WatchedStore σ) → Gateway (WatchedStore σ)}
    (hstatus : (f r.gateway).status = r.gateway.status)
    (hfailures : (f r.gateway).failures = r.gateway.failures)
    (hguarded : r.store.Guarded → (f r.gateway).store.Guarded)
    (hawaits : ∀ {name told}, a.Spares name → Awaits name told r.gateway.audience →
      Awaits name told (f r.gateway).audience) : Aside a r (r.mapGateway f) := by
  constructor
  · intro horderly
    -- the failure on record keeps its number, and the count of failures has not changed
    refine horderly.withGateway ?_
    intro record he
    rw [hstatus] at he
    rw [hfailures]
    exact horderly.recorded record he
  · rw [readiness?_mapGateway]
  · exact Source.standing_withGateway (congrArg Status.state hstatus)
  · rw [gateway_mapGateway, hstatus]
  · have hstore : (r.mapGateway f).store = (f r.gateway).store :=
      congrArg Gateway.store (gateway_mapGateway r f)
    rw [hstore]
    exact hguarded
  · rw [gateway_mapGateway]
    exact hawaits

end Aside

namespace Consequences

/-- A start that makes no source, or what ends nothing unless it is a stop without a source. -/
theorem of_aside (h : Aside a r r') (horderly : r.source.Orderly)
    (hnew : a = .started → r.source.readiness?.isSome = true)
    (hquiet : (a = .stopped → r.source.readiness?.isSome = true) → ¬ a.Ends ∧ ¬ a.StoresAll) :
    Consequences a r r' := by
  refine ⟨h.orderly horderly, ?_, ?_, ?_, h.guarded, ?_⟩
  · rw [h.made]
    exact ⟨.inl, fun hmade => hmade.elim id hnew⟩
  · rw [h.standing]
    exact .keep
  · intro hmade
    rw [h.standing]
    exact .kept (hquiet hmade).1 (hquiet hmade).2
  · intro name told hspares hawaits
    -- the status is the one before, so that there is nothing for a listener to be told
    rw [if_pos h.status, List.append_nil]
    exact h.awaits hspares hawaits

/-- A piece of the source's work. -/
theorem of_work {source : Source (WatchedStore σ)}
    (h : Advances a.Ends a.StoresAll r.source source) (hnew : a ≠ .started) :
    Consequences a r (r.withSource source) := by
  refine ⟨h.orderly, ?_, h.effect.move, fun _ => h.effect, ?_, ?_⟩
  · show source.readiness?.isSome = true ↔ _
    rw [h.made]
    simp [hnew]
  · intro hguarded
    have hstore : (r.withSource source).store = r.store := h.moves.store
    rw [hstore]
    exact hguarded
  · intro name told _ hawaits
    -- a piece of work announces one status at most, and only one that differs from the last
    have haudience : (r.withSource source).gateway.audience =
        if (r.withSource source).gateway.status = r.gateway.status then r.gateway.audience
        else (r.gateway.audience.tell (r.withSource source).gateway.status).takeNotices.2 :=
      h.moves.audience
    rw [haudience]
    split
    · simpa using hawaits
    · exact (hawaits.tell _).takeNotices

/-- What is aside may come first. -/
theorem after (h' : Consequences a r' r'') (h : Aside a r r') : Consequences a r r'' := by
  refine ⟨h'.orderly, ?_, ?_, ?_, fun hg => h'.guarded (h.guarded hg), ?_⟩
  · rw [h'.made, h.made]
  · rw [← h.standing]
    exact h'.move
  · intro hmade
    rw [← h.standing]
    exact h'.effect fun ha => h.made.trans (hmade ha)
  · intro name told hspares hawaits
    -- what comes first keeps the status, so that the same news counts as a change
    have hlater := h'.awaits hspares (h.awaits hspares hawaits)
    rwa [h.status] at hlater

/-- What is aside may come last. -/
theorem before (h : Consequences a r r') (h' : Aside a r' r'') : Consequences a r r'' := by
  refine ⟨h'.orderly h.orderly, ?_, ?_, ?_, fun hg => h'.guarded (h.guarded hg), ?_⟩
  · rw [h'.made, h.made]
  · rw [h'.standing]
    exact h.move
  · intro hmade
    rw [h'.standing]
    exact h.effect hmade
  · intro name told hspares hawaits
    have hearlier := h'.awaits hspares (h.awaits hspares hawaits)
    rwa [← h'.status] at hearlier

/-! ## One happening after the other -/

/-- The first start makes a source, and no other does anything. -/
theorem start (horderly : r.source.Orderly) (hfit : r.Fit) :
    Consequences .started r r.start.2 := by
  by_cases made : r.source.readiness?.isSome = true
  · have haside : Aside .started r (r.mapGateway (·.note .startedAgain)) :=
      .gateway r rfl rfl id fun _ h => h
    rw [start_of_made made]
    exact .of_aside haside horderly (fun _ => made) fun _ => ⟨id, id⟩
  · have hunmade : r.source.readiness? = none := Option.not_isSome_iff_eq_none.1 made
    obtain ⟨g, hidle⟩ := horderly.idle_of_unmade hunmade
    obtain ⟨hopen, source, hmake⟩ := hfit
    rcases started_source hopen hmake horderly.recorded with ⟨hstarted, hmade, hstanding, hsame⟩
    have hidling : r.source.standing = ⟨true, r.gateway.status.state, .pending⟩ := by
      rw [gateway, hidle]
      rfl
    have hstore : (r.withSource source.start.2).store = r.store := hsame.store
    have hstatus : (r.withSource source.start.2).gateway.status = r.gateway.status :=
      hsame.status
    have haudience : (r.withSource source.start.2).gateway.audience = r.gateway.audience :=
      hsame.audience
    rw [start_of_makable hunmade hmake]
    -- the new source stands where the replica stood without one
    refine ⟨hstarted, ?_, ?_, ?_, ?_, ?_⟩
    · show source.start.2.readiness?.isSome = true ↔ _
      simp [hmade]
    · rw [hidling]
      exact hstanding ▸ .keep
    · intro _
      rw [hidling]
      exact hstanding ▸ .kept id id
    · rw [hstore]
      exact id
    · intro name told _ hawaits
      rw [if_pos hstatus, List.append_nil, haudience]
      exact hawaits

/-- A stop ends the source if there is one, and then the watch over the store and the
dispatchers. -/
theorem stop (horderly : r.source.Orderly) : Consequences .stopped r r.stop := by
  have haside : Aside .stopped (r.withSource r.source.stop) r.stop := by
    unfold Replica.stop
    refine .gateway _ rfl rfl ?_ ?_
    · intro hguarded
      exact hguarded.dismiss.congr rfl rfl rfl
    · intro name told _ hawaits
      exact hawaits.close
  by_cases made : r.source.readiness?.isSome = true
  · exact (of_work (a := .stopped) (.stop horderly made trivial) (by simp)).before haside
  · -- without a source the stop leaves the standing alone, which is why `effect` excepts it
    obtain ⟨g, hidle⟩ := horderly.idle_of_unmade (Option.not_isSome_iff_eq_none.1 made)
    have hsame : r.withSource r.source.stop = r := by
      rw [hidle, Source.stop, ← hidle]
      rfl
    rw [hsame] at haside
    exact .of_aside haside horderly (by simp) fun hmade => absurd (hmade rfl) made

section Writes

variable [Repository σ]

/-- A write ends when its store has answered. -/
theorem answered {source : Source (WatchedStore σ)} (c : Change)
    (h : Advances a.Ends a.StoresAll (r.mapGateway (·.asked c)).source source)
    (hnew : a ≠ .started) : Consequences a r (r.withSource source) := by
  have haside : Aside a r (r.mapGateway (·.asked c)) :=
    .gateway r rfl rfl (fun hguarded => hguarded.request c) fun _ h => h
  exact (of_work h hnew).after haside

theorem write (horderly : r.source.Orderly) {s : StreamSource (WatchedStore σ)} {c : Change}
    (streams : r.source = .streaming s) (writing : s.writing = some c) :
    Consequences (.written c (Gateway.request s.gateway.store c).result) r
      (r.withSource (.streaming s.write.2)) := by
  have hasked : (r.mapGateway (·.asked c)).source =
      .streaming { s with gateway := s.gateway.asked c } := by
    rw [mapGateway, gateway, streams]
    rfl
  rw [streams] at horderly
  exact answered c (hasked ▸ .write horderly writing) (by simp)

theorem writeAll (horderly : r.source.Orderly) {s : PollSource (WatchedStore σ)} {data : DataSet}
    (polls : r.source = .polling s) (writing : s.writing = some data) :
    Consequences
      (.written (.replace data) (Gateway.request s.gateway.store (.replace data)).result) r
      (r.withSource (.polling s.write)) := by
  have hasked : (r.mapGateway (·.asked (.replace data))).source =
      .polling { s with gateway := s.gateway.asked (.replace data) } := by
    rw [mapGateway, gateway, polls]
    rfl
  rw [polls] at horderly
  exact answered (.replace data) (hasked ▸ .writeAll horderly writing) (by simp)

end Writes

/-- A reader asks the store. -/
theorem ask [Repository σ] {α : Type} (horderly : r.source.Orderly) (c : Call α) :
    Consequences .read r
      (r.withStore (c.ask r.store).notices (c.ask r.store).state) := by
  refine .of_aside ?_ horderly (by simp) fun _ => ⟨id, id⟩
  exact .gateway r rfl rfl (fun hguarded => hguarded.ask c) fun _ h => h

/-- A watcher has its answer. -/
theorem check (horderly : r.source.Orderly) {reply : Except Fault Json.Value}
    (hchecked : r.check reply = some r') : Consequences (.checked reply) r r' := by
  rcases Option.map_eq_some_iff.1 hchecked with ⟨⟨notices, store⟩, hheard, rfl⟩
  refine .of_aside ?_ horderly (by simp) fun _ => ⟨id, id⟩
  exact .gateway r rfl rfl (fun hguarded => hguarded.hear hheard) fun _ h => h

/-- The dispatcher delivers a health to the source and to everybody else. -/
theorem tell (horderly : r.source.Orderly) (health : Health) (queue : List Health) :
    Consequences (.told health) r (r.tell health queue) := by
  refine (of_work (a := .told health) (.hearPublished horderly health) (by simp)).before ?_
  unfold Replica.tell withListeners
  exact .gateway _ rfl rfl (fun hguarded => hguarded.congr rfl rfl rfl) fun _ h => h

/-- The listeners of the status change, or are served. -/
theorem listeners (horderly : r.source.Orderly) (f : Audience Status → Audience Status)
    (hnew : a ≠ .started) (hends : ¬ a.Ends) (hstores : ¬ a.StoresAll)
    (hawaits : ∀ {name told}, a.Spares name → Awaits name told r.gateway.audience →
      Awaits name told (f r.gateway.audience)) :
    Consequences a r (r.mapGateway fun g => { g with audience := f g.audience }) :=
  .of_aside (.gateway r rfl rfl id hawaits) horderly (fun ha => absurd ha hnew)
    fun _ => ⟨hends, hstores⟩

/-- Time passes. -/
theorem elapse (horderly : r.source.Orderly) (inner : σ) (now delay : Millis)
    (journal : List Notice) (listeners : Audience Health) :
    Consequences .elapsed r
      (r.elapse inner now delay journal r.gateway.audience listeners) := by
  -- the line chooses its delay without the gateway, which the listeners belong to
  have hsame : (r.withSource (r.source.withDelay delay)).gateway = r.gateway :=
    Source.withDelay_gateway _ _
  refine (of_work (a := .elapsed) (.withDelay horderly delay) (by simp)).before ?_
  unfold Replica.elapse
  refine .gateway _ rfl rfl (fun hguarded => hguarded.congr rfl rfl rfl) ?_
  intro name told _ hawaits
  rw [hsame] at hawaits
  exact hawaits

end Consequences

/-- What any happening makes of a replica that is fit for a source. -/
theorem Step.consequences [Repository σ] (hs : Step r a r') (horderly : r.source.Orderly)
    (hfit : r.Fit) : Consequences a r r' := by
  -- the source's work is an `Advances`, everything else is aside, and writes are both in turn
  cases hs with
  | start => exact .start horderly hfit
  | stop => exact .stop horderly
  | take streams idle accepted =>
    rw [streams] at horderly
    exact .of_work (streams ▸ .take horderly accepted) (by simp)
  | fetch polls fetching idle outcome =>
    rw [polls] at horderly
    exact .of_work (polls ▸ .receive horderly outcome) (by simp)
  | write streams writing => exact .write horderly streams writing
  | writeAll polls writing => exact .writeAll horderly polls writing
  | get kind key => exact .ask horderly (.get kind key)
  | all kind => exact .ask horderly (.all kind)
  | check checked => exact .check horderly checked
  | tell waits => exact .tell horderly _ _
  | attend step => exact .listeners horderly (fun _ => _) (by simp) id id fun _ h => h.step step
  | enlist name =>
    exact .listeners horderly (·.add name) (by simp) id id fun hspares h => h.add hspares
  | strike name =>
    exact .listeners horderly (·.remove name) (by simp) id id fun hspares h => h.remove hspares
  | elapse inner now delay journal listeners =>
    exact .elapse horderly inner now delay journal listeners

end Replica

end FlagReplica
