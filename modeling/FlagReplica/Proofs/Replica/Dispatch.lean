import FlagReplica.Proofs.Audience.Prospect
import FlagReplica.Proofs.Replica.Coupling

/-!
# What the dispatchers deliver in one go

The dispatchers of a replica deliver what waits one by one, and other things may happen in between.
Delivering everything in one go is a run of such deliveries: what a source makes of its store's
health does not depend on who else listens, so that it makes no difference whether the listeners
hear each health along with the source or all of them afterwards.
-/

namespace FlagReplica

variable {σ : Type}

/-! ## The source and the other listeners -/

/-- A report has nothing to do with the store. -/
theorem Gateway.report_withStore (g : Gateway σ) (store : σ) (state : SyncState)
    (failure? : Option Failure) :
    ({ g with store }.report state failure?).2 =
      { (g.report state failure?).2 with store } := by
  rw [report_eq, report_eq]
  split <;> rfl

namespace StreamSource

/-- The source over another store. -/
def withStore (s : StreamSource σ) (store : σ) : StreamSource σ :=
  { s with gateway := { s.gateway with store } }

/-- Neither has a restart. -/
theorem restart_withStore {s : StreamSource σ} (hl : s.Linked) (store : σ) :
    ((s.withStore store).restart false).2 = (s.restart false).2.withStore store := by
  cases hr : s.running with
  | false => simp [restart, withStore, hr]
  | true =>
    have hother : (s.withStore store).running = true := hr
    rw [restart_eq hr (hl hr), restart_eq hother (hl hr)]
    rfl

/-- So what a source makes of its store's health does not depend on the store. -/
theorem hearHealth_withStore {s : StreamSource σ} (h : s.stopsUpon = none) (hl : s.Linked)
    (store : σ) (health : Health) :
    ((s.withStore store).hearHealth health).2 = (s.hearHealth health).2.withStore store := by
  have hother : (s.withStore store).stopsUpon = none := h
  have hreport : ∀ state failure?, (s.withStore store).report state failure? =
      (s.report state failure?).withStore store := by
    intro state failure?
    rw [report_of_unstopped h, report_of_unstopped hother]
    exact congrArg (fun gateway => { s with gateway }) (s.gateway.report_withStore store state _)
  have hrunning : (s.withStore store).running = s.running := rfl
  unfold hearHealth
  rw [hrunning]
  split
  · rfl
  · split
    · exact hreport _ _
    · split
      · exact restart_withStore (s := s.note .refreshing) hl store
      · rfl

end StreamSource

namespace Source

variable {source : Source σ}

/-- The source over another store. -/
def withStore (source : Source σ) (store : σ) : Source σ :=
  source.withGateway { source.gateway with store }

theorem withStore_withStore (source : Source σ) (store store' : σ) :
    (source.withStore store).withStore store' = source.withStore store' := by
  cases source <;> rfl

theorem Wired.hearPublished_withStore (h : source.Wired) (store : σ) (health : Health) :
    (source.withStore store).hearPublished health =
      (source.hearPublished health).withStore store := by
  rcases h.cases with ⟨hunmade, -, -, hdeaf⟩ | ⟨s, rfl, sound, linked, subscribed⟩
  · rw [hdeaf]
    cases source with
    | idle g => rfl
    | refused s => rfl
    | _ => exact absurd hunmade (by simp [readiness?])
  · have hother : (s.withStore store).Subscribed := subscribed
    show (Source.streaming (s.withStore store)).hearPublished health = _
    rw [hearPublished_eq hother, hearPublished_eq subscribed,
      StreamSource.hearHealth_withStore sound.stopsUpon linked]
    rfl

/-- The delay that the line of the source has chosen, if it has a line. -/
def delay : Source σ → Millis
  | streaming s => s.line.retryDelay
  | _ => 0

/-- The source when it has heard of all that was published. -/
def hearAll (source : Source σ) (published : List Health) : Source σ :=
  published.foldl (fun source h => source.hearPublished h) source

namespace Wired

theorem hearAll (h : source.Wired) (published : List Health) :
    (source.hearAll published).Wired ∧
      (source.hearAll published).gateway.store = source.gateway.store := by
  induction published generalizing source with
  | nil => exact ⟨h, rfl⟩
  | cons health published ih =>
    rcases h.hearPublished health with ⟨hwired, hstore, -⟩
    rcases ih hwired with ⟨hall, hsame⟩
    exact ⟨hall, hsame.trans hstore⟩

theorem hearAll_withStore (h : source.Wired) (store : σ) (published : List Health) :
    (source.withStore store).hearAll published = (source.hearAll published).withStore store := by
  induction published generalizing source with
  | nil => rfl
  | cons health published ih =>
    show ((source.withStore store).hearPublished health).hearAll published = _
    rw [h.hearPublished_withStore, ih (h.hearPublished health).1]
    rfl

end Wired

end Source

/-! ## Runs of deliveries -/

namespace Replica

/-- The replica when its source has heard of all that was published, and everybody else has become
`listeners`. -/
def hearAll (r : Replica σ) (published : List Health) (listeners : Audience Health) : Replica σ :=
  r.withSource ((r.source.hearAll published).withStore
    { r.store with feed := { r.store.feed with audience := listeners } })

theorem store_hearAll (r : Replica σ) (published : List Health) (listeners : Audience Health) :
    (r.hearAll published listeners).store =
      { r.store with feed := { r.store.feed with audience := listeners } } :=
  congrArg Gateway.store (Source.withGateway_gateway _ _)

/-- Other listeners are another store to the source. -/
theorem source_withListeners (r : Replica σ) (listeners : Audience Health) :
    (r.withListeners listeners).source =
      r.source.withStore { r.store with feed := { r.store.feed with audience := listeners } } :=
  rfl

/-- One delivery comes first, and the others after it. -/
theorem hearAll_tell {r : Replica σ} (hw : r.source.Wired) (health : Health) (queue : List Health)
    (listeners : Audience Health) :
    (r.tell health queue).hearAll queue listeners = r.hearAll (health :: queue) listeners := by
  rcases hw.hearPublished health with ⟨hwired, hstore, -⟩
  have hother : (r.withSource (r.source.hearPublished health)).store = r.store := hstore
  have hsource : (r.tell health queue).source =
      (r.source.hearPublished health).withStore
        { r.store with
          feed := { r.store.feed with audience := r.store.feed.audience.pass health queue } } := by
    rw [tell, source_withListeners, hother]
    rfl
  have htold : (r.tell health queue).store =
      { r.store with
        feed := { r.store.feed with audience := r.store.feed.audience.pass health queue } } := by
    rw [tell, store_withListeners, hother]
  rw [hearAll, htold, hsource, hwired.hearAll_withStore, Source.withStore_withStore]
  rfl

/-- What is left to be done afterwards: the listeners hear everything, and what failed over it is
noted. -/
theorem settle_eq_elapse {r : Replica σ} (hw : r.source.Wired) (listeners : Audience Health) :
    ∃ now delay journal statuses,
      (r.hearAll r.store.feed.audience.queue listeners).elapse r.store.inner now delay journal
        statuses r.store.feed.audience.settle.takeNotices.2 = r.settle := by
  have hstore := (hw.hearAll r.store.feed.audience.queue).2
  have hsettle : r.settle =
      (r.withSource (r.source.hearAll r.store.feed.audience.queue)).mapGateway fun g =>
        { g with
          store :=
            { g.store with
              feed :=
                { g.store.feed with audience := g.store.feed.audience.settle.takeNotices.2 } }
          journal := g.journal ++ g.store.feed.audience.settle.notices }.settle := rfl
  rw [hsettle, Replica.hearAll]
  generalize r.source.hearAll r.store.feed.audience.queue = source at hstore
  refine ⟨source.gateway.now, source.delay, source.gateway.journal ++
    r.store.feed.audience.settle.notices ++ source.gateway.audience.settle.notices,
    source.gateway.audience.settle.takeNotices.2, ?_⟩
  -- the store is the one that the replica had before
  cases source with
  | idle g =>
    rcases g with ⟨store, _⟩
    subst hstore
    rfl
  | refused s =>
    rcases s with ⟨⟨store, _⟩, _⟩
    subst hstore
    rfl
  | streaming s =>
    rcases s with ⟨⟨store, _⟩, _⟩
    subst hstore
    rfl
  | polling s =>
    rcases s with ⟨⟨store, _⟩, _⟩
    subst hstore
    rfl

end Replica

namespace Stage.Run

variable [Repository σ]

/-- The dispatcher delivers what waits, one health after another. -/
theorem tellAll {r : Replica σ} (hw : r.source.Wired) (progress : Progress) {queue : List Health}
    (hqueue : r.store.feed.audience.queue = queue) :
    ∃ past listeners, listeners.queue = [] ∧
      listeners.dispatcher = r.store.feed.audience.dispatcher ∧
      Run ⟨r, progress⟩ past ⟨r.hearAll queue listeners, progress⟩ := by
  -- on the reports still in the queue, with the replica they are told to left free
  induction queue generalizing r with
  | nil =>
    have hsame : r.hearAll [] r.store.feed.audience = r := by
      rcases r with ⟨settings, refusal, setup, telemetry, source⟩
      cases source <;> rfl
    refine ⟨[], r.store.feed.audience, hqueue, rfl, ?_⟩
    rw [hsame]
    exact .nil
  | cons health queue ih =>
    rcases hw.hearPublished health with ⟨hwired, hstore, -⟩
    -- a source hearing a report leaves the store, and so the rest of the queue, alone
    have hother : (r.withSource (r.source.hearPublished health)).store = r.store := hstore
    have htold : (r.tell health queue).store.feed.audience =
        r.store.feed.audience.pass health queue := by
      rw [Replica.tell, Replica.store_withListeners]
    have hfirst : Run ⟨r, progress⟩ _ ⟨r.tell health queue, progress⟩ :=
      Run.nil.snoc (.tell hqueue)
    rcases ih (r := r.tell health queue) (hwired.withGateway hwired.recorded) (by rw [htold]; rfl)
      with ⟨past, listeners, hempty, hdispatcher, hrest⟩
    rw [Replica.hearAll_tell hw] at hrest
    rw [htold] at hdispatcher
    exact ⟨_, listeners, hempty, hdispatcher, hfirst.trans hrest⟩

/-- So delivering everything in one go is a run, if nobody who listens for the store's health does
anything about it. -/
theorem settle {r : Replica σ} (hw : r.source.Wired) (hmute : r.store.feed.audience.Mute)
    (progress : Progress) : ∃ past, Run ⟨r, progress⟩ past ⟨r.settle, progress⟩ := by
  rcases tellAll hw progress rfl with ⟨past, listeners, hempty, hdispatcher, hrun⟩
  rcases hmute.settle_delivers with ⟨hdelivers, -, hdone⟩
  rcases hw.hearAll r.store.feed.audience.queue with ⟨hwired, hstore⟩
  rcases Replica.settle_eq_elapse hw listeners with ⟨now, delay, journal, statuses, hsettled⟩
  have hstore := Replica.store_hearAll r r.store.feed.audience.queue listeners
  have helapsed := hrun.snoc (.elapse _ r.store.inner now delay journal statuses
    r.store.feed.audience.settle.takeNotices.2 ?_ ?_)
  · rw [hsettled] at helapsed
    exact ⟨_, helapsed⟩
  · show r.store.feed.audience.settle.queue = _
    rw [hstore, hdone, hempty]
  · show r.store.feed.audience.settle.dispatcher = _
    rw [hstore, hdelivers.dispatcher, hdispatcher]

end Stage.Run

end FlagReplica
