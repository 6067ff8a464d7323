import FlagReplica.Proofs.Replica.Steps

/-!
# Runs of a replica

Happenings one after another. Until the first start or stop a replica stays as fresh as it was made.
Whatever is started and stopped later, one that is fit for a source stays coherent and its store
guarded, and there is one source from the first start on. What a stream or a poll does in one go is
a run.
-/

namespace FlagReplica

variable {σ : Type}

namespace Replica

/-- Happenings one after another, the latest at the end, each with the status that it left. -/
inductive Run [Repository σ] (r : Replica σ) :
    List (Happening × Status) → Replica σ → Prop where
  | nil : Run r [] r
  | snoc {past : List (Happening × Status)} {r' r'' : Replica σ} {a : Happening}
      (run : Run r past r') (step : Step r' a r'') : Run r (past ++ [(a, r''.gateway.status)]) r''

/-- The happenings of a run. -/
def happenings (past : List (Happening × Status)) : List Happening :=
  past.map Prod.fst

/-- The statuses that a run leads through, with the first one in front. -/
def statuses (first : Status) (past : List (Happening × Status)) : List Status :=
  first :: past.map Prod.snd

theorem happenings_concat (past : List (Happening × Status)) (a : Happening) (status : Status) :
    happenings (past ++ [(a, status)]) = happenings past ++ [a] := by
  simp [happenings]

theorem statuses_concat (first : Status) (past : List (Happening × Status)) (a : Happening)
    (status : Status) :
    statuses first (past ++ [(a, status)]) = statuses first past ++ [status] := by
  simp [statuses]

/-- A replica before its first start or stop. Listeners of its status may have been registered, and
are served by a dispatcher, and its store may have been asked. -/
structure Fresh (r : Replica σ) : Prop where
  source : ∃ g, r.source = .idle g
  state : r.gateway.status.state = .initializing
  error : r.gateway.status.error = none
  guarded : r.store.Guarded
  dispatched : r.gateway.audience.dispatcher ≠ none
  unused : r.gateway.audience.Unused

/-- A replica is fresh when it is made. -/
theorem fresh_create (settings : Settings) (store : σ) (probe : HealthProbe)
    (setup : Option Json.Value) (id : Json.Value) (now : Millis) (refusal : Option SettingFault) :
    (create settings store probe setup id now refusal).Fresh := by
  have hunasked : (create settings store probe setup id now refusal).store.Unasked :=
    fun watcher hw => absurd hw List.not_mem_nil
  exact ⟨⟨_, rfl⟩, rfl, rfl, hunasked.guarded, Option.some_ne_none _, ⟨rfl, rfl, rfl⟩⟩

namespace Fresh

variable {r r' : Replica σ}

/-- It stays so as long as its status does and nobody is told of it. -/
theorem mapGateway (h : r.Fresh) {f : Gateway (WatchedStore σ) → Gateway (WatchedStore σ)}
    (hstatus : (f r.gateway).status = r.gateway.status) (hguarded : (f r.gateway).store.Guarded)
    (hdispatcher : (f r.gateway).audience.dispatcher = r.gateway.audience.dispatcher)
    (hunused : (f r.gateway).audience.Unused) : (r.mapGateway f).Fresh := by
  rcases h.source with ⟨g, hidle⟩
  constructor
  · exact ⟨f r.gateway, by rw [Replica.mapGateway, hidle]; rfl⟩
  · rw [gateway_mapGateway, hstatus]
    exact h.state
  · rw [gateway_mapGateway, hstatus]
    exact h.error
  · rw [store, gateway_mapGateway]
    exact hguarded
  · rw [gateway_mapGateway, hdispatcher]
    exact h.dispatched
  · rw [gateway_mapGateway]
    exact hunused

/-- Listeners of its status are registered. -/
theorem enlist (h : r.Fresh) (name : Text) :
    (r.mapGateway fun g => { g with audience := g.audience.add name }).Fresh := by
  obtain ⟨described, hadd⟩ := Audience.exists_add r.gateway.audience name
  refine h.mapGateway rfl h.guarded ?_ (h.unused.add name)
  rw [hadd]

/-- Its store is asked. -/
theorem withStore (h : r.Fresh) (notices : List Notice) {store : WatchedStore σ}
    (hguarded : store.Guarded) : (r.withStore notices store).Fresh :=
  h.mapGateway rfl hguarded rfl h.unused

/-- Whatever happens before the first start or stop leaves a replica fresh. -/
theorem step [Repository σ] (h : r.Fresh) {a : Happening} (hs : Step r a r')
    (hstart : a ≠ .started) (hstop : a ≠ .stopped) : r'.Fresh := by
  -- no source was made yet, so the steps of a source cannot be taken
  rcases h.source with ⟨g, hidle⟩
  cases hs with
  | start => exact absurd rfl hstart
  | stop => exact absurd rfl hstop
  | take streams => exact absurd (hidle.symm.trans streams) (by simp)
  | fetch polls => exact absurd (hidle.symm.trans polls) (by simp)
  | write streams => exact absurd (hidle.symm.trans streams) (by simp)
  | writeAll polls => exact absurd (hidle.symm.trans polls) (by simp)
  | get kind key => exact h.withStore _ (h.guarded.ask (.get kind key))
  | all kind => exact h.withStore _ (h.guarded.ask (.all kind))
  | check checked =>
    rcases Option.map_eq_some_iff.1 checked with ⟨⟨notices, store⟩, hheard, rfl⟩
    exact h.withStore notices (h.guarded.hear hheard)
  | @tell health queue waits =>
    -- a report reaches no source either
    have hdeaf : r.source.hearPublished health = r.source := by
      rw [hidle]
      rfl
    unfold tell
    rw [hdeaf]
    exact h.mapGateway rfl (h.guarded.congr rfl rfl rfl) rfl h.unused
  | attend step =>
    rw [h.unused.step] at step
    exact absurd step (by simp)
  | enlist name => exact h.enlist name
  | strike name =>
    exact h.mapGateway rfl h.guarded rfl ⟨h.unused.heard, h.unused.underWay, h.unused.queue⟩
  | elapse inner now delay journal listeners =>
    have hnoLine : r.source.withDelay delay = r.source := by
      rw [hidle]
      rfl
    unfold elapse
    rw [hnoLine]
    exact h.mapGateway rfl (h.guarded.congr rfl rfl rfl) rfl h.unused

/-- So what is said of fresh replicas holds at any time before the first start or stop. -/
theorem run [Repository σ] (h : r.Fresh) {past : List (Happening × Status)}
    (run : Run r past r') (hstart : Happening.started ∉ happenings past)
    (hstop : Happening.stopped ∉ happenings past) : r'.Fresh := by
  induction run with
  | nil => exact h
  | snoc _ step ih =>
    rw [happenings_concat, List.mem_append, not_or, List.mem_singleton] at hstart hstop
    exact (ih hstart.1 hstop.1).step step (Ne.symm hstart.2) (Ne.symm hstop.2)

end Fresh

/-! ## What every run preserves -/

variable {r r' r'' : Replica σ} {a : Happening}

/-- What holds of a replica that is fit for a source after every run, whatever has been started and
stopped in it. -/
structure Kept (r : Replica σ) : Prop where
  fit : r.Fit
  orderly : r.source.Orderly
  coherent : r.source.standing.Coherent
  guarded : r.store.Guarded

theorem Fresh.kept (h : r.Fresh) (hfit : r.Fit) : Kept r := by
  rcases h.source with ⟨g, hidle⟩
  have hgateway : r.gateway = g := by
    rw [gateway, hidle]
    rfl
  refine ⟨hfit, ?_, ?_, ?_⟩
  · rw [hidle]
    refine .idle ?_
    intro record he
    rw [← hgateway, h.error] at he
    exact absurd he (by simp)
  · rw [hidle]
    have hstate : g.status.state = .initializing := hgateway ▸ h.state
    constructor
    · simp [Source.standing, hstate]
    · simp [Source.standing, hstate]
    · simp [Source.standing]
  · exact h.guarded

section Runs

variable [Repository σ] {past later : List (Happening × Status)}

theorem Kept.step (h : Kept r) (hs : Step r a r') : Kept r' := by
  have hall := hs.consequences h.orderly h.fit
  exact ⟨hs.fit_iff.2 h.fit, hall.orderly, h.coherent.move hall.move, hall.guarded h.guarded⟩

theorem Kept.run (h : Kept r) (run : Run r later r') : Kept r' := by
  induction run with
  | nil => exact h
  | snoc _ step ih => exact ih.step step

namespace Run

/-- There is a source if there was one, or as soon as there has been a start. -/
theorem made_iff (h : Kept r) (run : Run r later r') :
    r'.source.readiness?.isSome = true ↔
      r.source.readiness?.isSome = true ∨ .started ∈ happenings later := by
  induction run with
  | nil => simp [happenings]
  | @snoc later r' r'' a run step ih =>
    have hkept := h.run run
    rw [(step.consequences hkept.orderly hkept.fit).made, ih, happenings_concat]
    simp only [List.mem_append, List.mem_singleton, or_assoc, eq_comm]

/-- A replica stays fit for a source or unfit for one. -/
theorem fit_iff (run : Run r later r') : r'.Fit ↔ r.Fit := by
  induction run with
  | nil => exact Iff.rfl
  | snoc _ step ih => exact step.fit_iff.trans ih

/-- The last status that a run leads through is the present one. -/
theorem getLast?_statuses (run : Run r past r') :
    (statuses r.gateway.status past).getLast? = some r'.gateway.status := by
  cases run with
  | nil => rfl
  | snoc _ step => rw [statuses_concat, List.getLast?_concat]

/-- What a stream does with a delivery in one go is a run: it takes it, and ends the write that it
asks for. -/
theorem deliver {d : Delivered} {s : StreamSource (WatchedStore σ)}
    (streams : r.source = .streaming s) (idle : s.writing = none) (h : r.deliver d = some r') :
    ∃ past, Run r past r' := by
  have hdelivered : (s.deliver d).map (fun s => r.withSource (.streaming s)) = some r' := by
    rw [← h, Replica.deliver, streams]
    rfl
  cases haccept : s.accept d with
  | none =>
    rw [StreamSource.deliver, haccept] at hdelivered
    exact absurd hdelivered (by simp)
  | some s' =>
    rw [StreamSource.deliver, haccept] at hdelivered
    have htaken := (Run.nil (r := r)).snoc (.take streams idle haccept)
    rw [← Option.some.inj hdelivered]
    show ∃ past, Run r past (r.withSource (.streaming s'.write.2))
    cases hwriting : s'.writing with
    | none =>
      rw [StreamSource.write_of_idle hwriting]
      exact ⟨_, htaken⟩
    | some c => exact ⟨_, htaken.snoc (.write rfl hwriting)⟩

/-- So is a whole poll. -/
theorem poll {fetched : Except Fault Payload} {s : PollSource (WatchedStore σ)}
    (polls : r.source = .polling s) (idle : s.writing = none) (h : r.poll fetched = some r') :
    ∃ past, Run r past r' := by
  have hpolled : (if s.fetching then some (r.withSource (.polling (s.poll fetched))) else none) =
      some r' := by
    rw [← h, Replica.poll, polls]
    rfl
  cases hfetching : s.fetching with
  | false =>
    rw [hfetching] at hpolled
    exact absurd hpolled (by simp)
  | true =>
    rw [hfetching, if_pos rfl] at hpolled
    have hreceived := (Run.nil (r := r)).snoc (.fetch polls hfetching idle fetched)
    rw [← Option.some.inj hpolled, PollSource.poll]
    cases hwriting : (s.receive fetched).writing with
    | none =>
      have hdone : (s.receive fetched).write = s.receive fetched := by
        simp only [PollSource.write, hwriting]
      rw [hdone]
      exact ⟨_, hreceived⟩
    | some data => exact ⟨_, hreceived.snoc (.writeAll rfl hwriting)⟩

end Run

end Runs

end Replica

end FlagReplica
