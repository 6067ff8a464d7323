import FlagReplica.Proofs.Replica.Reconnects
import FlagReplica.Proofs.Replica.Run
import FlagReplica.Proofs.Source.Shut
import Mathlib.Logic.Relation

/-!
# What a stop leaves behind

A replica that has been started and is stopped has nothing left to do but to deliver what waits for
its dispatchers. Its listeners then have heard of every change of the status up to the last one,
whoever waited for the start knows how it went, and nobody goes on asking about the store. Starts
and stops that follow are noted at most.
-/

namespace FlagReplica

variable {σ : Type}

/-! ## Values one after another -/

section Destutter

variable {α : Type} [DecidableEq α]

theorem destutter'_concat (first : α) (l : List α) (b : α) :
    (l ++ [b]).destutter' (· ≠ ·) first =
      l.destutter' (· ≠ ·) first ++ if b = l.getLast?.getD first then [] else [b] := by
  -- the value that counts as the last one moves along the list, so that `first` has to vary
  induction l generalizing first with
  | nil =>
    by_cases h : b = first
    · simp [List.destutter', h]
    · simp [List.destutter', h, Ne.symm h]
  | cons a l ih =>
    have hlast : (a :: l).getLast?.getD first = l.getLast?.getD a := by
      rw [List.getLast?_cons, Option.getD_some]
    rw [hlast, List.cons_append]
    by_cases h : first = a
    · simp only [List.destutter', h, ne_eq, not_true_eq_false, if_false]
      exact ih a
    · simp only [List.destutter', h, ne_eq, not_false_eq_true, if_true, List.cons_append]
      exact congrArg _ (ih a)

/-- One more value counts only if it is not the last one again. -/
theorem destutter_concat {l : List α} {a : α} (h : l.getLast? = some a) (b : α) :
    (l ++ [b]).destutter (· ≠ ·) = l.destutter (· ≠ ·) ++ if b = a then [] else [b] := by
  cases l with
  | nil => exact absurd h (by simp)
  | cons first rest =>
    have hlast : rest.getLast?.getD first = a := by
      rwa [List.getLast?_cons, Option.some.injEq] at h
    rw [List.cons_append, List.destutter_cons', List.destutter_cons', destutter'_concat, hlast]

end Destutter

/-! ## What a stop does to the gateway -/

namespace Source

variable (source : Source σ) (g g' : Gateway σ)

theorem withGateway_self : source.withGateway source.gateway = source := by
  cases source <;> rfl

theorem withGateway_withGateway :
    (source.withGateway g).withGateway g' = source.withGateway g' := by
  cases source <;> rfl

end Source

namespace Gateway

/-- The gateway when nobody asks about the store any more and the dispatchers have been told to
end. -/
def quieted (g : Gateway (WatchedStore σ)) : Gateway (WatchedStore σ) :=
  { g with
    store := { g.store.stop with
      feed := { g.store.stop.feed with audience := g.store.stop.feed.audience.close } }
    audience := g.audience.close }

theorem quieted_note (g : Gateway (WatchedStore σ)) (n : Notice) :
    (g.note n).quieted = g.quieted.note n := rfl

theorem quieted_quieted (g : Gateway (WatchedStore σ)) : g.quieted.quieted = g.quieted := by
  simp [quieted, Audience.close, WatchedStore.stop, WatchedStore.dismiss]

end Gateway

namespace Replica

variable {r₀ r r' : Replica σ} {past : List (Happening × Status)}

theorem mapGateway_mapGateway (r : Replica σ)
    (f f' : Gateway (WatchedStore σ) → Gateway (WatchedStore σ)) :
    (r.mapGateway f).mapGateway f' = r.mapGateway fun g => f' (f g) := by
  have hgateway := gateway_mapGateway r f
  show r.withSource ((r.mapGateway f).source.withGateway (f' (r.mapGateway f).gateway)) = _
  rw [hgateway, mapGateway, Source.withGateway_withGateway]
  rfl

/-! ## What a run tells of -/

/-- What holds of a replica that is fit for a source after a run without a stop. -/
structure Lived (past : List (Happening × Status)) (r : Replica σ) : Prop where
  kept : Kept r
  ended_iff : r.source.standing.running = false ↔ ∃ a ∈ happenings past, a.Ends
  succeeded_iff : r.source.standing.readiness = .succeeded ↔
    Foremost Happening.StoresAll Happening.Ends (happenings past)

theorem Fresh.lived (h : r.Fresh) (hfit : r.Fit) : Lived [] r := by
  rcases h.source with ⟨g, hidle⟩
  have hnone : ¬ Foremost Happening.StoresAll Happening.Ends [] := Foremost.not_nil
  refine ⟨h.kept hfit, ?_, ?_⟩
  · simp [hidle, Source.standing, happenings]
  · simp [hidle, Source.standing, happenings, hnone]

section Runs

variable [Repository σ]

/-- A listener that is there from the start is told of every change of the status, and of no other
value. -/
theorem Run.awaits (hfresh : r₀.Fresh) (hfit : r₀.Fit) (run : Run r₀ past r) {name : Text}
    (hretains : r₀.gateway.audience.Retains name)
    (once : r₀.gateway.audience.registered.count name = 1)
    (hspares : ∀ a ∈ happenings past, a.Spares name) :
    ∃ told, Audience.Awaits name told r.gateway.audience ∧
      r₀.gateway.status :: told = (statuses r₀.gateway.status past).destutter (· ≠ ·) ∧
      (r₀.gateway.status :: told).getLast? = some r.gateway.status := by
  induction run with
  | nil =>
    have hlistens := Audience.Listens.of_unused hretains once hfresh.unused
    exact ⟨[], ⟨hlistens, hfresh.dispatched⟩, rfl, rfl⟩
  | @snoc past r r' a run step ih =>
    rw [happenings_concat] at hspares
    rcases ih fun b hb => hspares b (List.mem_append_left _ hb) with
      ⟨told, hawaits, hdestutter, hlast⟩
    have hkept := (hfresh.kept hfit).run run
    have htold := (step.consequences hkept.orderly hkept.fit).awaits
      (hspares a (List.mem_append_right _ List.mem_cons_self)) hawaits
    refine ⟨_, htold, ?_, ?_⟩
    · -- the listener is told of the new status exactly if it differs from the last one
      rw [statuses_concat, destutter_concat run.getLast?_statuses, ← hdestutter]
      rfl
    · by_cases hsame : r'.gateway.status = r.gateway.status
      · rw [if_pos hsame, List.append_nil, hlast, hsame]
      · rw [if_neg hsame, ← List.cons_append, List.getLast?_concat]

theorem Lived.step (h : Lived past r) {a : Happening} (hs : Step r a r') (hgoes : a ≠ .stopped)
    (status : Status) : Lived (past ++ [(a, status)]) r' := by
  have heffect := (hs.consequences h.kept.orderly h.kept.fit).effect fun hstop => absurd hstop hgoes
  have hends : (∃ b ∈ happenings past ++ [a], b.Ends) ↔
      (∃ b ∈ happenings past, b.Ends) ∨ a.Ends := by
    simp only [List.mem_append, List.mem_singleton, or_and_right, exists_or, exists_eq_left]
  have hgoing : (∀ b ∈ happenings past, ¬ b.Ends) ↔ r.source.standing.running = true := by
    rw [← Bool.not_eq_false, h.ended_iff]
    simp
  refine ⟨h.kept.step hs, ?_, ?_⟩
  · rw [heffect.running_iff Happening.not_ends_of_storesAll, happenings_concat, hends, h.ended_iff]
  · rw [heffect.succeeded_iff h.kept.coherent Happening.not_ends_of_storesAll, happenings_concat,
      Foremost.snoc, h.succeeded_iff, hgoing]

theorem Run.lived (hfresh : r₀.Fresh) (hfit : r₀.Fit) (run : Run r₀ past r)
    (hgoes : Happening.stopped ∉ happenings past) : Lived past r := by
  induction run with
  | nil => exact hfresh.lived hfit
  | snoc _ step ih =>
    rw [happenings_concat, List.mem_append, not_or, List.mem_singleton] at hgoes
    exact (ih hgoes.1).step step (Ne.symm hgoes.2) _

end Runs

/-! ## Calls that follow -/

/-- Nothing is left for a stop to do, whatever is noted meanwhile. -/
structure Closed (r : Replica σ) : Prop where
  made : r.source.readiness?.isSome = true
  source : ∀ g : Gateway (WatchedStore σ), g.status.state = .off →
    (r.source.withGateway g).stop = r.source.withGateway g
  state : r.gateway.status.state = .off
  quieted : r.gateway.quieted = r.gateway

theorem gateway_stop (r : Replica σ) : r.stop.gateway = r.source.stop.gateway.quieted :=
  gateway_mapGateway (r.withSource r.source.stop) Gateway.quieted

/-- One stop closes a replica that has a source. -/
theorem stop_closed (made : r.source.readiness?.isSome = true) : r.stop.Closed := by
  have hstop : r.stop = (r.withSource r.source.stop).mapGateway Gateway.quieted := rfl
  have hsource : r.stop.source = r.source.stop.withGateway r.source.stop.gateway.quieted := rfl
  constructor
  · rw [hstop, readiness?_mapGateway]
    cases hkind : r.source with
    | idle g => exact absurd made (by simp [hkind, Source.readiness?])
    | refused s => exact absurd made (by simp [hkind, Source.readiness?])
    | streaming s => rfl
    | polling s => rfl
  · intro g hoff
    rw [hsource, Source.withGateway_withGateway]
    exact r.source.stop_stop g hoff
  · -- the source has ended, and closing the audiences leaves its status alone
    have hstate := Source.standing_state r.source.stop
    rw [Source.standing_stop made] at hstate
    rw [gateway_stop]
    exact hstate.symm
  · rw [gateway_stop, Gateway.quieted_quieted]

/-- A start or a stop. -/
def Called (r r' : Replica σ) : Prop :=
  r' = r.start.2 ∨ r' = r.stop

/-- The replica with so many starts noted that came too late. -/
def overdue (r : Replica σ) (n : Nat) : Replica σ :=
  r.mapGateway fun g => { g with journal := g.journal ++ List.replicate n .startedAgain }

namespace Closed

/-- What is noted opens nothing. -/
theorem note (h : r.Closed) (n : Notice) : (r.mapGateway (·.note n)).Closed := by
  constructor
  · rw [readiness?_mapGateway]
    exact h.made
  · intro g hoff
    rw [mapGateway, Source.withGateway_withGateway]
    exact h.source g hoff
  · rw [gateway_mapGateway]
    exact h.state
  · rw [gateway_mapGateway, Gateway.quieted_note, h.quieted]

theorem stop (h : r.Closed) : r.stop = r := by
  have hself : r.source.withGateway r.gateway = r.source := r.source.withGateway_self
  have hsource : r.source.stop = r.source := by
    have hstop := h.source r.gateway h.state
    rwa [hself] at hstop
  have hstop : r.stop = (r.withSource r.source.stop).mapGateway Gateway.quieted := rfl
  rw [hstop, hsource]
  show r.withSource (r.source.withGateway r.gateway.quieted) = r
  rw [h.quieted, hself]
  rfl

theorem start (h : r.Closed) : r.start = (.ok (), r.mapGateway (·.note .startedAgain)) :=
  start_of_made h.made

/-- Starts and stops in any number leave a note of each start and nothing else. -/
theorem calls (h : r.Closed) (calls : Relation.ReflTransGen Called r r') :
    r'.Closed ∧ ∃ n, r' = r.overdue n := by
  induction calls with
  | refl =>
    refine ⟨h, 0, ?_⟩
    have hself : r.source.withGateway r.gateway = r.source := r.source.withGateway_self
    simp only [overdue, List.replicate_zero, List.append_nil]
    show r = r.withSource (r.source.withGateway r.gateway)
    rw [hself]
    rfl
  | tail _ call ih =>
    rcases ih with ⟨hclosed, n, rfl⟩
    -- a start adds one note to those that came before, a stop adds nothing
    rcases call with rfl | rfl
    · rw [hclosed.start]
      refine ⟨hclosed.note _, n + 1, ?_⟩
      simp only [overdue, mapGateway_mapGateway, Gateway.note, List.replicate_succ',
        List.append_assoc]
    · rw [hclosed.stop]
      exact ⟨hclosed, n, rfl⟩

end Closed

/-! ## The whole of it -/

/-- What a stop leaves behind, after every run from some time before the first start in which a
replica was started and not stopped yet. A listener of its status that was there when the run began,
and that nobody took off, has heard exactly the changes of the status as soon as the dispatcher has
nothing left to do: one after another, once each, and off at the end. Whoever waits for the start
has been told how it went, and that is a success exactly if a full data set was stored before the
credentials were rejected, if ever they were. A later start finds the source and its signal as they
are, starts and stops in any number after the stop leave a note of each start and nothing else, and
nobody goes on asking about the store. -/
theorem Run.shutdown [Repository σ] (hfresh : r₀.Fresh) (hfit : r₀.Fit) (run : Run r₀ past r)
    (hstarted : Happening.started ∈ happenings past)
    (hgoes : Happening.stopped ∉ happenings past) :
    (∀ name, r₀.gateway.audience.Retains name → r₀.gateway.audience.registered.count name = 1 →
      (∀ a ∈ happenings past, a.Spares name) →
      ∃ fuel, (r.stop.gateway.audience.run fuel).step = none ∧
        r₀.gateway.status :: (r.stop.gateway.audience.run fuel).heardBy name =
          (statuses r₀.gateway.status past ++ [r.stop.gateway.status]).destutter (· ≠ ·) ∧
        ((r.stop.gateway.audience.run fuel).heardBy name).getLast? = some r.stop.gateway.status) ∧
      r.stop.gateway.status.state = .off ∧
      (∃ signal, r.stop.source.readiness? = some signal ∧ signal ≠ .pending ∧
        (signal = .succeeded ↔
          Foremost Happening.StoresAll Happening.Ends (happenings past))) ∧
      r.start = (.ok (), r.mapGateway (·.note .startedAgain)) ∧
      (∀ r', Relation.ReflTransGen Called r.stop r' →
        r'.start.1 = .ok () ∧ r'.stop = r' ∧ ∃ n, r' = r.stop.overdue n) ∧
      r.stop.store.Unasked := by
  have hlived := run.lived hfresh hfit hgoes
  have made : r.source.readiness?.isSome = true :=
    (run.made_iff (hfresh.kept hfit)).2 (.inr hstarted)
  have hclosed := stop_closed made
  have hstopped := run.snoc (.stop r)
  refine ⟨?_, hclosed.state, ?_, start_of_made made, ?_, ?_⟩
  · intro name hretains once hspares
    have hspares' : ∀ a ∈ happenings (past ++ [(.stopped, r.stop.gateway.status)]),
        a.Spares name := by
      intro a ha
      rw [happenings_concat, List.mem_append, List.mem_singleton] at ha
      rcases ha with ha | rfl
      · exact hspares a ha
      · exact trivial
    rcases hstopped.awaits hfresh hfit hretains once hspares'
      with ⟨told, hawaits, hdestutter, hlast⟩
    rcases hawaits.listens.rests with ⟨fuel, hrests, hheard⟩
    refine ⟨fuel, hrests, ?_, ?_⟩
    · rw [hheard, hdestutter, statuses_concat]
    · rw [hheard]
      cases told with
      | nil =>
        -- the last status is not the first one
        have hsame : r₀.gateway.status = r.stop.gateway.status := Option.some.inj hlast
        have hoff := hclosed.state
        rw [← hsame, hfresh.state] at hoff
        exact absurd hoff (by decide)
      | cons status told => rwa [List.getLast?_cons_cons] at hlast
  · have hended : r.stop.source.standing = r.source.standing.ended := by
      have hstands : r.stop.source.standing = r.source.stop.standing :=
        Source.standing_withGateway rfl
      exact hstands.trans (Source.standing_stop made)
    refine ⟨_, Source.readiness?_eq hclosed.made, ?_, ?_⟩
    · rw [hended]
      exact Readiness.settled_ne_pending _ _
    · have heffect : r.source.standing.Effect True False r.source.standing.ended := .ended trivial
      rw [hended, heffect.succeeded_iff hlived.kept.coherent False.elim, hlived.succeeded_iff]
      simp
  · intro r' hcalls
    rcases hclosed.calls hcalls with ⟨hclosed', hoverdue⟩
    exact ⟨congrArg Prod.fst hclosed'.start, hclosed'.stop, hoverdue⟩
  · have hadvances : Source.Advances True False r.source r.source.stop :=
      .stop hlived.kept.orderly made trivial
    have hstore : r.source.stop.gateway.store = r.store := hadvances.moves.store
    have hunasked : r.source.stop.gateway.store.stop.Unasked := by
      rw [hstore]
      exact hlived.kept.guarded.dismiss_unasked
    rw [store, gateway_stop]
    exact hunasked

/-! ## A stop during an outage -/

/-- A replica that polls, with one listener of its status. -/
def attended : Replica Memory :=
  (create (Settings.ofOptions { sdkKey := .string "key", stream := .boolean false }).1 {}
    ⟨some true, true⟩ none .null 0 none).mapGateway
      fun g => { g with audience := g.audience.add "main" }

theorem attended_fresh : attended.Fresh :=
  (fresh_create _ _ _ _ _ _ _).enlist "main"

theorem attended_retains : attended.gateway.audience.Retains "main" := by
  refine ⟨?_, fun d hd => absurd hd List.not_mem_nil⟩
  intro c hc past value x hx
  rcases List.mem_singleton.1 hc with rfl
  exact absurd hx List.not_mem_nil

theorem attended_polls :
    ∃ fetcher, attended.makeSource = .ok (.polling (attended.newPolls fetcher)) :=
  ⟨_, rfl⟩

/-- The first full data set is stored, then the store breaks down, and the second is refused. -/
def breakdown : List Happening :=
  [.started, .fetched (.ok (.value (.object []))), .written .emptied (.ok true), .elapsed,
    .fetched (.ok (.value (.object []))), .written .emptied (.error (.other "OSError" "gone"))]

/-- The status changes twice, and a watcher is left asking about the store. -/
theorem attended_breaks_down :
    ∃ past r, Run attended past r ∧ happenings past = breakdown ∧
      r.store.watchers = [⟨0, false⟩] ∧
      ((statuses attended.gateway.status past ++ [r.stop.gateway.status]).destutter (· ≠ ·)).map
        (·.state) = [.initializing, .valid, .interrupted, .off] := by
  obtain ⟨fetcher, hmake⟩ := attended_polls
  have hstarted := Run.nil.snoc (.start attended)
  rw [start_of_makable rfl hmake] at hstarted
  have hstored := (hstarted.snoc (.fetch rfl rfl rfl (.ok (.value (.object []))))).snoc
    (.writeAll rfl rfl)
  -- the medium of the store breaks down, which shows when the next data set is written
  have hbroken := hstored.snoc
    (.elapse _ { outage := some (.other "OSError" "gone") } 0 0 [] _ rfl rfl)
  have hlost := (hbroken.snoc (.fetch rfl rfl rfl (.ok (.value (.object []))))).snoc
    (.writeAll rfl rfl)
  exact ⟨_, _, hlost, rfl, rfl, rfl⟩

/-- When the replica is stopped then, its listener hears of three changes, the start counts as a
success, and the watcher asks no more. -/
theorem Run.shutdown_during_outage :
    ∃ past r, attended.Fresh ∧ attended.Fit ∧ Run attended past r ∧ happenings past = breakdown ∧
      ¬ r.store.Unasked ∧ r.stop.store.Unasked ∧
      r.stop.source.readiness? = some .succeeded ∧
      ∃ fuel, (r.stop.gateway.audience.run fuel).step = none ∧
        ((r.stop.gateway.audience.run fuel).heardBy "main").map (·.state) =
          [.valid, .interrupted, .off] := by
  obtain ⟨past, r, hrun, hpast, hwatchers, hstates⟩ := attended_breaks_down
  obtain ⟨fetcher, hmake⟩ := attended_polls
  rcases hrun.shutdown attended_fresh ⟨rfl, _, hmake⟩ (by simp [hpast, breakdown])
    (by simp [hpast, breakdown]) with ⟨hhears, -, ⟨signal, hsignal, -, hsucceeded⟩, -, -, hunasked⟩
  -- the first fetch ends before the breakdown, so readiness is already settled
  have hstored : Foremost Happening.StoresAll Happening.Ends (happenings past) := by
    rw [hpast]
    exact ⟨[.started, .fetched (.ok (.value (.object [])))], _, _, rfl, trivial,
      by simp [Happening.Ends, PollHappening.Ends]⟩
  refine ⟨past, r, attended_fresh, ⟨rfl, _, hmake⟩, hrun, hpast, ?_, hunasked, ?_, ?_⟩
  · intro hnobody
    exact absurd (hnobody ⟨0, false⟩ (by simp [hwatchers])) (by decide)
  · rw [hsignal, hsucceeded.2 hstored]
  · have hspares : ∀ a ∈ happenings past, a.Spares "main" := by
      simp [hpast, breakdown, Happening.Spares]
    rcases hhears "main" attended_retains rfl hspares with ⟨fuel, hrests, hheard, -⟩
    rw [← hheard, List.map_cons] at hstates
    exact ⟨fuel, hrests, (List.cons.inj hstates).2⟩

end Replica

end FlagReplica
