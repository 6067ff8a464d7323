import FlagReplica.Proofs.Replica.Shutdown

/-!
# Which stops are final

A stop ends the source that there is. It remembers nothing otherwise: a replica without a source is
as startable after a stop as it was before. So a stop is final for a replica that was started, and
for one that is unfit for a source, be it that its settings are or that connections are refused to
them; for any other the next start makes a source, and that one is as good as any.
-/

namespace FlagReplica

variable {σ : Type}

namespace Source

variable {source : Source σ}

/-- Whether there is a source that was started and not stopped. -/
def active : Source σ → Bool
  | idle _ | refused _ => false
  | streaming s => s.running
  | polling s => s.isAlive

/-- The line of a stream chooses another delay. -/
theorem Still.withDelay (source : Source σ) (delay : Millis) :
    Still source (source.withDelay delay) := by
  cases source with
  | idle g => exact trivial
  | refused s => exact trivial
  | streaming s => exact ⟨rfl, rfl, rfl, .inl rfl, .inl rfl⟩
  | polling s => exact rfl

/-- Where nobody has the signal of a start there is no source yet, or a stream whose line was
refused. -/
theorem cases_of_unmade (h : source.readiness? = none) :
    (∃ g, source = .idle g) ∨ ∃ s, source = .refused s := by
  cases source with
  | idle g => exact .inl ⟨g, rfl⟩
  | refused s => exact .inr ⟨s, rfl⟩
  | streaming s => exact absurd h (by simp [readiness?])
  | polling s => exact absurd h (by simp [readiness?])

/-- Such a source has no line and no listener. -/
theorem eq_of_unmade (h : source.readiness? = none) (health : Health) (delay : Millis) :
    source.hearPublished health = source ∧ source.withDelay delay = source ∧
      source.active = false := by
  rcases cases_of_unmade h with ⟨g, rfl⟩ | ⟨s, rfl⟩ <;> exact ⟨rfl, rfl, rfl⟩

/-- A stop leaves the status alone or turns it off. -/
theorem stop_of_unmade (h : source.readiness? = none) :
    source.stop.readiness? = none ∧
      (source.stop.gateway.status.state = source.gateway.status.state ∨
        source.stop.gateway.status.state = .off) := by
  rcases cases_of_unmade h with ⟨g, rfl⟩ | ⟨s, rfl⟩
  · exact ⟨rfl, .inl rfl⟩
  · exact ⟨rfl, .inr (congrArg Standing.state (s.standing_stopWith none))⟩

end Source

namespace Replica

variable {r₀ r r' : Replica σ} {a : Happening} {past later : List (Happening × Status)}

/-- A replica of which no start has given away a signal, and whose status is not valid. -/
structure Unstarted (r : Replica σ) : Prop where
  unmade : r.source.readiness? = none
  state : r.gateway.status.state ≠ .valid

theorem Fresh.unstarted (h : r.Fresh) : r.Unstarted := by
  rcases h.source with ⟨g, hidle⟩
  refine ⟨by rw [hidle]; rfl, ?_⟩
  rw [h.state]
  decide

theorem Unstarted.mapGateway (h : r.Unstarted)
    {f : Gateway (WatchedStore σ) → Gateway (WatchedStore σ)}
    (hstatus : (f r.gateway).status = r.gateway.status) : (r.mapGateway f).Unstarted := by
  refine ⟨(readiness?_mapGateway r f).trans h.unmade, ?_⟩
  rw [gateway_mapGateway, hstatus]
  exact h.state

theorem Unstarted.withStore (h : r.Unstarted) (notices : List Notice) (store : WatchedStore σ) :
    (r.withStore notices store).Unstarted :=
  h.mapGateway rfl

section Runs

variable [Repository σ]

/-- Where the source does not run nothing is begun, whatever happens. -/
theorem Step.still (hs : Step r a r') (made : r.source.readiness?.isSome = true)
    (hkept : Kept r) (hr : r.source.standing.running = false) :
    r.source.Still r'.source := by
  have hcoherent := hkept.coherent
  cases hs with
  | start =>
    rw [start_of_made made]
    exact .withGateway _ _
  | stop => exact (Source.Still.stop r.source).trans (.withGateway _ _)
  | take streams idle accepted =>
    rw [streams] at hr ⊢
    exact StreamSource.Still.accept hr accepted
  | @fetch s polls fetching idle outcome =>
    rw [polls] at hr hcoherent ⊢
    show (s.receive outcome).fetches = s.fetches
    -- data that can be read only waits to be written; anything else ends the fetch
    cases hd : outcome.bind Payload.toDataSet with
    | ok data => simp only [PollSource.receive, hd]
    | error fault =>
      exact (PollSource.receive_over idle hd).fetches_of_stopped hcoherent hr
        (s.receive_effect outcome).move
  | write streams writing =>
    rw [streams] at hr hcoherent ⊢
    exact (StreamSource.write_of_stopped hr hcoherent writing).2.1
  | @writeAll s data polls writing =>
    rw [polls] at hr hcoherent ⊢
    exact (PollSource.write_over writing).fetches_of_stopped hcoherent hr
      (PollSource.write_effect writing).move
  | get kind key => exact .withGateway _ _
  | all kind => exact .withGateway _ _
  | check checked =>
    rcases Option.map_eq_some_iff.1 checked with ⟨⟨notices, store⟩, -, rfl⟩
    exact .withGateway _ _
  | tell waits => exact (Source.Still.hearPublished hr _).trans (.withGateway _ _)
  | attend step => exact .withGateway _ _
  | enlist name => exact .withGateway _ _
  | strike name => exact .withGateway _ _
  | elapse inner now delay journal listeners =>
    exact (Source.Still.withDelay _ _).trans (.withGateway _ _)

/-- A source that does not run stays where it stands and begins nothing. -/
theorem Run.still (hkept : Kept r) (made : r.source.readiness?.isSome = true)
    (hr : r.source.standing.running = false) (run : Run r later r') :
    r'.source.standing = r.source.standing ∧ r.source.Still r'.source := by
  induction run with
  | nil => exact ⟨rfl, .refl _⟩
  | @snoc later r' r'' a run step ih =>
    rcases ih with ⟨hstands, hstill⟩
    have hkept' := hkept.run run
    have hr' : r'.source.standing.running = false := by
      rw [hstands]
      exact hr
    have made' := (run.made_iff hkept).2 (.inl made)
    have hmove := (step.consequences hkept'.orderly hkept'.fit).move
    exact ⟨(hkept'.coherent.eq_of_stopped hr' hmove).trans hstands,
      hstill.trans (step.still made' hkept' hr')⟩

/-- Nothing that happens to a replica that is unfit for a source starts one. -/
theorem Unstarted.step (h : r.Unstarted) (hunfit : ¬ r.Fit) (hs : Step r a r') :
    r'.Unstarted ∧ r.source.Still r'.source := by
  -- what works with a source that was started does not happen
  have hnever : ∀ {source : Source (WatchedStore σ)}, source.readiness?.isSome = true →
      r.source ≠ source := by
    rintro source hmade rfl
    exact absurd (h.unmade ▸ hmade) (by simp)
  cases hs with
  | start =>
    rcases start_of_unfit h.unmade hunfit with hsame | ⟨s, hrefused, hsame⟩
    · rw [hsame]
      exact ⟨h, .refl _⟩
    · rw [hrefused]
      refine ⟨⟨rfl, ?_⟩, ?_⟩
      · show s.gateway.status.state ≠ .valid
        rw [hsame.status]
        exact h.state
      · rcases Source.cases_of_unmade h.unmade with ⟨g, hsource⟩ | ⟨t, hsource⟩ <;>
          rw [hsource] <;> exact trivial
  | stop =>
    rcases Source.stop_of_unmade h.unmade with ⟨hunmade, hstate⟩
    have hstopped : (r.withSource r.source.stop).Unstarted := by
      refine ⟨hunmade, ?_⟩
      show r.source.stop.gateway.status.state ≠ .valid
      rcases hstate with hkept | hoff
      · rw [hkept]
        exact h.state
      · rw [hoff]
        decide
    have hquieted := hstopped.mapGateway (f := Gateway.quieted) rfl
    exact ⟨hquieted, (Source.Still.stop r.source).trans (.withGateway _ _)⟩
  | take streams => exact absurd streams (hnever rfl)
  | fetch polls => exact absurd polls (hnever rfl)
  | write streams => exact absurd streams (hnever rfl)
  | writeAll polls => exact absurd polls (hnever rfl)
  | get kind key => exact ⟨h.withStore _ _, .withGateway _ _⟩
  | all kind => exact ⟨h.withStore _ _, .withGateway _ _⟩
  | check checked =>
    rcases Option.map_eq_some_iff.1 checked with ⟨⟨notices, store⟩, -, rfl⟩
    exact ⟨h.withStore _ _, .withGateway _ _⟩
  | @tell health queue waits =>
    have hdeaf := (Source.eq_of_unmade h.unmade health 0).1
    unfold tell
    rw [hdeaf]
    exact ⟨h.mapGateway rfl, .withGateway _ _⟩
  | attend step => exact ⟨h.mapGateway rfl, .withGateway _ _⟩
  | enlist name => exact ⟨h.mapGateway rfl, .withGateway _ _⟩
  | strike name => exact ⟨h.mapGateway rfl, .withGateway _ _⟩
  | elapse inner now delay journal listeners =>
    have hnoLine := (Source.eq_of_unmade h.unmade ⟨true, false⟩ delay).2.1
    unfold elapse
    rw [hnoLine]
    exact ⟨h.mapGateway rfl, .withGateway _ _⟩

theorem Unstarted.run (h : r.Unstarted) (hunfit : ¬ r.Fit) (run : Run r later r') :
    r'.Unstarted ∧ r.source.Still r'.source := by
  induction run with
  | nil => exact ⟨h, .refl _⟩
  | snoc run step ih =>
    have hunfit' := run.fit_iff.not.2 hunfit
    rcases ih.1.step hunfit' step with ⟨hunstarted, hstill⟩
    exact ⟨hunstarted, ih.2.trans hstill⟩

end Runs

/-! ## Before the start and after it -/

end Replica

end FlagReplica
