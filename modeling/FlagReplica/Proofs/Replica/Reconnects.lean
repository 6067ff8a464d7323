import FlagReplica.Proofs.Replica.Coupling
import FlagReplica.Proofs.Stream.EventOutcome

/-!
# When a streaming replica reconnects

Every step of a replica that streams over a watched store keeps it coupled, so that after any run
the line was broken off once for each event that failed and once for each recovery that the source
was told of while it ran. An outage is published once and breaks nothing off, and a source that has
stopped never runs again.
-/

namespace FlagReplica

variable {σ : Type}

/-! ## A source that has stopped -/

/-- A stream that runs no more. There is none before the first start. -/
def Source.Ended (source : Source σ) : Prop :=
  ∃ s, source = .streaming s ∧ s.running = false

namespace Source.Ended

variable {source : Source σ}

theorem running (h : source.Ended) : source.running = false := by
  rcases h with ⟨s, rfl, hr⟩
  exact hr

/-- Another gateway makes no difference. -/
theorem withGateway (h : source.Ended) (g : Gateway σ) : (source.withGateway g).Ended := by
  rcases h with ⟨s, rfl, hr⟩
  exact ⟨_, rfl, hr⟩

theorem withDelay (h : source.Ended) (delay : Millis) : (source.withDelay delay).Ended := by
  rcases h with ⟨s, rfl, hr⟩
  exact ⟨_, rfl, hr⟩

/-- No part of its work makes a source run. -/
theorem works {s s' : StreamSource σ} {n : Nat} (h : (Source.streaming s).Ended)
    (hw : s.Works s' n) : (Source.streaming s').Ended := by
  refine ⟨s', rfl, Bool.eq_false_iff.2 ?_⟩
  intro hr
  have hran : s.running = true := hw.running hr
  exact absurd (h.running.symm.trans hran) (by simp)

/-- A source that has stopped makes nothing of what it is told. -/
theorem hearPublished (h : source.Ended) (hw : source.Wired) (health : Health) :
    (source.hearPublished health).Ended := by
  rcases h with ⟨s, rfl, hr⟩
  rcases hw.stream rfl with ⟨sound, linked, subscribed⟩
  rw [Wired.hearPublished_eq subscribed]
  exact works ⟨s, rfl, hr⟩ (.hearHealth sound linked health)

/-- A stop makes a stream end. -/
theorem of_stop {s : StreamSource σ} (hw : source.Wired) (hstreams : source = .streaming s) :
    source.stop.Ended := by
  rcases hw.stream hstreams with ⟨sound, -, -⟩
  subst hstreams
  exact ⟨s.stop, rfl, (StreamSource.Works.stopWith sound none).2⟩

end Source.Ended

namespace Stage

variable {st st' : Stage σ} {a : Happening} {past : List (Bool × Happening)}

/-- A replica that has not been started is coupled, if it is to stream over a watched store. -/
theorem coupled_create {settings : Settings} {probe : HealthProbe}
    (hstreams : settings.streams = true) (hwatched : probe.isWatched = true) (store : σ)
    (setup : Option Json.Value) (id : Json.Value) (now : Millis) (refusal : Option SettingFault) :
    Coupled ⟨Replica.create settings store probe setup id now refusal, .waiting⟩ [] := by
  refine ⟨hstreams, .idle ?_, ⟨hwatched, rfl, rfl, rfl, ⟨?_, rfl⟩, rfl⟩, rfl⟩
  · intro error herror
    exact absurd herror (Option.some_ne_none error).symm
  · exact Option.some_ne_none _

/-- What happens after a source has stopped is counted neither as a failure nor as a recovery. -/
theorem Coupled.interrupts_of_stopped (h : st.Coupled past)
    (h' : st'.Coupled (past ++ [(false, a)])) :
    st'.replica.source.interrupts = st.replica.source.interrupts := by
  have hfailures : failures (past ++ [(false, a)]) = failures past := failures_concat past false a
  have hrecoveries : recoveries ⟨true, false⟩ (told (past ++ [(false, a)])) =
      recoveries ⟨true, false⟩ (told past) := by
    cases htold : a.told? with
    | none => rw [told_concat_of_untold htold]
    | some health =>
      rw [told_concat htold]
      exact recoveries_concat _ _ false health
  rw [h'.interrupts, h.interrupts, hfailures, hrecoveries]

/-! ## Every step -/

variable [Repository σ]

/-- A source that has stopped has stopped for good. -/
theorem Step.ended (hs : Step st a st') (hw : st.replica.source.Wired)
    (h : st.replica.source.Ended) : st'.replica.source.Ended := by
  have hsource : ∀ {s : StreamSource (WatchedStore σ)}, st.replica.source = .streaming s →
      (Source.streaming s).Ended := fun hstreams => hstreams ▸ h
  -- `id` keeps `h`, which the cases below still hand on
  rcases id h with ⟨s, hstreams, -⟩
  cases hs with
  | start =>
    rw [Replica.start_of_made (by rw [hstreams]; rfl)]
    exact h.withGateway _
  | stop => exact (Source.Ended.of_stop hw hstreams).withGateway _
  | take hstreams _ haccept =>
    rcases hw.stream hstreams with ⟨sound, linked, -⟩
    exact (hsource hstreams).works (.accept sound linked haccept)
  | answer hstreams _ _ =>
    rcases hsource hstreams with ⟨s, hs, hr⟩
    rcases Source.streaming.inj hs with rfl
    exact ⟨_, rfl, hr⟩
  | report hstreams _ =>
    rcases hw.stream hstreams with ⟨sound, -, -⟩
    exact (hsource hstreams).works (.reporting sound _)
  | conclude hstreams _ _ =>
    rcases hw.stream hstreams with ⟨sound, linked, -⟩
    exact (hsource hstreams).works (.concluding sound linked _ _)
  | get => exact h.withGateway _
  | all => exact h.withGateway _
  | check hchecked =>
    rcases Option.map_eq_some_iff.1 hchecked with ⟨heard, -, rfl⟩
    exact h.withGateway _
  | tell _ => exact (h.hearPublished hw _).withGateway _
  | elapse => exact (h.withDelay _).withGateway _

/-- Every step keeps a replica coupled. -/
theorem Coupled.step (h : st.Coupled past) (hs : Step st a st') :
    st'.Coupled (past ++ [(st.replica.source.running, a)]) := by
  cases hs with
  | start => exact h.start
  | stop => exact h.stop
  | take hstreams _ haccept => exact h.take hstreams haccept
  | answer hstreams _ _ => exact h.answer hstreams _ _
  | report hstreams _ => exact h.report hstreams _ _
  | conclude hstreams _ _ => exact h.conclude hstreams _ _ _
  | get kind key => exact h.read (.get kind key)
  | all kind => exact h.read (.all kind)
  | check hchecked => exact h.check hchecked
  | tell hwaits => exact h.tell hwaits
  | elapse inner now delay journal statuses listeners hqueue hdispatcher =>
    exact h.elapse inner now delay journal statuses hqueue hdispatcher

/-! ## Every run -/

theorem Run.coupled {st₀ : Stage σ} (h₀ : st₀.Coupled []) (run : Run st₀ past st) :
    st.Coupled past := by
  induction run with
  | nil => exact h₀
  | snoc _ step ih => exact ih.step step

/-- A source that has stopped never runs again, and its line is not broken off any more. -/
theorem Coupled.ended (h : st.Coupled past) (hended : st.replica.source.Ended)
    {later : List (Bool × Happening)} (run : Run st later st') :
    st'.Coupled (past ++ later) ∧ st'.replica.source.Ended ∧
      st'.replica.source.interrupts = st.replica.source.interrupts := by
  induction run with
  | nil =>
    rw [List.append_nil]
    exact ⟨h, hended, rfl⟩
  | snoc _ step ih =>
    rcases ih with ⟨hcoupled, hstopped, hsame⟩
    have hnext := hcoupled.step step
    rw [List.append_assoc] at hnext
    refine ⟨hnext, step.ended hcoupled.wired hstopped, ?_⟩
    rw [← List.append_assoc, hstopped.running] at hnext
    exact (hcoupled.interrupts_of_stopped hnext).trans hsame

/-! ## Outages -/

/-- A request that fails publishes an outage, unless one is going on. -/
theorem Coupled.publishes (h : st.Coupled past) (hs : Step st a st')
    (ha : a.occasion? = some (.asked false)) :
    st'.replica.store.feed.audience.queue =
      if st.replica.store.available then st.replica.store.feed.audience.queue ++ [⟨false, false⟩]
      else st.replica.store.feed.audience.queue := by
  have huntold : a.told? = none := by
    cases a with
    | told health => exact absurd ha (by simp [Happening.occasion?])
    | _ => rfl
  have hbefore := h.turned.recorded.published
  have hafter := (h.step hs).turned.recorded.published
  rw [told_concat_of_untold huntold, tally_concat, ha, Option.elim_some] at hafter
  have hmarked := h.turned.marked
  have hparity := h.turned.parity
  rcases htally : WatchedStore.tally (occasions past) with ⟨available, turns⟩
  rw [htally] at hbefore hafter hmarked hparity
  cases available with
  | false =>
    rw [hmarked, if_neg Bool.false_ne_true]
    exact List.append_cancel_left (hafter.trans hbefore.symm)
  | true =>
    -- the number of turns is even, so that the next one is an outage
    have hturn : Health.ofTurn true turns = ⟨false, false⟩ :=
      if_pos (by simpa using hparity.symm)
    have hnext : Health.alternating true (turns + 1) =
        (told past).map Prod.snd ++
          (st.replica.store.feed.audience.queue ++ [⟨false, false⟩]) := by
      rw [Health.alternating_succ, hturn, ← List.append_assoc]
      exact congrArg (· ++ _) hbefore.symm
    rw [hmarked, if_pos rfl]
    exact List.append_cancel_left (hafter.trans hnext)

/-- An outage that the source is told of is put on record as a new failure, and breaks nothing
off. -/
theorem Coupled.outage (h : st.Coupled past) {stale : Bool}
    (hs : Step st (.told ⟨false, stale⟩) st') :
    st'.replica.source.interrupts = st.replica.source.interrupts ∧
      (st.replica.source.running = true →
        st'.replica.gateway.status.error =
            some (st.replica.gateway.record ⟨.store, 0, some "data store is unavailable"⟩) ∧
          st'.replica.gateway.status.error ≠ st.replica.gateway.status.error) := by
  cases hs with
  | tell hwaits =>
    rename_i queue
    constructor
    · -- an outage is not a stale recovery, the one report that breaks a stream off
      have hinterrupts := (h.wired.hearPublished ⟨false, stale⟩).2.2
      rw [Bool.false_and, Bool.and_false] at hinterrupts
      exact (Source.withGateway_interrupts _ _).trans hinterrupts
    · intro hrunning
      have hkept : (st.replica.tell ⟨false, stale⟩ queue).gateway.status =
          (st.replica.source.hearPublished ⟨false, stale⟩).gateway.status := by
        rw [Replica.tell, Replica.withListeners, Replica.gateway, Replica.mapGateway,
          Source.withGateway_gateway]
        rfl
      have herror : (st.replica.tell ⟨false, stale⟩ queue).gateway.status.error =
          some (st.replica.gateway.record ⟨.store, 0, some "data store is unavailable"⟩) := by
        rw [hkept, h.wired.hearPublished_of_outage hrunning, Gateway.report_error]
        rfl
      refine ⟨herror, ?_⟩
      rw [herror]
      -- each record has a serial of its own
      exact h.wired.recorded.record_ne _

/-- A source that runs has stopped for good once the replica is stopped. -/
theorem Coupled.stopped (h : st.Coupled past) (hs : Step st .stopped st')
    (hrunning : st.replica.source.running = true) : st'.replica.source.Ended := by
  cases hs with
  | stop =>
    rcases h.wired.cases with ⟨-, hrests, -, -⟩ | ⟨s, hstreams, -, -, -⟩
    · exact absurd (hrests.symm.trans hrunning) Bool.false_ne_true
    · exact (Source.Ended.of_stop h.wired hstreams).withGateway _

/-- Whatever happens to a replica that streams over a watched store, be its line refused or not: the
line was broken off once for every event whose handling failed while the source ran, and once for
every recovery that the source was told of while it ran. Outages and recoveries are published in
turn, and a request that fails publishes an outage unless one is going on. An outage that a running
source is told of is put on record as a new store failure and breaks nothing off. Once the source
has stopped, nothing does. -/
theorem Run.reconnects {settings : Settings} {store : σ} {probe : HealthProbe}
    {setup : Option Json.Value} {id : Json.Value} {now : Millis} {refusal : Option SettingFault}
    (hstreams : settings.streams = true) (hwatched : probe.isWatched = true)
    (run : Run ⟨Replica.create settings store probe setup id now refusal, .waiting⟩ past st) :
    st.replica.source.interrupts = failures past + recoveries ⟨true, false⟩ (told past) ∧
      (told past).map Prod.snd ++ st.replica.store.feed.audience.queue =
        Health.alternating true (WatchedStore.tally (occasions past)).2 ∧
      (∀ {a st'}, Step st a st' → a.occasion? = some (.asked false) →
        st'.replica.store.feed.audience.queue =
          if st.replica.store.available then
            st.replica.store.feed.audience.queue ++ [⟨false, false⟩]
          else st.replica.store.feed.audience.queue) ∧
      (∀ {stale st'}, Step st (.told ⟨false, stale⟩) st' →
        st'.replica.source.interrupts = st.replica.source.interrupts ∧
          (st.replica.source.running = true →
            st'.replica.gateway.status.error =
                some (st.replica.gateway.record
                  ⟨.store, 0, some "data store is unavailable"⟩) ∧
              st'.replica.gateway.status.error ≠ st.replica.gateway.status.error)) ∧
      (∀ {st'}, Step st .stopped st' → st.replica.source.running = true →
        st'.replica.source.Ended) ∧
      (∀ {later st'}, st.replica.source.Ended → Run st later st' →
        st'.replica.source.Ended ∧
          st'.replica.source.interrupts = st.replica.source.interrupts) := by
  have h := run.coupled (coupled_create hstreams hwatched store setup id now refusal)
  refine ⟨h.interrupts, h.turned.recorded.published, ?_, ?_, ?_, ?_⟩
  · intro a st' hs ha
    exact h.publishes hs ha
  · intro stale st' hs
    exact h.outage hs
  · intro st' hs hrunning
    exact h.stopped hs hrunning
  · intro later st' hended hrun
    exact (h.ended hended hrun).2

end Stage

/-! ## Two outages, one of them too late -/

/-- A replica that streams over a store in memory under watch. -/
def Replica.sample : Replica Memory :=
  .create (Settings.ofOptions { sdkKey := .string "key" }).1 {} ⟨some true, true⟩ none .null 0 none

namespace Stage

/-- The stage when the medium of the store refuses everything, or nothing any more. -/
def withOutage (st : Stage Memory) (outage : Option Fault) : Stage Memory :=
  { st with
    replica := st.replica.elapse { st.replica.store.inner with outage } 0 0 []
      st.replica.gateway.audience st.replica.store.feed.audience }

theorem Run.withOutage {st₀ st : Stage Memory} {past : List (Bool × Happening)}
    (run : Run st₀ past st) (outage : Option Fault) :
    Run st₀ (past ++ [(st.replica.source.running, .elapsed)]) (st.withOutage outage) :=
  run.snoc (.elapse st _ _ _ _ _ _ rfl rfl)

/-- An event is cut short, then two requests are refused during one outage: the line is broken off
for the event and for the recovery. Another outage begins after the source has stopped, and the line
is left alone. -/
theorem Run.reconnects_of_outage :
    ∃ past st later st', Run ⟨.sample, .waiting⟩ past st ∧ failures past = 1 ∧
      (told past).map Prod.snd = [⟨false, false⟩, ⟨true, true⟩] ∧
      st.replica.source.interrupts = 2 ∧ Run st later st' ∧
      (told later).map Prod.snd = [⟨false, false⟩] ∧
      st'.replica.source.interrupts = 2 := by
  let gone : Fault := .other "OSError" "gone"
  have hstarted := Run.nil.snoc (.start (⟨.sample, .waiting⟩ : Stage Memory))
  have htaken := hstarted.snoc (.take (d := .event .cutShort) rfl rfl rfl)
  have hrefused := ((htaken.withOutage (some gone)).snoc (.get _ .flag "a")).snoc (.all _ .segment)
  have hback := ((hrefused.snoc (.tell rfl)).withOutage none).snoc
    (.check (show Replica.check _ (.ok (.boolean true)) = some _ from rfl))
  have hrun := hback.snoc (.tell rfl)
  have hstopped := hrun.snoc (.stop _)
  -- from here on the source is told of nothing
  have hrest : ∀ {past st}, Run ⟨.sample, .waiting⟩ past st → Run st [] st := fun _ => .nil
  have hlost := ((hrest hstopped).withOutage (some gone)).snoc (.get _ .flag "a")
  have hlater := hlost.snoc
    (.tell (show Audience.queue _ = [⟨false, false⟩] by decide +kernel))
  rcases hrun.reconnects rfl rfl with ⟨-, -, -, -, hends, -⟩
  rcases hstopped.reconnects rfl rfl with ⟨hinterrupts, -, -, -, -, hquiet⟩
  have hended := hends (.stop _) rfl
  have hcount := hinterrupts.trans (show _ = 2 from rfl)
  exact ⟨_, _, _, _, hstopped, rfl, rfl, hcount, hlater, rfl,
    (hquiet hended hlater).2.trans hcount⟩

end Stage

end FlagReplica
