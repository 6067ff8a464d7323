import FlagReplica.Proofs.Poll.Run
import FlagReplica.Proofs.Status.History

/-!
# How often a source reports

Whatever a source deals with, from the beginning to the end of it the status changes once at most,
and the listeners are told of the change when it is made. A failed write shows what this takes: the
gateway reports it, and so the source only notes it. `Moves` is what one report makes of a gateway;
the lemmas here give it for one part of the work after another. A stream also never registers for
its store's health again.
-/

namespace FlagReplica

variable {σ : Type}

namespace Gateway

variable {g g' g'' : Gateway σ}

/-- Nothing has been reported and no time has passed. Only the journal may differ. -/
structure Same (g g' : Gateway σ) : Prop where
  store : g'.store = g.store
  status : g'.status = g.status
  failures : g'.failures = g.failures
  audience : g'.audience = g.audience
  now : g'.now = g.now

/-- One status has been assigned and announced, or none, and the store is the one it was. -/
structure Moves (g g' : Gateway σ) : Prop where
  store : g'.store = g.store
  responds : ∃ brought, g.Responds brought g'

/-- The gateway when its store has answered a write, and nothing has been made of the answer. -/
def asked [Repository σ] (g : Gateway σ) (c : Change) : Gateway σ :=
  { g with
    store := (request g.store c).state
    journal := g.journal ++ (request g.store c).notices }

namespace Same

theorem refl (g : Gateway σ) : g.Same g :=
  ⟨rfl, rfl, rfl, rfl, rfl⟩

theorem trans (h : g.Same g') (h' : g'.Same g'') : g.Same g'' :=
  ⟨h'.store.trans h.store, h'.status.trans h.status, h'.failures.trans h.failures,
    h'.audience.trans h.audience, h'.now.trans h.now⟩

theorem note (g : Gateway σ) (n : Notice) : g.Same (g.note n) :=
  ⟨rfl, rfl, rfl, rfl, rfl⟩

theorem recorded (h : g.Same g') (hg : g.Recorded) : g'.Recorded := by
  intro record he
  rw [h.status] at he
  rw [h.failures]
  exact hg record he

end Same

namespace Moves

theorem of_same (h : g.Same g') : g.Moves g' :=
  ⟨h.store, none, .of_same h.status h.failures h.audience⟩

theorem report (hg : g.Recorded) (state : SyncState) (failure? : Option Failure) :
    g.Moves (g.report state failure?).2 := by
  refine ⟨report_store g state failure?, failure?.map g.record, responds_update hg state ?_⟩
  intro record hrecord
  rcases Option.map_eq_some_iff.1 hrecord with ⟨failure, -, rfl⟩
  rfl

/-- What reports nothing may come first. -/
theorem after (h' : g'.Moves g'') (h : g.Same g') : g.Moves g'' := by
  rcases h'.responds with ⟨brought, hserial, hfailures, herror, hsince, hinterrupts, haudience⟩
  rw [h.failures] at hserial hfailures
  rw [h.status] at herror hsince hinterrupts haudience
  rw [h.now] at hsince
  rw [h.audience] at haudience
  exact ⟨h'.store.trans h.store, brought, hserial, hfailures, herror, hsince, hinterrupts,
    haudience⟩

/-- What reports nothing may come last. -/
theorem before (h : g.Moves g') (h' : g'.Same g'') : g.Moves g'' := by
  rcases h.responds with ⟨brought, hserial, hfailures, herror, hsince, hinterrupts, haudience⟩
  rw [← h'.failures] at hfailures
  rw [← h'.status] at herror hsince hinterrupts haudience
  rw [← h'.audience] at haudience
  exact ⟨h'.store.trans h.store, brought, hserial, hfailures, herror, hsince, hinterrupts,
    haudience⟩

theorem recorded (h : g.Moves g') (hg : g.Recorded) : g'.Recorded := by
  rcases h.responds with ⟨brought, hresponds⟩
  exact hresponds.recorded hg

/-- The listeners are told of every change, and of nothing else. -/
theorem audience (h : g.Moves g') :
    g'.audience =
      if g'.status = g.status then g.audience else (g.audience.tell g'.status).takeNotices.2 := by
  rcases h.responds with ⟨brought, hresponds⟩
  exact hresponds.audience

/-- Once the store has answered, a refusal is reported and nothing else. -/
theorem write [Repository σ] (hg : g.Recorded) (c : Change) :
    (g.asked c).Moves (g.write c).gateway := by
  cases hres : (request g.store c).result with
  | ok changed =>
    rw [write_of_ok hres]
    exact of_same (.refl _)
  | error fault =>
    have hnoted : ((g.asked c).note (.storeFailed fault)).Recorded := hg
    rw [write_of_error hres]
    exact (report hnoted .interrupted (some (storeFailure fault))).after (.note _ _)

end Moves

end Gateway

/-! ## A stream -/

namespace StreamSource

variable {s t u : StreamSource σ}

/-- A part of the work that reports nothing. -/
structure Hushed (s t : StreamSource σ) : Prop where
  same : s.gateway.Same t.gateway
  subscriptions : t.subscriptions ≤ s.subscriptions

/-- A part of the work that reports once at most. -/
structure Reports (s t : StreamSource σ) : Prop where
  moves : s.gateway.Moves t.gateway
  subscriptions : t.subscriptions ≤ s.subscriptions

namespace Hushed

theorem refl (s : StreamSource σ) : Hushed s s :=
  ⟨.refl _, Nat.le_refl _⟩

theorem trans (h : Hushed s t) (h' : Hushed t u) : Hushed s u :=
  ⟨h.same.trans h'.same, Nat.le_trans h'.subscriptions h.subscriptions⟩

theorem note (s : StreamSource σ) (n : Notice) : Hushed s (s.note n) :=
  ⟨.note _ n, Nat.le_refl _⟩

theorem recordAttempt (s : StreamSource σ) (failed : Bool) : Hushed s (s.recordAttempt failed) :=
  ⟨.refl _, Nat.le_refl _⟩

theorem endWorker (s : StreamSource σ) : Hushed s s.endWorker := by
  unfold StreamSource.endWorker
  split <;> exact ⟨.refl _, Nat.le_refl _⟩

theorem settle (s : StreamSource σ) : Hushed s s.settle := by
  rcases s.settle_eq with h | h
  · rw [h]
    exact .refl s
  · rw [h]
    exact .endWorker s

theorem concluded (r : Except Fault Bool × StreamSource σ) : Hushed r.2 (concluded r) := by
  unfold StreamSource.concluded
  split
  · exact .settle _
  · exact .endWorker _

theorem beginAttempt (s : StreamSource σ) : Hushed s s.beginAttempt.2 := by
  unfold StreamSource.beginAttempt
  split <;> exact ⟨.refl _, Nat.le_refl _⟩

theorem restart (s : StreamSource σ) (isFailure : Bool) : Hushed s (s.restart isFailure).2 := by
  unfold StreamSource.restart
  split
  · exact .refl s
  · -- putting the attempt on record and breaking the line off tell nobody anything
    have hrecorded : Hushed s (if isFailure then s.recordAttempt true else s) := by
      cases isFailure
      · exact .refl s
      · exact .recordAttempt s true
    dsimp only
    split
    · exact hrecorded
    · have hbroken : Hushed s
          { (if isFailure then s.recordAttempt true else s) with
            line := (if isFailure then s.recordAttempt true else s).line.interrupt } :=
        ⟨hrecorded.same, hrecorded.subscriptions⟩
      exact hbroken.trans (.beginAttempt _)

theorem halted (s : StreamSource σ) : Hushed s s.halted := by
  unfold StreamSource.halted
  split
  · exact ⟨.note _ _, Nat.sub_le _ _⟩
  · exact .refl s

/-- A failed write has been reported already. -/
theorem eventFailed_storeFault (s : StreamSource σ) (fault : Fault) :
    Hushed s (s.eventFailed (Gateway.storeFault fault)).2 := by
  unfold StreamSource.eventFailed
  split
  · exact .refl s
  · exact (note s _).trans (.restart _ true)

end Hushed

namespace Reports

theorem of_hushed (h : Hushed s t) : Reports s t :=
  ⟨.of_same h.same, h.subscriptions⟩

theorem after (h' : Reports t u) (h : Hushed s t) : Reports s u :=
  ⟨h'.moves.after h.same, Nat.le_trans h'.subscriptions h.subscriptions⟩

theorem before (h : Reports s t) (h' : Hushed t u) : Reports s u :=
  ⟨h.moves.before h'.same, Nat.le_trans h'.subscriptions h.subscriptions⟩

theorem report (h : s.Sound) (state : SyncState) (failure? : Option Failure) :
    Reports s (s.report state failure?) := by
  rw [report_of_unstopped h.stopsUpon]
  exact ⟨.report h.recorded state failure?, Nat.le_refl _⟩

theorem stopWith (h : s.Sound) (failure? : Option Failure) : Reports s (s.stopWith failure?) := by
  have hhalted := Hushed.halted s
  have hrecorded : s.halted.gateway.Recorded := hhalted.same.recorded h.recorded
  rw [stopWith_halted]
  refine (Reports.before ?_ (.settle _)).after hhalted
  exact ⟨.report hrecorded .off failure?, Nat.le_refl _⟩

theorem eventFailed (h : s.Sound) (fault : Fault) : Reports s (s.eventFailed fault).2 := by
  unfold StreamSource.eventFailed
  split
  · exact .of_hushed (.refl s)
  · have reported (n : Notice) : Reports s
        (((s.note n).report .interrupted (some (.ofFault fault))).restart true).2 := by
      have hreport : Reports (s.note n) _ := report (h.note n) .interrupted (some (.ofFault fault))
      exact (hreport.before (.restart _ true)).after (.note s n)
    split
    · exact .of_hushed ((Hushed.note s _).trans (.restart _ true))
    · exact reported _
    · exact reported _

theorem receive (h : s.Sound) (e : StreamEvent) : Reports s (s.receive e).2 := by
  unfold StreamSource.receive
  split
  · exact .of_hushed (.note s _)
  · split
    · exact eventFailed h _
    · exact .of_hushed (.note s _)
    · exact .of_hushed ⟨.refl _, Nat.le_refl _⟩

theorem dataStored (h : s.Sound) : Reports s s.dataStored := by
  cases hr : s.running with
  | false =>
    rw [dataStored_of_stopped hr]
    exact .of_hushed (.refl s)
  | true =>
    have hreport := Gateway.Moves.report h.recorded .valid none
    rw [dataStored_eq hr h.stopsUpon]
    refine ⟨?_, Nat.le_refl _⟩
    show s.gateway.Moves (s.gateway.afterData s.readiness .streamReady)
    unfold Gateway.afterData
    split
    · exact hreport.before (.note _ _)
    · exact hreport

/-- A connection that is lost is reported when the line makes another, or ends the source. -/
theorem handleError (h : s.Sound) (fault : Fault) : Reports s (s.handleError fault).2 := by
  -- whatever the error, the attempt is recorded and the error noted before anything is reported
  have noted (n : Notice) : Hushed s ((s.recordAttempt true).note n) :=
    (Hushed.recordAttempt s true).trans (.note _ n)
  have retried (n : Notice) (failure : Failure) :
      Reports s (((s.recordAttempt true).note n).retry failure).2 := by
    have hreport : Reports ((s.recordAttempt true).note n) _ :=
      report ((h.recordAttempt true).note n) .interrupted (some failure)
    exact (hreport.before (.beginAttempt _)).after (noted n)
  unfold StreamSource.handleError
  split
  · exact .of_hushed (.refl s)
  · dsimp only
    split
    · split
      · exact retried _ _
      · exact (stopWith ((h.recordAttempt true).note _) _).after (noted _)
    · exact retried _ _

theorem handled (h : s.Sound) (d : Delivered) : Reports s (s.handled d) := by
  cases d with
  | event e => exact (receive h e).before (.settle _)
  | lost fault? =>
    cases fault? with
    | none => exact .of_hushed (.settle s)
    | some fault => exact (handleError h fault).before (.concluded _)
  | comment => exact .of_hushed (.settle s)
  | connected => exact .of_hushed (.settle s)

theorem accept (h : s.Sound) {d : Delivered} (haccept : s.accept d = some t) : Reports s t := by
  by_cases hw : s.worker = .running
  · cases hr : s.running with
    | false =>
      rw [accept_of_stopped hw hr] at haccept
      rw [← Option.some.inj haccept]
      exact .of_hushed (.endWorker s)
    | true =>
      rw [accept_of_running hw hr] at haccept
      rw [← Option.some.inj haccept]
      have hline : Hushed s { s with line := s.line.deliver } := ⟨.refl _, Nat.le_refl _⟩
      have hsound : { s with line := s.line.deliver }.Sound :=
        ⟨h.stopsUpon, h.address, h.recorded⟩
      exact (handled hsound d).after hline
  · rw [accept_of_idle hw] at haccept
    exact absurd haccept (by simp)

theorem hearHealth (h : s.Sound) (health : Health) : Reports s (s.hearHealth health).2 := by
  unfold StreamSource.hearHealth
  split
  · exact .of_hushed (.refl s)
  · split
    · exact report h _ _
    · split
      · exact .of_hushed ((Hushed.note s _).trans (.restart _ false))
      · exact .of_hushed (.refl s)

/-- A source that is registered once at most hears news once at most. -/
theorem hearPublished_eq (hs : s.subscriptions ≤ 1) (health : Health) :
    s.hearPublished health = s ∨ s.hearPublished health = (s.hearHealth health).2 := by
  unfold StreamSource.hearPublished
  rcases Nat.le_one_iff_eq_zero_or_eq_one.1 hs with hnone | hone
  · rw [hnone]
    exact .inl rfl
  · rw [hone]
    exact .inr rfl

/-- Once the store has answered, a refusal is reported by the gateway, and by the source that a full
data set has been stored. -/
theorem write [Repository σ] (h : s.Sound) {c : Change} (writing : s.writing = some c) :
    Reports { s with gateway := s.gateway.asked c } s.write.2 := by
  have hsound : (s.answered c).Sound := ⟨h.stopsUpon, h.address, h.recorded.write c⟩
  cases hres : (Gateway.request s.gateway.store c).result with
  | ok changed =>
    -- the store has answered, so that the write itself reports nothing
    have hsame : Hushed { s with gateway := s.gateway.asked c } (s.answered c) := by
      refine ⟨?_, Nat.le_refl _⟩
      rw [answered, Gateway.write_of_ok hres]
      exact .refl _
    rw [write_of_ok writing h.stopsUpon hres]
    refine (Reports.before ?_ (.settle _)).after hsame
    cases c with
    | replace data => exact dataStored hsound
    | upsert kind key d => exact .of_hushed (.refl _)
  | error fault =>
    -- the refusal is the one report; the source only notes it afterwards
    have hanswered : Reports { s with gateway := s.gateway.asked c } (s.answered c) :=
      ⟨.write h.recorded c, Nat.le_refl _⟩
    rw [write_of_error writing h.stopsUpon hres]
    exact hanswered.before ((Hushed.eventFailed_storeFault _ fault).trans (.settle _))

end Reports

end StreamSource

/-! ## Polls -/

namespace PollSource

open Gateway (Moves Same)

variable {s : PollSource σ}

theorem fetchNext_gateway (s : PollSource σ) : s.fetchNext.gateway = s.gateway := by
  unfold fetchNext
  split <;> rfl

theorem start_same (s : PollSource σ) : s.gateway.Same s.start.2.gateway := by
  unfold start
  dsimp only
  split
  · exact .note _ _
  · rw [fetchNext_gateway]
    exact .note _ _

theorem stopWith_moves (h : s.gateway.Recorded) (failure? : Option Failure) :
    s.gateway.Moves (s.stopWith failure?).gateway := by
  unfold stopWith
  cases hs : s.stopped with
  | true => exact .report h .off failure?
  | false =>
    have hnoted : Gateway.Recorded (s.gateway.note .pollStopping) := h
    exact (Moves.report hnoted .off failure?).after (.note _ _)

theorem interrupted_moves (h : s.gateway.Recorded) (fault : Fault) :
    s.gateway.Moves (s.interrupted fault).gateway := by
  unfold interrupted
  split
  · exact .of_same (.refl _)
  · exact .report h _ _

theorem pollFailed_moves (h : s.gateway.Recorded) (fault : Fault) :
    s.gateway.Moves (s.pollFailed fault).gateway := by
  have noted (n : Notice) : s.gateway.Moves ((s.note n).interrupted fault).gateway := by
    have hnoted : (s.note n).gateway.Recorded := h
    exact (interrupted_moves hnoted fault).after (.note _ n)
  unfold pollFailed
  split
  · split
    · -- a rejected fetch ends the source, or interrupts it, or was a poll of a stopped one
      rename_i status _
      have hnoted : (s.note (.pollRejected status)).gateway.Recorded := h
      exact (stopWith_moves hnoted _).after (.note _ _)
    · split
      · exact .of_same (.refl _)
      · exact noted _
  · exact .of_same (.note _ _)
  · exact noted _
  · exact noted _

theorem receive_moves (h : s.gateway.Recorded) (outcome : Except Fault Payload) :
    s.gateway.Moves (s.receive outcome).gateway := by
  unfold receive
  split
  · exact .of_same (.refl _)
  · rw [fetchNext_gateway]
    exact pollFailed_moves h _

theorem dataStored_moves (h : s.gateway.Recorded) : s.gateway.Moves s.dataStored.gateway := by
  cases hs : s.stopped with
  | true =>
    rw [dataStored_of_stopped hs]
    exact .of_same (.refl _)
  | false =>
    have hreport := Moves.report h .valid none
    rw [dataStored_eq hs]
    show s.gateway.Moves (s.gateway.afterData s.readiness .pollReady)
    unfold Gateway.afterData
    split
    · exact hreport.before (.note _ _)
    · exact hreport

/-- As with a stream, a refusal is reported by the gateway and only noted by the source. -/
theorem write_moves [Repository σ] (h : s.gateway.Recorded) {data : DataSet}
    (writing : s.writing = some data) :
    (s.gateway.asked (.replace data)).Moves s.write.gateway := by
  have hrecorded : (s.answered data).gateway.Recorded := h.write (.replace data)
  rw [write_eq writing, fetchNext_gateway]
  cases hres : (Gateway.request s.gateway.store (.replace data)).result with
  | ok changed =>
    have hsame : (s.gateway.asked (.replace data)).Same (s.answered data).gateway := by
      rw [answered, Gateway.write_of_ok hres]
      exact .refl _
    -- as with a stream, the report of a refusal is made by the gateway
    have hresult : (s.gateway.write (.replace data)).result = .ok changed := by
      rw [Gateway.write_of_ok hres]
    rw [hresult]
    exact (dataStored_moves hrecorded).after hsame
  | error fault =>
    have hresult : (s.gateway.write (.replace data)).result =
        .error (Gateway.storeFault fault) := by
      rw [Gateway.write_of_error hres]
    have hanswered : (s.gateway.asked (.replace data)).Moves (s.answered data).gateway :=
      .write h (.replace data)
    rw [hresult]
    exact hanswered.before (.note _ (.pollNotStored _))

end PollSource

end FlagReplica
