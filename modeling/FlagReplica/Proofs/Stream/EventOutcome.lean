import FlagReplica.Proofs.Audience
import FlagReplica.Proofs.Change.Refused
import FlagReplica.Proofs.Stream.Events
import FlagReplica.Proofs.Stream.Lifecycle

/-!
# How an event turns out

An event of a known name is either handled or fails, and which of the two it is can be told before
it is delivered. One that fails breaks the line off once and is reported once, whether it could not
be decoded or the store refused it: a refusal is reported by the gateway, and the source does not
report it again.
-/

namespace FlagReplica

/-! ## One reported interruption -/

namespace Gateway

variable {σ : Type} {g : Gateway σ} {failure : Failure}

/-- A gateway after one interruption has been reported: the failure is put on record as a new one,
and the audience is told once. Before the first success and after the end the state stays. -/
structure Interrupted (g g' : Gateway σ) (failure : Failure) : Prop where
  state : g'.status.state =
    if g.status.state = .initializing ∨ g.status.state = .off then g.status.state
    else .interrupted
  error : g'.status.error = some (g.record failure)
  failures : g'.failures = g.failures + 1
  audience : g'.audience = (g.audience.tell g'.status).takeNotices.2

/-- What has been noted before and what has become of the store makes no difference. -/
theorem Interrupted.of_report (g : Gateway σ) (store : σ) (journal : List Notice)
    (failure : Failure) :
    Interrupted g ({ g with store, journal }.report .interrupted (some failure)).2 failure := by
  constructor
  · rw [report_state, SyncState.after_interrupted]
  · rw [report_error]
    rfl
  · rw [report_failures]
    rfl
  · rw [report_audience, if_neg (by simp)]

/-- Neither does what is noted afterwards. -/
theorem Interrupted.note {g' : Gateway σ} (h : g.Interrupted g' failure) (n : Notice) :
    g.Interrupted (g'.note n) failure :=
  ⟨h.state, h.error, h.failures, h.audience⟩

/-- Without a dispatcher every listener that answers nothing hears of it once. -/
theorem Interrupted.heard {g' : Gateway σ} (h : g.Interrupted g' failure)
    (hq : g.audience.Quiet) (hd : g.audience.dispatcher = none) :
    g'.audience.heard =
      g.audience.heard ++ g.audience.registered.map fun name => (name, g'.status) := by
  rw [h.audience, hq.tell_directly hd]
  rfl

/-- A refusal by the store has been reported when the source learns of it, and is only noted
then. -/
theorem Interrupted.of_refused [Repository σ] {c : Change} {fault : Fault}
    (hres : (request g.store c).result = .error fault) :
    g.Interrupted ((g.write c).gateway.afterFailedEvent (storeFault fault))
      (storeFailure fault) := by
  have hwrite : g.Interrupted (g.write c).gateway (storeFailure fault) := by
    rw [write_of_error hres]
    exact .of_report g _ _ _
  exact hwrite.note _

/-- An event that could not be decoded is reported by the source. -/
theorem Interrupted.of_misread {fault : Fault} (h : fault.OfDecoding) :
    g.Interrupted (g.afterFailedEvent fault) (.ofFault fault) := by
  cases h with
  | invalidData reason => exact .of_report g _ _ _
  | tooManyDigits count => exact .of_report g _ _ _

end Gateway

/-! ## The two outcomes -/

namespace StreamSource

variable {σ : Type}

/-- An event is handled if it names no item of a known kind, or if the store answers what is asked
of it, be it that it has changed or that it has something newer. -/
inductive Handles [Repository σ] (s : StreamSource σ) (e : StreamEvent) : Prop where
  | skipped {m : Message} {path : Text} (reading : e.reading? = some (.ok (.skip m path)))
  | answered {c : Change} {changed : Bool} (asks : e.change? = some c)
      (answer : (Gateway.request s.gateway.store c).result = .ok changed)

/-- An event fails if it cannot be decoded or if the store refuses what is asked of it. -/
inductive Fails [Repository σ] (s : StreamSource σ) (e : StreamEvent) : Failure → Prop where
  | invalid {reason : InvalidData} (reading : e.reading? = some (.error (.invalidData reason))) :
      Fails s e ⟨.data, 0, some reason.text⟩
  | tooLong {count : Nat} (reading : e.reading? = some (.error (.tooManyDigits count))) :
      Fails s e ⟨.unknown, 0, some (digitLimitText count)⟩
  | refused {c : Change} {fault : Fault} (asks : e.change? = some c)
      (refusal : (Gateway.request s.gateway.store c).result = .error fault) :
      Fails s e ⟨.store, 0, some fault.text⟩

/-- What an event that was handled leaves behind: the line has not been broken off, and no failure
has been put on record. -/
structure Unharmed (s s' : StreamSource σ) : Prop where
  running : s'.running = true
  interrupts : s'.line.interrupts = s.line.interrupts
  error : s'.gateway.status.error = s.gateway.status.error

/-- What an event that failed leaves behind: the line has been broken off once, and one
interruption has been reported. The store is as it was unless it was asked for something. -/
structure Struck (s s' : StreamSource σ) (failure : Failure) : Prop where
  running : s'.running = true
  interrupts : s'.line.interrupts = s.line.interrupts + 1
  reported : s.gateway.Interrupted s'.gateway failure
  readiness : s'.readiness = s.readiness
  store : failure.kind ≠ .store → s'.gateway.store = s.gateway.store

section Deliver

variable [Repository σ] {s : StreamSource σ} {e : StreamEvent}

/-- An event that cannot be decoded strikes the source. -/
theorem Serving.struck_of_misread (hs : s.Serving) {fault : Fault}
    (h : e.reading? = some (.error fault)) :
    ∃ s' failure, s.deliver (.event e) = some s' ∧ s.Fails e failure ∧ Struck s s' failure := by
  have hdecoding : fault.OfDecoding := by
    rcases Option.map_eq_some_iff.1 h with ⟨m, -, hread⟩
    exact Message.read_refused (.text e.data) hread
  have hfails : s.Fails e (.ofFault fault) := by
    cases hdecoding with
    | invalidData reason => exact .invalid h
    | tooManyDigits count => exact .tooLong h
  rcases hs.deliver_misread h with ⟨s', hdelivered, hhandled⟩
  refine ⟨s', _, hdelivered, hfails, hhandled.running, hhandled.interrupts, ?_,
    hhandled.readiness, ?_⟩
  · rw [hhandled.gateway]
    exact .of_misread hdecoding
  · intro _
    rw [hhandled.gateway, Gateway.afterFailedEvent_store]

/-- So does one that the store refuses. -/
theorem Serving.struck_of_refused (hs : s.Serving) {c : Change} {fault : Fault}
    (h : e.change? = some c) (hres : (Gateway.request s.gateway.store c).result = .error fault) :
    ∃ s' failure, s.deliver (.event e) = some s' ∧ s.Fails e failure ∧ Struck s s' failure := by
  rcases hs.deliver_refused h hres with ⟨s', hdelivered, hhandled⟩
  refine ⟨s', _, hdelivered, .refused h hres, hhandled.running, hhandled.interrupts, ?_,
    hhandled.readiness, fun hkind => absurd rfl hkind⟩
  rw [hhandled.gateway]
  exact .of_refused hres

/-- An event that the store answers leaves the source unharmed. -/
theorem Serving.unharmed_of_answered (hs : s.Serving) {c : Change} {changed : Bool}
    (h : e.change? = some c) (hres : (Gateway.request s.gateway.store c).result = .ok changed) :
    ∃ s', s.deliver (.event e) = some s' ∧ Unharmed s s' := by
  have hstatus : (s.gateway.write c).gateway.status = s.gateway.status := by
    rw [Gateway.write_of_ok hres]
  cases c with
  | replace data =>
    rcases hs.deliver_stored h hres with ⟨s', hdelivered, hhandled⟩
    refine ⟨s', hdelivered, hhandled.running, hhandled.interrupts, ?_⟩
    rw [hhandled.gateway, Gateway.afterData_error, hstatus]
  | upsert kind key d =>
    rcases hs.deliver_updated h hres with ⟨s', hdelivered, hhandled⟩
    refine ⟨s', hdelivered, hhandled.running, hhandled.interrupts, ?_⟩
    rw [hhandled.gateway, hstatus]

/-- Every event of a known name is handled and leaves the source unharmed, or fails and strikes
it. -/
theorem Serving.outcome (hs : s.Serving) {m : Message} (hm : Message.ofName? e.name = some m) :
    ∃ s', s.deliver (.event e) = some s' ∧
      (s.Handles e ∧ Unharmed s s' ∨ ∃ failure, s.Fails e failure ∧ Struck s s' failure) := by
  have hreading : e.reading? = some (m.read (.text e.data)) := by
    rw [StreamEvent.reading?, hm, Option.map_some]
  cases hread : m.read (.text e.data) with
  | error fault =>
    rw [hread] at hreading
    rcases hs.struck_of_misread hreading with ⟨s', failure, hdelivered, hfails, hstruck⟩
    exact ⟨s', hdelivered, Or.inr ⟨failure, hfails, hstruck⟩⟩
  | ok reading =>
    rw [hread] at hreading
    cases reading with
    | skip m' path =>
      rcases hs.deliver_skipped hreading with ⟨s', hdelivered, hhandled⟩
      refine ⟨s', hdelivered, Or.inl ⟨.skipped hreading, hhandled.running, hhandled.interrupts,
        ?_⟩⟩
      rw [hhandled.gateway, Gateway.note_status]
    | change c =>
      have hasks : e.change? = some c := by
        simp [StreamEvent.change?, hreading]
      -- a change that could be read fails only where the store refuses it
      cases hres : (Gateway.request s.gateway.store c).result with
      | ok changed =>
        rcases hs.unharmed_of_answered hasks hres with ⟨s', hdelivered, hunharmed⟩
        exact ⟨s', hdelivered, Or.inl ⟨.answered hasks hres, hunharmed⟩⟩
      | error fault =>
        rcases hs.struck_of_refused hasks hres with ⟨s', failure, hdelivered, hfails, hstruck⟩
        exact ⟨s', hdelivered, Or.inr ⟨failure, hfails, hstruck⟩⟩

/-- What an event is handled for it does not fail for. -/
theorem Handles.not_fails (h : s.Handles e) {failure : Failure} : ¬ s.Fails e failure := by
  intro hfails
  -- reading an event has one result only, and so has asking the store
  cases h with
  | skipped reading =>
    cases hfails with
    | invalid reading' => simp [reading] at reading'
    | tooLong reading' => simp [reading] at reading'
    | refused asks _ => simp [StreamEvent.change?, reading] at asks
  | answered asks answer =>
    cases hfails with
    | invalid reading' => simp [StreamEvent.change?, reading'] at asks
    | tooLong reading' => simp [StreamEvent.change?, reading'] at asks
    | refused asks' refusal =>
      rcases Option.some.inj (asks.symm.trans asks') with rfl
      rw [answer] at refusal
      exact absurd refusal (by simp)

/-- A source that some run leads to waits for the next delivery if it runs and writes nothing. -/
theorem Reached.serving (h : s.Reached) (hr : s.running = true) (hw : s.worker = .running)
    (hidle : s.writing = none) : s.Serving :=
  ⟨hr, hw, hidle, h.sound.address hw, h.sound.stopsUpon⟩

/-- A running source is off only if it was stopped before it was started. -/
theorem Fresh.not_off {s₀ : StreamSource σ} (hfresh : s₀.Fresh) {past : List Happening}
    (hrun : Run s₀.start.2 past s) (honce : Happening.started ∉ past) (hr : s.running = true) :
    s.gateway.status.state ≠ .off := by
  rcases lifecycle hfresh hrun honce with ⟨-, hoff, -⟩
  rw [Ne, hoff, hr]
  decide

/-- Whatever a running source has been through, an event of a known name is handled or fails, and
never both. Handled, it breaks nothing off and puts no failure on record. Failing, it breaks the
line off once and is reported once, by a new failure that every listener hears of once: a source
that is initializing goes on so, and every other one that is not off is interrupted. The source
keeps running with its signal as it was; and unless it was the store that failed, the store is as it
was. A source that was not stopped before its only start is not off as long as it runs; where one is
off and runs all the same, it stays off. -/
theorem Reached.event_outcome (h : s.Reached) (hr : s.running = true) (hw : s.worker = .running)
    (hidle : s.writing = none) {m : Message} (hm : Message.ofName? e.name = some m) :
    ¬ (s.Handles e ∧ ∃ failure, s.Fails e failure) ∧
      (∃ s', s.deliver (.event e) = some s' ∧ s'.running = true ∧
        (s.Handles e ∧ s'.line.interrupts = s.line.interrupts ∧
            s'.gateway.status.error = s.gateway.status.error ∨
          ∃ failure, s.Fails e failure ∧
            s'.line.interrupts = s.line.interrupts + 1 ∧
            s'.gateway.status.error = some (s.gateway.record failure) ∧
            s'.gateway.status.error ≠ s.gateway.status.error ∧
            (s.gateway.status.state ≠ .off → s'.gateway.status.state =
              if s.gateway.status.state = .initializing then .initializing else .interrupted) ∧
            (s.gateway.status.state = .off → s'.gateway.status.state = .off) ∧
            s'.gateway.audience = (s.gateway.audience.tell s'.gateway.status).takeNotices.2 ∧
            (s.gateway.audience.Quiet → s.gateway.audience.dispatcher = none →
              s'.gateway.audience.heard = s.gateway.audience.heard ++
                s.gateway.audience.registered.map fun name => (name, s'.gateway.status)) ∧
            s'.readiness = s.readiness ∧
            (failure.kind ≠ .store → s'.gateway.store = s.gateway.store))) ∧
      ∀ (s₀ : StreamSource σ) (past : List Happening), s₀.Fresh → Run s₀.start.2 past s →
        Happening.started ∉ past → s.gateway.status.state ≠ .off := by
  refine ⟨fun ⟨hhandles, _, hfails⟩ => hhandles.not_fails hfails, ?_,
    fun _ _ hfresh hrun honce => hfresh.not_off hrun honce hr⟩
  rcases (h.serving hr hw hidle).outcome hm
      with ⟨s', hdelivered, ⟨hhandles, hunharmed⟩ | ⟨failure, hfails, hstruck⟩⟩
  · exact ⟨s', hdelivered, hunharmed.running,
      Or.inl ⟨hhandles, hunharmed.interrupts, hunharmed.error⟩⟩
  · have hreported := hstruck.reported
    -- the new failure has a serial number that no earlier one has
    have hnew : s'.gateway.status.error ≠ s.gateway.status.error := by
      rw [hreported.error]
      exact h.sound.recorded.record_ne failure
    have hstate : s.gateway.status.state ≠ .off → s'.gateway.status.state =
        if s.gateway.status.state = .initializing then .initializing else .interrupted := by
      intro hon
      rw [hreported.state]
      by_cases hi : s.gateway.status.state = .initializing
      · simp [hi]
      · simp [hi, hon]
    have hoff : s.gateway.status.state = .off → s'.gateway.status.state = .off := by
      intro hoff
      rw [hreported.state, if_pos (Or.inr hoff), hoff]
    exact ⟨s', hdelivered, hstruck.running, Or.inr ⟨failure, hfails, hstruck.interrupts,
      hreported.error, hnew, hstate, hoff, hreported.audience, hreported.heard,
      hstruck.readiness, hstruck.store⟩⟩

end Deliver

/-! ## An event that is cut short -/

end StreamSource

/-- The beginning of an event that was cut short. -/
def StreamEvent.cutShort : StreamEvent :=
  ⟨"patch", "\x7b"⟩

theorem StreamEvent.reading?_cutShort :
    cutShort.reading? =
      some (.error (.invalidData (.malformed ⟨.expectingName, 1, 1, 2⟩))) := by
  cbv

namespace StreamSource

/-- Such an event fails for its data and for nothing else. -/
theorem fails_cutShort [Repository σ] {s : StreamSource σ} :
    ¬ s.Handles .cutShort ∧ ∀ failure, s.Fails .cutShort failure → failure.kind = .data := by
  have hreading := StreamEvent.reading?_cutShort
  have hfails : s.Fails .cutShort _ := .invalid hreading
  refine ⟨fun hhandles => hhandles.not_fails hfails, ?_⟩
  intro failure h
  cases h with
  | invalid _ => rfl
  | tooLong reading =>
    rw [hreading] at reading
    exact absurd reading (by simp)
  | refused asks _ => simp [StreamEvent.change?, hreading] at asks

/-- Before the first full data set the source goes on initializing after such an event. -/
theorem Reached.event_outcome_of_cut_short :
    ∃ s' failure, sample.start.2.deliver (.event .cutShort) = some s' ∧ failure.kind = .data ∧
      s'.gateway.status.error = some ⟨0, failure, 0⟩ ∧ s'.line.interrupts = 1 ∧
      s'.gateway.status.state = .initializing ∧ s'.running = true ∧
      s'.gateway.store = sample.start.2.gateway.store := by
  have hreached : sample.start.2.Reached :=
    ⟨sample, [.started], sample_fresh, .snoc .nil (.start _)⟩
  have hname : Message.ofName? StreamEvent.cutShort.name = some .patch := by decide
  rcases fails_cutShort (s := sample.start.2) with ⟨hnot, hdata⟩
  rcases hreached.event_outcome rfl rfl rfl hname with
    ⟨-, ⟨s', hdelivered, hrunning, houtcome⟩, hon⟩
  rcases houtcome with ⟨hhandles, -⟩ |
    ⟨failure, hfails, hinterrupts, herror, -, hstate, -, -, -, -, hstore⟩
  · exact absurd hhandles hnot
  · have hkind := hdata failure hfails
    have hkept := hstore (by rw [hkind]; decide)
    have hinitializing := hstate (hon sample [] sample_fresh .nil (by simp))
    exact ⟨s', failure, hdelivered, hkind, herror, hinterrupts, hinitializing, hrunning, hkept⟩

/-- A source that was stopped and should be shut down for good runs once it is started, and is off
nevertheless. An event that fails then breaks the line off, and the state that is reported is not
the one of a source that is interrupted. -/
theorem off_after_stop_and_start :
    sample.stop.start.2.Reached ∧ sample.stop.start.2.running = true ∧
      sample.stop.start.2.worker = .running ∧ sample.stop.start.2.writing = none ∧
      ∃ s' failure, sample.stop.start.2.deliver (.event .cutShort) = some s' ∧
        sample.stop.start.2.Fails .cutShort failure ∧
        s'.line.interrupts = sample.stop.start.2.line.interrupts + 1 ∧
        s'.gateway.status.state = .off ∧
        s'.gateway.status.state ≠
          if sample.stop.start.2.gateway.status.state = .initializing then .initializing
          else .interrupted := by
  have hreached : sample.stop.start.2.Reached :=
    ⟨sample, [.stopped, .started], sample_fresh, .snoc (.snoc .nil (.stop _)) (.start _)⟩
  rcases (hreached.serving rfl rfl rfl).struck_of_misread StreamEvent.reading?_cutShort
      with ⟨s', failure, hdelivered, hfails, hstruck⟩
  have hoff : s'.gateway.status.state = .off := by
    rw [hstruck.reported.state]
    decide
  refine ⟨hreached, rfl, rfl, rfl, s', failure, hdelivered, hfails, hstruck.interrupts, hoff, ?_⟩
  rw [hoff]
  decide

end StreamSource

end FlagReplica
