import FlagReplica.Proofs.Stream.Spared

/-!
# How attempts to connect go, and what is to be recorded of them

An attempt begins with the start of a source and with every decision to reconnect. What happens
next to end it decides what is recorded of it: that it succeeded, that it failed, or nothing. All
of this is told here from what happens, without a look at the time that the source keeps of its
present attempt: `Moment.begins?` and `Moment.ending?` say what each happening begins and ends, and
`trials` pairs each beginning with the first ending after it.

`Step.accounted` is what one happening does to the time that is kept and to what is recorded, and
agrees with what it begins and ends.
-/

namespace FlagReplica

/-! ## Attempts, by what happens -/

/-- What ends an attempt to connect. -/
inductive Ending where
  /-- A full data set was stored while the source was running. -/
  | applied
  /-- The connection was lost. -/
  | lost (fault : Fault)
  /-- An event could not be decoded. -/
  | misread
  /-- An event could not be stored. -/
  | unstored
  /-- The source was stopped. -/
  | stopped
  /-- The store came back stale, and the source connects anew. -/
  | stale
  /-- The source was started once more. -/
  | startedAnew

/-- Whether an attempt that has ended like this is recorded, and if so, whether as a failure. -/
def Ending.failed? : Ending → Option Bool
  | applied => some false
  | lost _ | misread | unstored => some true
  | stopped | stale | startedAnew => none

/-- An attempt to connect: when it began, and how and when it ended, if it has. -/
structure Trial where
  start : Millis
  ended : Option (Ending × Millis)

/-- What is recorded of an attempt, if anything is. -/
def Trial.attempt? (t : Trial) : Option Attempt :=
  match t.ended with
  | none => none
  | some (ending, time) =>
    ending.failed?.map fun failed => ⟨t.start, max (time - t.start) 0, failed⟩

/-- Telemetry with what is recorded of one more attempt, if anything is. -/
def Telemetry.book (t : Telemetry) (attempt? : Option Attempt) : Telemetry :=
  { t with attempts := t.attempts ++ attempt?.toList }

namespace StreamSource

variable {σ : Type}

/-- A happening with the source before and after it. -/
structure Moment (σ : Type) where
  before : StreamSource σ
  happening : Happening
  after : StreamSource σ

namespace Moment

/-- How an attempt ends at this moment, if one is under way. What is handled while the source runs
counts; if a listener stops the source as it learns of a failure, before the attempt is recorded,
the attempt ends by that stop. -/
def ending? (m : Moment σ) : Option Ending :=
  match m.happening with
  | .started => some .startedAnew
  | .stopped => some .stopped
  | .taken (.lost (some fault)) => if m.before.running then some (.lost fault) else none
  | .taken (.event e) =>
    if m.before.running && e.isMisread then
      if m.after.running then some .misread else some .stopped
    else none
  | .taken _ => none
  | .written (.replace _) (.ok _) => if m.before.running then some .applied else none
  | .written (.upsert _ _ _) (.ok _) => none
  | .written _ (.error _) =>
    if m.before.running then
      if m.after.running then some .unstored else some .stopped
    else none
  | .heard h =>
    if m.before.running then
      if !m.after.running then some .stopped
      else if h.available && h.stale && m.before.line.address.isSome then some .stale
      else none
    else none
  | .elapsed => none

/-- When the attempt begins that is decided on at this moment, if one is: a start begins one at
once, and a decision to reconnect after the delay of the line. -/
def begins? (m : Moment σ) : Option Millis :=
  match m.ending? with
  | some .startedAnew => some m.before.gateway.now
  | some (.lost fault) =>
    if fault.isRetried then some (m.before.gateway.now + m.before.line.retryDelay) else none
  | some .misread | some .unstored | some .stale =>
    some (m.before.gateway.now + m.before.line.retryDelay)
  | some .applied | some .stopped | none => none

/-- The source is started. -/
def isStart (m : Moment σ) : Bool :=
  match m.happening with
  | .started => true
  | _ => false

/-- How and when an attempt ends at this moment. -/
def end? (m : Moment σ) : Option (Ending × Millis) :=
  m.ending?.map fun ending => (ending, m.before.gateway.now)

end Moment

/-- The attempts to connect, each with the first thing that ended it. -/
def trials : List (Moment σ) → List Trial
  | [] => []
  | m :: later =>
    match m.begins? with
    | some start => ⟨start, later.findSome? Moment.end?⟩ :: trials later
    | none => trials later

/-- What has happened to a source, the reports of its telemetry that were handed out meanwhile, and
what it has become. Listeners may make up their minds at any time to stop the source when it reports
a state. -/
inductive Course [Repository σ] (s₀ : StreamSource σ) :
    List (Moment σ) → List Report → StreamSource σ → Prop where
  | start : Course s₀ [] [] s₀
  | step {past : List (Moment σ)} {reports : List Report} {s s' : StreamSource σ} {a : Happening}
      (course : Course s₀ past reports s) (step : Step s a s') :
      Course s₀ (past ++ [⟨s, a, s'⟩]) reports s'
  | flush {past : List (Moment σ)} {reports : List Report} {s : StreamSource σ} {t : Telemetry}
      (course : Course s₀ past reports s) (telemetry : s.telemetry = some t) (now : Millis) :
      Course s₀ past (reports ++ [(t.flush now).1]) { s with telemetry := some (t.flush now).2 }
  | mind {past : List (Moment σ)} {reports : List Report} {s : StreamSource σ}
      (course : Course s₀ past reports s) (stopsUpon : Option SyncState) :
      Course s₀ past reports { s with stopsUpon }

variable {s t : StreamSource σ} {a : Happening} {m : Moment σ} {past : List (Moment σ)}

/-! ## One moment -/

/-- As long as something is left to be done there is a line. -/
def HasLine (s : StreamSource σ) : Prop :=
  s.Busy → s.line.address.isSome = true

theorem Spared.hasLine (h : Spared s t) (hl : s.HasLine) : t.HasLine := by
  intro hb
  rw [h.address]
  exact hl (h.busy hb)

/-- What is recorded at this moment of the attempt that the source has been measuring. -/
def Moment.attempt? (m : Moment σ) : Option Attempt :=
  m.before.attemptStart.bind fun start => Trial.attempt? ⟨start, m.end?⟩

/-- What a moment makes of the books: the attempt under way is recorded as its end asks for, and a
source that goes on measures the attempt that begins, or goes on with the one that has not ended. -/
structure Accounted (m : Moment σ) : Prop where
  telemetry : m.after.telemetry = m.before.telemetry.map (·.book m.attempt?)
  attemptStart : m.after.running = true →
    m.after.attemptStart = if m.ending?.isSome then m.begins? else m.before.attemptStart
  goesOn : m.after.running = true → m.before.running = true ∨ m.ending? = some .startedAnew
  measured : (m.ending?.bind Ending.failed?).isSome = true → m.before.running = true
  hasLine : m.after.HasLine

namespace Accounted

/-- Nothing is recorded of any attempt where none ends that is to be recorded. -/
theorem trial_attempt?_of_unrecorded (h : m.ending?.bind Ending.failed? = none) (start : Millis) :
    Trial.attempt? ⟨start, m.end?⟩ = none := by
  unfold Moment.end?
  cases hending : m.ending? with
  | none => rfl
  | some ending =>
    have hfailed : ending.failed? = none := by simpa [hending] using h
    simp [Trial.attempt?, hfailed]

theorem attempt?_of_unrecorded (h : m.ending?.bind Ending.failed? = none) : m.attempt? = none := by
  unfold Moment.attempt?
  cases m.before.attemptStart with
  | none => rfl
  | some start => exact trial_attempt?_of_unrecorded h start

/-- Nothing has ended. -/
theorem of_spared (hl : m.before.HasLine) (hm : m.ending? = none)
    (h : Spared m.before m.after) : Accounted m := by
  have hnone : m.ending?.bind Ending.failed? = none := by simp [hm]
  refine ⟨?_, ?_, fun hr => .inl (h.running hr), ?_, h.hasLine hl⟩
  · rw [h.telemetry, attempt?_of_unrecorded hnone]
    simp [Telemetry.book]
  · intro _
    simp [hm, h.attemptStart]
  · intro hsome
    simp [hnone] at hsome

/-- An attempt has ended of which nothing is recorded. -/
theorem of_unrecorded {ending : Ending} (hl : m.after.HasLine) (hm : m.ending? = some ending)
    (hnone : ending.failed? = none) (ht : m.after.telemetry = m.before.telemetry)
    (hr : m.after.running = true → m.before.running = true ∨ m.ending? = some .startedAnew)
    (hs : m.after.running = true → m.after.attemptStart = m.begins?) : Accounted m := by
  have hfailed : m.ending?.bind Ending.failed? = none := by simp [hm, hnone]
  refine ⟨?_, ?_, hr, ?_, hl⟩
  · rw [ht, attempt?_of_unrecorded hfailed]
    simp [Telemetry.book]
  · intro hafter
    simp [hm, hs hafter]
  · intro hsome
    simp [hfailed] at hsome

/-- The source has been stopped. -/
theorem of_stopped (hl : m.before.HasLine) (hm : m.ending? = some .stopped)
    (hr : m.after.running = false) (h : Spared m.before m.after) : Accounted m := by
  refine of_unrecorded (h.hasLine hl) hm rfl h.telemetry (fun hafter => .inl (h.running hafter)) ?_
  intro hrunning
  simp [hr] at hrunning

/-- An attempt has ended and been recorded. -/
theorem of_recorded {ending : Ending} {failed : Bool} (hl : m.after.HasLine)
    (hm : m.ending? = some ending) (hf : ending.failed? = some failed)
    (hr : m.before.running = true)
    (ht : m.after.telemetry = (m.before.recordAttempt failed).telemetry)
    (hs : m.after.running = true → m.after.attemptStart = m.begins?) : Accounted m := by
  refine ⟨?_, ?_, fun _ => .inl hr, fun _ => hr, hl⟩
  · rw [ht]
    -- a trial makes an entry only if it has a beginning and somebody keeps a record
    cases hstart : m.before.attemptStart <;> cases htelemetry : m.before.telemetry <;>
      simp [recordAttempt, Moment.attempt?, Moment.end?, Trial.attempt?, Telemetry.book,
        Telemetry.record, hstart, htelemetry, hm, hf]
  · intro hafter
    simp [hm, hs hafter]

end Accounted

/-- Sources with the same clock and the same attempt record it alike. -/
theorem Spared.recordAttempt_telemetry (h : Spared s t) (failed : Bool) :
    (t.recordAttempt failed).telemetry = (s.recordAttempt failed).telemetry := by
  simp [recordAttempt, h.attemptStart, h.telemetry, h.now]

/-- A failed event ends the attempt under way as a failure, unless a listener stops the source
first. -/
theorem accounted_of_failed {ending : Ending} (hr : m.before.running = true)
    (ha : m.before.line.address.isSome = true) (ht : Spared m.before t)
    (hafter : m.after = (t.restart true).2.settle)
    (hm : m.ending? = if m.after.running then some ending else some .stopped)
    (hending : ending = .misread ∨ ending = .unstored) : Accounted m := by
  have hline : t.line.address.isSome = true := by rw [ht.address, ha]
  have hspared := Spared.settle (t.restart true).2
  rw [← hafter] at hspared
  -- a listener may have stopped the source by now
  cases htr : t.running with
  | false =>
    have hrestart : (t.restart true).2 = t := by rw [restart_of_stopped htr]
    rw [hrestart] at hspared hafter
    have hstopped : m.after.running = false := by rw [hafter, settle_running, htr]
    refine .of_stopped (fun _ => ha) (by simpa [hstopped] using hm) hstopped (ht.trans hspared)
  | true =>
    rw [restart_eq htr hline] at hspared hafter
    have hgoes : m.after.running = true := by
      rw [hafter, settle_running]
      exact htr
    have hends : m.ending? = some ending := by simpa [hgoes] using hm
    have hfailed : ending.failed? = some true := by rcases hending with rfl | rfl <;> rfl
    refine .of_recorded ?_ hends hfailed hr ?_ ?_
    · intro _
      rw [hspared.address]
      exact hline
    · rw [hspared.telemetry]
      exact ht.recordAttempt_telemetry true
    · intro _
      rw [hspared.attemptStart]
      rcases hending with rfl | rfl <;> simp [Moment.begins?, hends, ht.now, ht.retryDelay]

/-- A connection error ends the attempt under way as a failure, and another one begins if it is
retried. -/
theorem accounted_lost {fault : Fault} (hr : s.running = true)
    (ha : s.line.address.isSome = true) :
    Accounted ⟨s, .taken (.lost (some fault)), concluded (s.handed.handleError fault)⟩ := by
  have hends : Moment.ending? ⟨s, .taken (.lost (some fault)),
      concluded (s.handed.handleError fault)⟩ = some (.lost fault) := by
    simp [Moment.ending?, hr]
  -- either way the trial has failed; what differs is whether another one begins
  cases hretried : fault.isRetried with
  | false =>
    obtain ⟨hspared, hstopped⟩ := handleError_spared_of_rejected (s := s.handed) hr hretried
    refine .of_recorded ?_ hends rfl hr hspared.telemetry ?_
    · intro _
      exact hspared.address ▸ ha
    · intro hrunning
      simp [hstopped] at hrunning
  | true =>
    obtain ⟨t, hspared, hconcluded⟩ :=
      handleError_spared_of_retried (s := s.handed) hr ha hretried
    have hsettled := Spared.settle
      { t with attemptStart := some (s.handed.gateway.now + s.handed.line.retryDelay) }
    rw [← hconcluded] at hsettled
    refine .of_recorded ?_ hends rfl hr (hsettled.telemetry.trans hspared.telemetry) ?_
    · intro _
      exact (hsettled.address.trans hspared.address) ▸ ha
    · intro _
      rw [hsettled.attemptStart, Moment.begins?, hends]
      simp only [hretried, if_true]
      rfl

/-- What is misread is refused by the reader. -/
theorem exists_of_isMisread {e : StreamEvent} (h : e.isMisread = true) :
    ∃ fault, e.reading? = some (.error fault) := by
  unfold StreamEvent.isMisread at h
  split at h
  · rename_i fault hreading
    exact ⟨fault, hreading⟩
  · exact absurd h (by simp)

/-- Whatever the worker takes is accounted for. -/
theorem accounted_taken {d : Delivered} {s' : StreamSource σ} (hl : s.HasLine)
    (accepted : s.accept d = some s') : Accounted ⟨s, .taken d, s'⟩ := by
  -- only a worker takes something, and a worker has a line
  have hw : s.worker = .running := by
    by_cases hw : s.worker = .running
    · exact hw
    · simp [accept_of_idle hw] at accepted
  have ha := hl (.inl hw)
  cases hr : s.running with
  | false =>
    rw [accept_of_stopped hw hr] at accepted
    obtain rfl := Option.some.inj accepted
    refine .of_spared hl ?_ (.endWorker s)
    cases d with
    | event e => simp [Moment.ending?, hr]
    | lost fault? => cases fault? <;> simp [Moment.ending?, hr]
    | comment => rfl
    | connected => rfl
  | true =>
    rw [accept_of_running hw hr] at accepted
    obtain rfl := Option.some.inj accepted
    have hsettled : Spared s s.handed.settle := (Spared.handed s).trans (.settle _)
    cases d with
    | comment => exact .of_spared hl rfl hsettled
    | connected => exact .of_spared hl rfl hsettled
    | lost fault? =>
      cases fault? with
      | none => exact .of_spared hl rfl hsettled
      | some fault => exact accounted_lost hr ha
    | event e =>
      cases hmisread : e.isMisread with
      | false =>
        refine .of_spared hl (by simp [Moment.ending?, hmisread]) ?_
        exact ((Spared.handed s).trans (receive_spared hw hmisread)).trans (.settle _)
      | true =>
        -- an event that cannot be read fails the trial, as does one that cannot be stored
        obtain ⟨fault, hreading⟩ := exists_of_isMisread hmisread
        obtain ⟨t, hspared, hfailed⟩ := eventFailed_spared s.handed fault
        refine accounted_of_failed hr ha ((Spared.handed s).trans hspared) ?_ ?_ (.inl rfl)
        · rw [← hfailed, ← receive_of_error hreading]
          rfl
        · simp [Moment.ending?, hmisread, hr]

/-- A write that the store has answered is accounted for: a full data set ends the attempt under way
as a success. -/
theorem accounted_stored [Repository σ] {c : Change} {changed : Bool} (hl : s.HasLine)
    (writing : s.writing = some c)
    (hresult : (Gateway.request s.gateway.store c).result = .ok changed) :
    Accounted ⟨s, .written c (.ok changed), s.write.2⟩ := by
  have ha := hl (.inr (by simp [writing]))
  have hanswered := Spared.answered writing
  have hwrite := write_of_stored writing hresult
  cases c with
  | upsert kind key d =>
    rw [hwrite]
    exact .of_spared hl rfl (hanswered.trans (.settle _))
  | replace data =>
    cases hr : s.running with
    | false =>
      have hstopped : (s.answered (.replace data)).running = false := hr
      rw [hwrite]
      dsimp only
      rw [dataStored_of_stopped hstopped]
      exact .of_spared hl (by simp [Moment.ending?, hr]) (hanswered.trans (.settle _))
    | true =>
      have hends : Moment.ending? ⟨s, .written (.replace data) (.ok changed), s.write.2⟩ =
          some .applied := by
        simp [Moment.ending?, hr]
      -- the attempt is recorded before the status is reported, so that a listener is too late
      have hstored : Spared ((s.answered (.replace data)).recordAttempt false) s.write.2 := by
        rw [hwrite]
        exact (dataStored_spared (s := s.answered (.replace data)) hr).trans (.settle _)
      refine .of_recorded ?_ hends rfl hr ?_ ?_
      · intro _
        exact hstored.address ▸ ha
      · rw [hstored.telemetry]
        exact hanswered.recordAttempt_telemetry false
      · intro _
        rw [hstored.attemptStart, Moment.begins?, hends]
        rfl

/-- A write that the store has refused is accounted for. -/
theorem accounted_unstored [Repository σ] {c : Change} {fault : Fault} (hl : s.HasLine)
    (writing : s.writing = some c)
    (hresult : (Gateway.request s.gateway.store c).result = .error fault) :
    Accounted ⟨s, .written c (.error fault), s.write.2⟩ := by
  have ha := hl (.inr (by simp [writing]))
  obtain ⟨u, hheeded, hwrite⟩ := write_of_unstored writing hresult
  cases hr : s.running with
  | false =>
    -- a listener may have stopped the source over the refusal, but never starts it
    have hstopped : u.running = false := by
      cases hu : u.running with
      | false => rfl
      | true => simp [hheeded.running hu] at hr
    rw [hwrite, eventFailed_of_stopped hstopped]
    refine .of_spared hl ?_ (hheeded.trans (.settle u))
    cases c <;> simp [Moment.ending?, hr]
  | true =>
    obtain ⟨t, hspared, hfailed⟩ := eventFailed_spared u (Gateway.storeFault fault)
    have hafter : s.write.2 = (t.restart true).2.settle := by rw [hwrite, hfailed]
    refine accounted_of_failed hr ha (hheeded.trans hspared) hafter ?_ (.inr rfl)
    cases c <;> simp [Moment.ending?, hr]

/-- News that the store is unavailable is accounted for: a listener who hears of it may stop the
source. -/
theorem accounted_outage {h : Health} (hl : s.HasLine) (hr : s.running = true)
    (hav : h.available = false) : Accounted ⟨s, .heard h, (s.hearHealth h).2⟩ := by
  obtain ⟨failure, hreport⟩ : ∃ failure,
      s.hearHealth h = (.ok (), s.report .interrupted (some failure)) := by
    exact ⟨⟨.store, 0, some "data store is unavailable"⟩, by simp [hearHealth, hr, hav]⟩
  have hspared := Spared.report s .interrupted (some failure)
  rw [hreport]
  cases hstopped : (s.report .interrupted (some failure)).running with
  | false => exact .of_stopped hl (by simp [Moment.ending?, hr, hstopped]) hstopped hspared
  | true => exact .of_spared hl (by simp [Moment.ending?, hr, hstopped, hav]) hspared

/-- News that the store has come back stale is accounted for: a source with a line gives up the
attempt under way for another one. -/
theorem accounted_refresh {h : Health} (hl : s.HasLine) (hr : s.running = true)
    (hav : h.available = true) (hstale : h.stale = true) :
    Accounted ⟨s, .heard h, (s.hearHealth h).2⟩ := by
  have hrestart : s.hearHealth h = (s.note .refreshing).restart false := by
    simp [hearHealth, hr, hav, hstale]
  rw [hrestart]
  cases ha : s.line.address.isSome with
  | false =>
    -- without a line the restart fails before anything begins
    have hnone : s.line.address = none := by simpa using ha
    have hbroken : (s.note .refreshing).restart false =
        (.error (.noLine "interrupt"), s.note .refreshing) := by
      simp [restart, note, hr, hnone]
    rw [hbroken]
    exact .of_spared hl (by simp [Moment.ending?, note, hr, ha]) (.note s _)
  | true =>
    rw [restart_eq (s := s.note .refreshing) hr ha]
    -- a trial that is given up for a stale store makes no entry
    refine .of_unrecorded (fun _ => ha) (?_ : Moment.ending? _ = some .stale) rfl rfl
      (fun _ => .inl hr) ?_
    · simp [Moment.ending?, hr, hav, hstale, ha, note]
    · intro _
      simp [Moment.begins?, Moment.ending?, hr, hav, hstale, ha, note]

/-- News of the store's health is accounted for. -/
theorem accounted_heard (hl : s.HasLine) (h : Health) :
    Accounted ⟨s, .heard h, (s.hearHealth h).2⟩ := by
  cases hr : s.running with
  | false =>
    have hsame : s.hearHealth h = (.ok (), s) := by simp [hearHealth, hr]
    rw [hsame]
    exact .of_spared hl (by simp [Moment.ending?, hr]) (.refl s)
  | true =>
    -- an outage interrupts, a recovery without loss does nothing, a stale store restarts
    cases hav : h.available with
    | false => exact accounted_outage hl hr hav
    | true =>
      cases hstale : h.stale with
      | false =>
        have hsame : s.hearHealth h = (.ok (), s) := by simp [hearHealth, hr, hav, hstale]
        rw [hsame]
        exact .of_spared hl (by simp [Moment.ending?, hr, hstale]) (.refl s)
      | true => exact accounted_refresh hl hr hav hstale

/-- A start is accounted for. -/
theorem accounted_started (hl : s.HasLine) : Accounted ⟨s, .started, s.start.2⟩ := by
  have hfields : s.start.2.telemetry = s.telemetry ∧
      s.start.2.attemptStart = some s.gateway.now ∧ s.start.2.HasLine := by
    unfold start
    dsimp only
    split
    · exact ⟨rfl, rfl, hl⟩
    · split
      · exact ⟨rfl, rfl, fun _ => rfl⟩
      · exact ⟨rfl, rfl, fun _ => rfl⟩
  exact .of_unrecorded hfields.2.2 rfl rfl hfields.1 (fun _ => .inr rfl) fun _ => hfields.2.1

/-- Every moment is accounted for. -/
theorem Step.accounted [Repository σ] {s' : StreamSource σ} (h : Step s a s') (hl : s.HasLine) :
    Accounted ⟨s, a, s'⟩ := by
  cases h with
  | start => exact accounted_started hl
  | stop => exact .of_stopped hl rfl (stopWith_running s none) (.stopWith s none)
  | take idle accepted => exact accounted_taken hl accepted
  | @write c writing =>
    cases hresult : (Gateway.request s.gateway.store c).result with
    | ok changed => exact accounted_stored hl writing hresult
    | error fault => exact accounted_unstored hl writing hresult
  | hear news => exact accounted_heard hl news
  | elapse store audience now delay =>
    refine ⟨?_, fun _ => rfl, .inl, fun hsome => absurd hsome (by simp [Moment.ending?]), hl⟩
    rw [Accounted.attempt?_of_unrecorded rfl]
    simp [Telemetry.book]

end StreamSource

end FlagReplica
