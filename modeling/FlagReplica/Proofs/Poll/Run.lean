import FlagReplica.Cadence
import FlagReplica.Proofs.Change.Unreadable
import FlagReplica.Proofs.Poll.Operations
import FlagReplica.Proofs.Stream.Run

/-!
# Runs of a polling source

What can happen to a polling source and to the task that has it poll, and what each happening makes
of where the source stands. A run of the task is one poll: a fetch, and the write of what was
fetched if it can be decoded. Then the task waits until the next run is due. A stop may come at any
time, also while a fetch, a write or a wait is in progress. Between two happenings others may use
the store, so that a write may find the store in any state and be answered or refused.
-/

namespace FlagReplica

/-- A polling source and the task that does its work. -/
structure PollWork (σ : Type) where
  source : PollSource σ
  task : Task

/-- The server will never accept the credentials. -/
def Fault.IsFinal : Fault → Prop
  | .fetchRejected status => status = 401 ∨ status = 403
  | _ => False

/-- What happens to a polling source at work. -/
inductive PollHappening where
  | started
  | stopped
  /-- A wait of the task is over. -/
  | woken
  /-- A fetch ends, and the server has answered it or not. -/
  | fetched (outcome : Except Fault Payload)
  /-- A write ends, and the store has answered it or failed. -/
  | written (data : DataSet) (answer : Except Fault Bool)
  /-- Time passes, the store and the listeners change. -/
  | elapsed

namespace PollHappening

/-- A stop, or a rejection of the credentials. -/
def Ends : PollHappening → Prop
  | stopped => True
  | fetched (.error fault) => fault.IsFinal
  | _ => False

/-- The store has taken a full data set. -/
def StoresAll : PollHappening → Prop
  | written _ (.ok _) => True
  | _ => False

/-- A poll has failed: nothing was fetched, or no data set, or the store refused it. -/
def Fails : PollHappening → Prop
  | fetched outcome => ∃ fault, outcome.bind Payload.toDataSet = .error fault
  | written _ (.error _) => True
  | _ => False

/-- What stores a full data set ends nothing. -/
theorem not_ends_of_storesAll {a : PollHappening} (h : a.StoresAll) : ¬ a.Ends := by
  cases a <;> simp_all [StoresAll, Ends]

/-- A fetch fails for good only if the server says so: no data are bad enough. -/
theorem ends_fetched_iff {outcome : Except Fault Payload} {fault : Fault}
    (h : outcome.bind Payload.toDataSet = .error fault) :
    (fetched outcome).Ends ↔ fault.IsFinal := by
  cases outcome with
  | error fault' =>
    rcases Except.error.inj h with rfl
    exact Iff.rfl
  | ok payload =>
    refine ⟨fun hends => hends.elim, fun hfinal => ?_⟩
    -- a payload that is refused is invalid or cannot be read
    have hrefused : fault.IsInvalid ∨ payload.Unreadable fault := by
      rcases Payload.toDataSet_refused h with hload | hinvalid
      · exact Payload.load_refused hload
      · exact Or.inl hinvalid
    rcases hrefused with ⟨reason, rfl⟩ | hunreadable
    · exact hfinal
    · cases hunreadable <;> exact hfinal

end PollHappening

/-! ## The source -/

namespace PollSource

variable {σ : Type} {s : PollSource σ}

/-- Where a polling source stands. -/
def standing (s : PollSource σ) : Standing :=
  ⟨!s.stopped, s.gateway.status.state, s.readiness⟩

@[simp] theorem standing_note (s : PollSource σ) (n : Notice) :
    (s.note n).standing = s.standing := rfl

/-- A report moves the state and nothing else. -/
@[simp] theorem standing_report (s : PollSource σ) (state : SyncState)
    (failure? : Option Failure) :
    (s.report state failure?).standing =
      { s.standing with state := s.standing.state.after state } := by
  simp [standing, report]

@[simp] theorem standing_fetchNext (s : PollSource σ) : s.fetchNext.standing = s.standing := by
  unfold fetchNext
  split <;> rfl

/-- A stop ends the source wherever it stands. -/
@[simp] theorem standing_stopWith (s : PollSource σ) (failure? : Option Failure) :
    (s.stopWith failure?).standing = s.standing.ended := by
  cases hs : s.stopped <;>
    simp [standing, stopWith, report, note, Standing.ended, Readiness.settled, hs]

/-- A start moves nothing, whether it is the first or not. -/
@[simp] theorem standing_start (s : PollSource σ) : s.start.2.standing = s.standing := by
  unfold start
  dsimp only
  split
  · rfl
  · rw [standing_fetchNext]
    rfl

/-- A full data set moves a source that has not been stopped. -/
theorem standing_dataStored (hs : s.stopped = false) :
    s.dataStored.standing = s.standing.synced := by
  rw [dataStored_eq hs]
  simp [standing, Standing.synced]

theorem dataStored_of_stopped (hs : s.stopped = true) : s.dataStored = s := by
  simp [dataStored, hs]

theorem standing_interrupted (s : PollSource σ) (fault : Fault) :
    (s.interrupted fault).standing = s.standing ∨
      (s.interrupted fault).standing = s.standing.interrupted := by
  unfold interrupted
  split
  · exact Or.inl rfl
  · exact Or.inr (standing_report _ _ _)

/-- A failed poll ends the source, or leaves it where it stands, or interrupts it. -/
theorem pollFailed_effect (s : PollSource σ) (fault : Fault) {stores : Prop} (hs : ¬ stores) :
    s.standing.Effect fault.IsFinal stores (s.pollFailed fault).standing := by
  have interrupted : ¬ fault.IsFinal → ∀ n : Notice,
      s.standing.Effect fault.IsFinal stores ((s.note n).interrupted fault).standing := by
    intro hfinal n
    rcases standing_interrupted (s.note n) fault with hk | hi
    · rw [hk]
      exact .kept hfinal hs
    · rw [hi]
      exact .interrupted hfinal hs
  -- a rejection of the credentials ends the source, a refused write has been reported already, and
  -- every other failure interrupts
  cases fault with
  | fetchRejected status =>
    have hfinal := Rejection.isRecoverable_eq_false_iff status
    cases hrec : Rejection.isRecoverable status with
    | false =>
      have hrejected : s.pollFailed (.fetchRejected status) =
          (s.note (.pollRejected status)).stopWith (some (.ofFault (.fetchRejected status))) := by
        simp [pollFailed, hrec]
      rw [hrejected, standing_stopWith]
      exact .ended (hfinal.1 hrec)
    | true =>
      have hgoesOn : ¬ Fault.IsFinal (.fetchRejected status) := by
        intro h
        rw [hfinal.2 h] at hrec
        exact absurd hrec (by decide)
      cases hstopped : s.stopped with
      | true =>
        -- a stopped source does not even note a rejection that it could recover from
        have hsame : s.pollFailed (.fetchRejected status) = s := by
          simp [pollFailed, hrec, hstopped]
        rw [hsame]
        exact .kept hgoesOn hs
      | false =>
        have hretried : s.pollFailed (.fetchRejected status) =
            (s.note (.pollRejected status)).interrupted (.fetchRejected status) := by
          simp [pollFailed, hrec, hstopped]
        rw [hretried]
        exact interrupted hgoesOn _
  | storeUpdate text cause => exact .kept (fun h => h) hs
  | _ => exact interrupted (fun h => h) _

/-- The outcome of a fetch ends the source, or leaves it where it stands, or interrupts it. -/
theorem receive_effect (s : PollSource σ) (outcome : Except Fault Payload) :
    s.standing.Effect (PollHappening.fetched outcome).Ends
      (PollHappening.fetched outcome).StoresAll (s.receive outcome).standing := by
  have hstores : ¬ (PollHappening.fetched outcome).StoresAll := fun h => h
  cases hd : outcome.bind Payload.toDataSet with
  | ok data =>
    have hgoesOn : ¬ (PollHappening.fetched outcome).Ends := by
      cases outcome with
      | ok payload => exact fun h => h
      | error fault => exact absurd hd (by simp [Except.bind])
    -- a data set is only taken up here; it counts when it has been written
    have hkept : (s.receive outcome).standing = s.standing := by
      simp only [receive, hd]
      rfl
    rw [hkept]
    exact .kept hgoesOn hstores
  | error fault =>
    have hfailed : s.receive outcome = (s.pollFailed fault).fetchNext := by
      simp only [receive, hd]
    rw [hfailed, standing_fetchNext, PollHappening.ends_fetched_iff hd]
    exact s.pollFailed_effect fault hstores

section Write

variable [Repository σ] {data : DataSet}

theorem write_eq (hw : s.writing = some data) :
    s.write =
      (match (s.gateway.write (.replace data)).result with
        | .ok _ => (s.answered data).dataStored
        | .error fault => (s.answered data).pollFailed fault).fetchNext := by
  simp only [write, hw]
  rfl

/-- A write that ends stores a full data set, or leaves the source where it stands, or interrupts
it. -/
theorem write_effect (hw : s.writing = some data) :
    s.standing.Effect
      (PollHappening.written data (Gateway.request s.gateway.store (.replace data)).result).Ends
      (PollHappening.written data
        (Gateway.request s.gateway.store (.replace data)).result).StoresAll
      s.write.standing := by
  rw [write_eq hw, standing_fetchNext]
  cases hres : (Gateway.request s.gateway.store (.replace data)).result with
  | ok changed =>
    have hwritten : (s.gateway.write (.replace data)).result = .ok changed := by
      rw [Gateway.write_of_ok hres]
    have hsame : (s.answered data).standing = s.standing := by
      simp [answered, standing, Gateway.write_of_ok hres]
    rw [hwritten]
    dsimp only
    cases hs : s.stopped with
    | true =>
      have hs' : (s.answered data).stopped = true := hs
      rw [dataStored_of_stopped hs', hsame]
      exact .unmoved (by simp [standing, hs])
    | false =>
      have hs' : (s.answered data).stopped = false := hs
      rw [standing_dataStored hs', hsame]
      exact .synced trivial (by simp [standing, hs])
  | error fault =>
    have hwritten : (s.gateway.write (.replace data)).result =
        .error (Gateway.storeFault fault) := by
      rw [Gateway.write_of_error hres]
    -- the gateway has interrupted the source already, and the failed poll is only noted
    have hmoved : (s.answered data).standing = s.standing.interrupted := by
      simp [answered, standing, Gateway.write_of_error hres, Standing.interrupted]
    have hnoted : (s.answered data).pollFailed (Gateway.storeFault fault) =
        (s.answered data).note (.pollNotStored (Gateway.storeFault fault)) := rfl
    rw [hwritten]
    dsimp only
    rw [hnoted, standing_note, hmoved]
    exact .interrupted (fun h => h) (fun h => h)

end Write

/-! ## What a poll leaves alone -/

/-- What dealing with an outcome leaves alone, whether the source goes on or not. -/
structure Keeps (s s' : PollSource σ) : Prop where
  writing : s'.writing = s.writing
  fetches : s'.fetches = s.fetches
  now : s'.gateway.now = s.gateway.now

namespace Keeps

theorem refl (s : PollSource σ) : s.Keeps s :=
  ⟨rfl, rfl, rfl⟩

theorem trans {s' s'' : PollSource σ} (h : s.Keeps s') (h' : s'.Keeps s'') : s.Keeps s'' :=
  ⟨h'.writing.trans h.writing, h'.fetches.trans h.fetches, h'.now.trans h.now⟩

theorem note (s : PollSource σ) (n : Notice) : s.Keeps (s.note n) :=
  ⟨rfl, rfl, rfl⟩

theorem report (s : PollSource σ) (state : SyncState) (failure? : Option Failure) :
    s.Keeps (s.report state failure?) :=
  ⟨rfl, rfl, Gateway.report_now _ _ _⟩

theorem stopWith (s : PollSource σ) (failure? : Option Failure) :
    s.Keeps (s.stopWith failure?) := by
  unfold PollSource.stopWith
  cases hs : s.stopped <;> exact ⟨rfl, rfl, Gateway.report_now _ _ _⟩

theorem interrupted (s : PollSource σ) (fault : Fault) : s.Keeps (s.interrupted fault) := by
  unfold PollSource.interrupted
  split
  · exact refl s
  · exact report s _ _

theorem pollFailed (s : PollSource σ) (fault : Fault) : s.Keeps (s.pollFailed fault) := by
  unfold PollSource.pollFailed
  split
  · split
    · exact (note s _).trans (stopWith _ _)
    · split
      · exact refl s
      · exact (note s _).trans (interrupted _ _)
  · exact note s _
  · exact (note s _).trans (interrupted _ _)
  · exact (note s _).trans (interrupted _ _)

theorem dataStored (s : PollSource σ) : s.Keeps s.dataStored := by
  cases hs : s.stopped with
  | true =>
    rw [dataStored_of_stopped hs]
    exact refl s
  | false =>
    rw [dataStored_eq hs]
    exact ⟨rfl, rfl, Gateway.afterData_now _ _ _⟩

end Keeps

/-- What is left of a source when a poll is over: nothing is being written, and the next fetch has
begun unless the source was stopped. -/
structure Over (s s' : PollSource σ) : Prop where
  writing : s'.writing = none
  fetches : s'.fetches = if s'.stopped then s.fetches else s.fetches + 1
  now : s'.gateway.now = s.gateway.now

/-- A poll is over when its outcome has been dealt with. -/
theorem Over.of_fetchNext {t : PollSource σ} (hw : t.writing = none) (hf : t.fetches = s.fetches)
    (hn : t.gateway.now = s.gateway.now) : s.Over t.fetchNext := by
  cases hs : t.stopped with
  | true =>
    rw [fetchNext, if_pos hs]
    exact ⟨hw, by simp [hs, hf], hn⟩
  | false =>
    have hgoes : ¬ t.stopped = true := by simp [hs]
    rw [fetchNext, if_neg hgoes]
    exact ⟨hw, by simp [hs, hf], hn⟩

/-- A poll that fetched no data set is over. -/
theorem receive_over (idle : s.writing = none) {outcome : Except Fault Payload} {fault : Fault}
    (h : outcome.bind Payload.toDataSet = .error fault) : s.Over (s.receive outcome) := by
  have hkeeps := Keeps.pollFailed s fault
  have hfailed : s.receive outcome = (s.pollFailed fault).fetchNext := by
    simp only [receive, h]
  rw [hfailed]
  exact .of_fetchNext (hkeeps.writing.trans idle) hkeeps.fetches hkeeps.now

/-- A poll that fetched one is over when it has been written. -/
theorem write_over [Repository σ] {data : DataSet} (hw : s.writing = some data) :
    s.Over s.write := by
  have hanswered : (s.answered data).gateway.now = s.gateway.now := Gateway.write_now _ _
  rw [write_eq hw]
  cases (s.gateway.write (.replace data)).result with
  | ok changed =>
    have hkeeps := Keeps.dataStored (s.answered data)
    exact .of_fetchNext hkeeps.writing hkeeps.fetches (hkeeps.now.trans hanswered)
  | error fault =>
    have hkeeps := Keeps.pollFailed (s.answered data) fault
    exact .of_fetchNext hkeeps.writing hkeeps.fetches (hkeeps.now.trans hanswered)

end PollSource

/-! ## The source at work -/

namespace PollWork

variable {σ : Type}

/-- The source is started and with it its task, which can be done once. -/
def start (w : PollWork σ) : PollWork σ :=
  { source := w.source.start.2
    task := match w.task.start w.source.gateway.now with
      | .ok task => task
      | .error _ => w.task }

/-- The source is stopped and with it its task. -/
def stop (w : PollWork σ) : PollWork σ :=
  { source := w.source.stop, task := w.task.stop }

/-- In a run of the task the source has become `s`. The task is stopped if the source is, and its
run is over unless the source has begun to write. -/
def proceed (w : PollWork σ) (s : PollSource σ) : PollWork σ :=
  let task := if s.stopped then w.task.stop else w.task
  { source := s
    task := if s.writing.isSome then task else task.finish s.gateway.now none }

/-- One happening. -/
inductive Step [Repository σ] : PollWork σ → PollHappening → PollWork σ → Prop where
  | start (w : PollWork σ) : Step w .started w.start
  | stop (w : PollWork σ) : Step w .stopped w.stop
  | wake {w : PollWork σ} {deadline : Millis} (waits : w.task.phase = .waiting deadline)
      (due : deadline ≤ w.source.gateway.now ∨ w.task.stopped = true) :
      Step w .woken { w with task := w.task.wake }
  | fetch {w : PollWork σ} {since : Millis} (runs : w.task.phase = .running since)
      (idle : w.source.writing = none) (outcome : Except Fault Payload) :
      Step w (.fetched outcome) (w.proceed (w.source.receive outcome))
  | write {w : PollWork σ} {since : Millis} {data : DataSet}
      (runs : w.task.phase = .running since) (writing : w.source.writing = some data) :
      Step w (.written data (Gateway.request w.source.gateway.store (.replace data)).result)
        (w.proceed w.source.write)
  | elapse (w : PollWork σ) (store : σ) (audience : Audience Status) (now : Millis) :
      Step w .elapsed
        { w with
          source := { w.source with gateway := { w.source.gateway with store, audience, now } } }

/-- Happenings one after another, the latest at the end. -/
inductive Run [Repository σ] (w : PollWork σ) : List PollHappening → PollWork σ → Prop where
  | nil : Run w [] w
  | snoc {past : List PollHappening} {w' w'' : PollWork σ} {a : PollHappening}
      (run : Run w past w') (step : Step w' a w'') : Run w (past ++ [a]) w''

/-- A source that nothing has happened to yet, with a task that has not been started. -/
structure Fresh (w : PollWork σ) : Prop where
  source : w.source.Fresh
  phase : w.task.phase = .unstarted
  stopped : w.task.stopped = false

/-- What a happening does to where the source stands. -/
theorem step_effect [Repository σ] {w w' : PollWork σ} {a : PollHappening} (h : Step w a w') :
    w.source.standing.Effect a.Ends a.StoresAll w'.source.standing := by
  cases h with
  | start =>
    rw [start, PollSource.standing_start]
    exact .kept (fun h => h) (fun h => h)
  | stop =>
    rw [stop, PollSource.stop, PollSource.standing_stopWith]
    exact .ended trivial
  | wake => exact .kept (fun h => h) (fun h => h)
  | fetch runs idle outcome => exact w.source.receive_effect outcome
  | write runs writing => exact PollSource.write_effect writing
  | elapse => exact .kept (fun h => h) (fun h => h)

end PollWork

end FlagReplica
