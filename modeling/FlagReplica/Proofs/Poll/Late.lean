import FlagReplica.Proofs.Source.ForGood
import FlagReplica.Proofs.Source.Reports

/-!
# The outcome of a poll that comes late

A source can be stopped while a poll is under way, and then the outcome of the poll finds a source
that is off. Most outcomes are dropped without a report. Two are not: a rejection of the credentials
ends the source once more, and a failure of the store is reported by the gateway, which knows of no
stop. Either of them is put on record and told to the listeners, though the source stays off.
-/

namespace FlagReplica

variable {σ : Type}

/-- What is reported about an outcome although the source has been stopped. -/
def PollHappening.lateFailure? : PollHappening → Option Failure
  | fetched (.error (.fetchRejected status)) =>
    if Rejection.isRecoverable status then none else some (.ofFault (.fetchRejected status))
  | written _ (.error fault) => some (Gateway.storeFailure fault)
  | _ => none

/-- Of all outcomes of a fetch only those that end a source are reported late. -/
theorem PollHappening.lateFailure?_fetched {outcome : Except Fault Payload} :
    (fetched outcome).lateFailure? = none ↔ ¬ (fetched outcome).Ends := by
  cases outcome with
  | ok payload => exact iff_of_true rfl (fun h => h)
  | error fault =>
    cases fault with
    | fetchRejected status =>
      have hfinal := Rejection.isRecoverable_eq_false_iff status
      cases hrec : Rejection.isRecoverable status <;>
        simp_all [lateFailure?, Ends, Fault.IsFinal]
    | _ => exact iff_of_true rfl (fun h => h)

/-! ## The gateway -/

namespace Gateway

variable {g g' g'' : Gateway σ} {failure? : Option Failure}

/-- A gateway has taken one failure more, or none: it is on record, the listeners have been told,
and nothing else about the status is new. -/
structure Takes (g : Gateway σ) (failure? : Option Failure) (g' : Gateway σ) : Prop where
  status : g'.status = { g.status with error := (failure?.map g.record).or g.status.error }
  failures : g'.failures = g.failures + failure?.toList.length
  audience : g'.audience =
    if failure? = none then g.audience else (g.audience.tell g'.status).takeNotices.2

namespace Takes

theorem of_same (h : g.Same g') : g.Takes none g' :=
  ⟨h.status, h.failures, h.audience⟩

/-- What reports nothing may come first. -/
theorem after (h' : g'.Takes failure? g'') (h : g.Same g') : g.Takes failure? g'' := by
  rcases h' with ⟨hstatus, hfailures, haudience⟩
  have hrecord : g'.record = g.record := by
    funext failure
    simp only [record, h.failures, h.now]
  rw [h.status, hrecord] at hstatus
  rw [h.failures] at hfailures
  rw [h.audience] at haudience
  exact ⟨hstatus, hfailures, haudience⟩

/-- What reports nothing may come last. -/
theorem before (h : g.Takes failure? g') (h' : g'.Same g'') : g.Takes failure? g'' := by
  rcases h with ⟨hstatus, hfailures, haudience⟩
  rw [← h'.status] at hstatus haudience
  rw [← h'.failures] at hfailures
  rw [← h'.audience] at haudience
  exact ⟨hstatus, hfailures, haudience⟩

/-- A failure that is reported when the source is off leaves it off, whether it is reported as an
interruption or as an end. -/
theorem report (hoff : g.status.state = .off) {state : SyncState}
    (hstate : g.status.state.after state = .off) (failure : Failure) :
    g.Takes (some failure) (g.report state (some failure)).2 := by
  have hafter : g.status.state.after state = g.status.state := hstate.trans hoff.symm
  refine ⟨?_, report_failures g state (some failure), ?_⟩
  · simp [report_eq, announcing, hafter, broadcast]
  · simpa using report_audience g state (some failure)

/-- A write reports what the store refuses, also when the source is off. -/
theorem write [Repository σ] (hoff : g.status.state = .off) (data : DataSet) :
    g.Takes
      (PollHappening.written data (request g.store (.replace data)).result).lateFailure?
      (g.write (.replace data)).gateway := by
  -- the gateway that the store has answered differs from this one in nothing that counts here
  suffices hasked : (g.asked (.replace data)).Takes
      (PollHappening.written data (request g.store (.replace data)).result).lateFailure?
      (g.write (.replace data)).gateway from
    ⟨hasked.status, hasked.failures, hasked.audience⟩
  cases hres : (request g.store (.replace data)).result with
  | ok changed =>
    rw [write_of_ok hres]
    exact .of_same (.refl _)
  | error fault =>
    have hnoted : ((g.asked (.replace data)).note (.storeFailed fault)).status.state = .off := hoff
    rw [write_of_error hres]
    exact (report hnoted (by rw [hnoted]; rfl) (storeFailure fault)).after (.note _ _)

end Takes

end Gateway

/-! ## The source -/

namespace PollSource

open Gateway (Takes)

variable {s : PollSource σ}

/-- A source that has been stopped ends once more over a rejection and tells of no other failure. -/
theorem pollFailed_late (hs : s.stopped = true) (hoff : s.gateway.status.state = .off)
    (fault : Fault) :
    s.gateway.Takes (PollHappening.fetched (.error fault)).lateFailure?
      (s.pollFailed fault).gateway := by
  -- a stopped source makes nothing of a failure but a note
  have silent (n : Notice) : s.gateway.Takes none ((s.note n).interrupted fault).gateway := by
    have hsame : (s.note n).interrupted fault = s.note n := by
      simp [interrupted, note, hs]
    rw [hsame]
    exact .of_same (.note _ n)
  cases fault with
  | fetchRejected status =>
    cases hrec : Rejection.isRecoverable status with
    | true =>
      have hsame : s.pollFailed (.fetchRejected status) = s := by
        simp [pollFailed, hrec, hs]
      rw [hsame]
      simpa [PollHappening.lateFailure?, hrec] using Takes.of_same (.refl s.gateway)
    | false =>
      -- a rejection of the credentials is reported all the same, since nobody looks whether the
      -- source has stopped
      have hended : (s.pollFailed (.fetchRejected status)).gateway =
          ((s.gateway.note (.pollRejected status)).report .off
            (some (.ofFault (.fetchRejected status)))).2 := by
        simp [pollFailed, hrec, stopWith, hs, note, PollSource.report]
      have hnoted : (s.gateway.note (.pollRejected status)).status.state = .off := hoff
      have htakes := Takes.report hnoted (SyncState.after_off _) (.ofFault (.fetchRejected status))
      rw [hended]
      simpa [PollHappening.lateFailure?, hrec] using htakes.after (.note _ _)
  | storeUpdate text cause => exact .of_same (.note _ _)
  | _ => exact silent _

/-- The outcome of a fetch is reported late only if it is a rejection. -/
theorem receive_late (hs : s.stopped = true) (hoff : s.gateway.status.state = .off)
    (outcome : Except Fault Payload) :
    s.gateway.Takes (PollHappening.fetched outcome).lateFailure? (s.receive outcome).gateway := by
  cases hd : outcome.bind Payload.toDataSet with
  | ok data =>
    cases outcome with
    | error fault => exact absurd hd (by simp [Except.bind])
    | ok payload =>
      simp only [receive, hd]
      exact .of_same (.refl _)
  | error fault =>
    have hfailed : (s.receive outcome).gateway = (s.pollFailed fault).gateway := by
      simp only [receive, hd, fetchNext_gateway]
    have hlate : (PollHappening.fetched outcome).lateFailure? =
        (PollHappening.fetched (.error fault)).lateFailure? := by
      cases outcome with
      | error fault' =>
        rcases Except.error.inj hd with rfl
        rfl
      | ok payload =>
        -- what was fetched cannot be decoded, and no data are bad enough to end a source
        have hgoes : ¬ (PollHappening.fetched (.error fault)).Ends :=
          fun hends => (PollHappening.ends_fetched_iff hd).2 hends
        rw [PollHappening.lateFailure?_fetched.2 hgoes]
        rfl
    rw [hfailed, hlate]
    exact pollFailed_late hs hoff fault

/-- The outcome of a write is reported late only if the store has refused the data set. -/
theorem write_late [Repository σ] (hs : s.stopped = true) (hoff : s.gateway.status.state = .off)
    {data : DataSet} (writing : s.writing = some data) :
    s.gateway.Takes
      (PollHappening.written data
        (Gateway.request s.gateway.store (.replace data)).result).lateFailure?
      s.write.gateway := by
  have htakes := Takes.write hoff data
  have hs' : (s.answered data).stopped = true := hs
  rw [write_eq writing, fetchNext_gateway]
  cases hres : (Gateway.request s.gateway.store (.replace data)).result with
  | ok changed =>
    rw [hres] at htakes
    -- a full data set that comes late is stored and changes no status
    rw [Gateway.write_of_ok hres]
    dsimp only
    rw [dataStored_of_stopped hs']
    exact htakes
  | error fault =>
    have hresult : (s.gateway.write (.replace data)).result =
        .error (Gateway.storeFault fault) := by
      rw [Gateway.write_of_error hres]
    rw [hres] at htakes
    rw [hresult]
    exact htakes.before (.note _ (.pollNotStored _))

end PollSource

/-! ## The source at work -/

namespace PollWork

open PollHappening (lateFailure?)

variable {w w' : PollWork σ} {a : PollHappening} {later : List PollHappening}

section Steps

variable [Repository σ]

/-- Whatever happens to a source that has been stopped, its gateway takes a late failure and nothing
else, unless it is time that passes and the listeners that change. -/
theorem Step.takes (hs : Step w a w') (hstopped : w.source.stopped = true)
    (hoff : w.source.gateway.status.state = .off) (hnew : a ≠ .elapsed) :
    w.source.gateway.Takes a.lateFailure? w'.source.gateway := by
  cases hs with
  | start => exact .of_same (PollSource.start_same _)
  | stop =>
    have hgateway : w.stop.source.gateway = w.source.gateway := by
      simp [PollWork.stop, PollSource.stop, PollSource.stopWith, hstopped, PollSource.report,
        Gateway.report_eq, hoff]
    rw [hgateway]
    exact .of_same (.refl _)
  | wake => exact .of_same (.refl _)
  | fetch runs idle outcome => exact PollSource.receive_late hstopped hoff outcome
  | write runs writing => exact PollSource.write_late hstopped hoff writing
  | elapse => exact absurd rfl hnew

/-- A late failure is the last thing that is told of the poll that was under way. -/
theorem Step.late_polls (hs : Step w a w') (hstopped : w.task.stopped = true) :
    a.lateFailure?.toList.length + w'.polls ≤ w.polls := by
  have hpolls := hs.polls hstopped
  cases hs with
  | @fetch since runs idle outcome =>
    cases hlate : (PollHappening.fetched outcome).lateFailure? with
    | none => exact hpolls
    | some failure =>
      -- the outcome has ended the poll, since nothing was fetched that could be written
      have hends : (PollHappening.fetched outcome).Ends := by
        by_contra hgoes
        rw [PollHappening.lateFailure?_fetched.2 hgoes] at hlate
        exact absurd hlate (by simp)
      cases outcome with
      | ok payload => exact hends.elim
      | error fault =>
        have hd : (Except.error fault : Except Fault Payload).bind Payload.toDataSet =
            .error fault := rfl
        rw [polls_proceed (PollSource.receive_over idle hd).writing]
        simp [PollWork.polls, runs]
  | @write since data runs writing =>
    refine Nat.le_trans (Nat.add_le_add_right ?_ _) hpolls
    cases (Gateway.request w.source.gateway.store (.replace data)).result <;>
      simp [lateFailure?, PollHappening.ended?]
  | start => exact hpolls
  | stop => exact hpolls
  | wake => exact hpolls
  | elapse => exact hpolls

end Steps

/-- What is left of the gateway of a source that was stopped: its status is as the stop has left it,
but for a late failure, if there has been one. -/
inductive Left (g : Gateway σ) : List Failure → Gateway σ → Prop where
  | untouched {g' : Gateway σ} (status : g'.status = g.status)
      (failures : g'.failures = g.failures) : Left g [] g'
  | failed {g' : Gateway σ} (failure : Failure) (time : Millis)
      (status : g'.status = { g.status with error := some ⟨g.failures, failure, time⟩ }) :
      Left g [failure] g'

/-- The late failure is the error on record. -/
theorem Left.error {g g' : Gateway σ} {late : List Failure} (h : Left g late g')
    {failure : Failure} (hfailure : failure ∈ late) :
    ∃ time, g'.status = { g.status with error := some ⟨g.failures, failure, time⟩ } := by
  cases h with
  | untouched => exact absurd hfailure List.not_mem_nil
  | failed failure' time status =>
    rcases List.mem_singleton.1 hfailure with rfl
    exact ⟨time, status⟩

section Runs

variable [Repository σ]

/-- One thing more happens to a source that was stopped. -/
theorem Left.step {g : Gateway σ} {late : List Failure}
    (h : Left g late w.source.gateway) (hs : Step w a w') (hstopped : w.source.stopped = true)
    (hoff : w.source.gateway.status.state = .off) (hone : late = [] ∨ a.lateFailure? = none) :
    Left g (late ++ a.lateFailure?.toList) w'.source.gateway := by
  -- what a happening leaves on record depends on its late failure and on nothing else
  have hrecorded : w'.source.gateway.status =
      { w.source.gateway.status with
        error :=
          (a.lateFailure?.map w.source.gateway.record).or w.source.gateway.status.error } ∧
      w'.source.gateway.failures =
        w.source.gateway.failures + a.lateFailure?.toList.length := by
    by_cases ha : a = .elapsed
    · rcases ha with rfl
      cases hs
      exact ⟨rfl, rfl⟩
    · have htakes := hs.takes hstopped hoff ha
      exact ⟨htakes.status, htakes.failures⟩
  rcases hrecorded with ⟨hstatus, hfailures⟩
  -- at most one thing was under way at the stop, so that a second late failure is out of the
  -- question
  cases hlate : a.lateFailure? with
  | none =>
    rw [hlate] at hstatus hfailures
    rw [Option.toList_none, List.append_nil]
    cases h with
    | untouched status failures =>
      exact .untouched (hstatus.trans status) (hfailures.trans failures)
    | failed failure time status => exact .failed failure time (hstatus.trans status)
  | some failure =>
    rw [hlate] at hstatus hone
    cases h with
    | untouched status failures =>
      refine .failed failure w.source.gateway.now ?_
      rw [hstatus, status]
      simp [Gateway.record, failures]
    | failed => simp at hone

/-- Whatever happens after a stop, at most the poll that was under way brings a late failure. -/
theorem Run.left (run : Run w.stop later w') :
    (later.filterMap lateFailure?).length + w'.polls ≤ w.polls ∧
      Left w.stop.source.gateway (later.filterMap lateFailure?) w'.source.gateway := by
  induction run with
  | nil => exact ⟨by simp [polls, PollWork.stop, Task.stop], .untouched rfl rfl⟩
  | @snoc later w' w'' a run step ih =>
    rcases ih with ⟨hpolls, hleft⟩
    rcases run.rests with ⟨hstands, hstopped, -⟩
    have hr : w'.source.standing.running = false := congrArg Standing.running hstands
    have hoff : w'.source.gateway.status.state = .off := congrArg Standing.state hstands
    have hone := step.late_polls hstopped
    have hmost := w.polls_le
    have happend : (later ++ [a]).filterMap lateFailure? =
        later.filterMap lateFailure? ++ a.lateFailure?.toList := by
      cases h : a.lateFailure? <;> simp [h]
    rw [happend, List.length_append]
    refine ⟨by omega, hleft.step step ((running_standing _).1 hr) hoff ?_⟩
    -- two failures would need two polls
    rw [← List.length_eq_zero_iff, ← Option.toList_eq_nil_iff, ← List.length_eq_zero_iff]
    omega

/-- What a late outcome comes to, and whatever else happens to a source that was stopped during a
poll. The signal of its start stays as the stop has left it, and so does the status, unless there is
a late failure; at most one failure comes late, it is put on record, and the status is otherwise
what it was. The listeners are told of it when it comes and of nothing else. Among the outcomes of a
fetch it is the rejections of the credentials that are reported late. -/
theorem Run.late_outcome (run : Run w.stop later w') :
    w'.source.readiness = w.stop.source.readiness ∧
      (later.filterMap lateFailure?).length ≤ w.polls ∧
      (later.filterMap lateFailure? = [] →
        w'.source.gateway.status = w.stop.source.gateway.status) ∧
      (∀ failure ∈ later.filterMap lateFailure?, ∃ time,
        w'.source.gateway.status =
          { w.stop.source.gateway.status with
            error := some ⟨w.stop.source.gateway.failures, failure, time⟩ }) ∧
      (∀ a w'', Step w' a w'' → a ≠ .elapsed →
        w''.source.gateway.audience =
          if a.lateFailure? = none then w'.source.gateway.audience
          else (w'.source.gateway.audience.tell w''.source.gateway.status).takeNotices.2) ∧
      ∀ outcome, (PollHappening.fetched outcome).lateFailure? = none ↔
        ¬ (PollHappening.fetched outcome).Ends := by
  rcases run.left with ⟨hpolls, hleft⟩
  rcases run.rests with ⟨hstands, -⟩
  -- the signal was settled by the stop at the latest, and stays settled
  have hready : w'.source.readiness = w.source.readiness.settled false :=
    congrArg Standing.readiness hstands
  have hstop : w.stop.source.readiness = w.source.readiness.settled false :=
    congrArg Standing.readiness (w.source.standing_stopWith none)
  have hoff : w'.source.gateway.status.state = .off := congrArg Standing.state hstands
  have hr : w'.source.standing.running = false := congrArg Standing.running hstands
  refine ⟨hready.trans hstop.symm, by omega, ?_, ?_, ?_, fun _ =>
    PollHappening.lateFailure?_fetched⟩
  · intro hnone
    rw [hnone] at hleft
    cases hleft with
    | untouched status failures => exact status
  · intro failure hfailure
    exact hleft.error hfailure
  · intro a w'' hstep hnew
    exact (hstep.takes ((running_standing _).1 hr) hoff hnew).audience

end Runs

/-! ## Two polls that are overtaken -/

/-- A source with one listener. -/
def heardSample : PollWork Memory :=
  { sample with
    source.gateway.audience := sample.source.gateway.audience.add (Text.ofChars ['a']) }

/-- A source that waits for the outcome of its first fetch. -/
def waitingSample : PollWork Memory :=
  { heardSample.start with task := heardSample.start.task.wake }

theorem waitingSample_run : Run heardSample [.started, .woken] waitingSample :=
  .snoc (.snoc .nil (.start _)) (.wake rfl (Or.inl (by decide)))

/-- A stop overtakes a poll that is answered with 503, and nothing is heard of the answer. -/
theorem Run.late_outcome_of_overload :
    ∃ w', Run waitingSample.stop [.fetched (.error (.fetchRejected 503))] w' ∧
      w'.source.gateway.status = waitingSample.stop.source.gateway.status ∧
      w'.source.readiness = .failed ∧ w'.source.gateway.audience.heard.length = 1 := by
  have hrun : Run waitingSample.stop [.fetched (.error (.fetchRejected 503))] _ :=
    .snoc .nil (.fetch (show _ = Phase.running 0 from rfl) rfl _)
  rcases Run.late_outcome hrun with ⟨hready, -, hstatus, -, -, hfetched⟩
  have hnone : (PollHappening.fetched (.error (.fetchRejected 503))).lateFailure? = none := by
    rw [hfetched]
    simp [PollHappening.Ends, Fault.IsFinal]
  refine ⟨_, hrun, hstatus (by simp [hnone]), hready.trans rfl, ?_⟩
  decide

/-- A stop overtakes a poll that is answered with 401: the listener hears a second time that the
source is off, now with an error. -/
theorem late_rejection_heard :
    ∃ w', heardSample.Fresh ∧ Run heardSample [.started, .woken] waitingSample ∧
      Run waitingSample.stop [.fetched (.error (.fetchRejected 401))] w' ∧
      waitingSample.stop.source.gateway.status = ⟨.off, 0, none⟩ ∧
      w'.source.gateway.status =
        ⟨.off, 0, some ⟨0, .ofFault (.fetchRejected 401), 0⟩⟩ ∧
      w'.source.gateway.audience.heard =
        [(Text.ofChars ['a'], waitingSample.stop.source.gateway.status),
          (Text.ofChars ['a'], w'.source.gateway.status)] := by
  have hfresh : heardSample.Fresh :=
    ⟨⟨rfl, rfl, rfl, rfl, rfl, rfl⟩, rfl, rfl⟩
  have hrun : Run waitingSample.stop [.fetched (.error (.fetchRejected 401))] _ :=
    .snoc .nil (.fetch (show _ = Phase.running 0 from rfl) rfl _)
  exact ⟨_, hfresh, waitingSample_run, hrun, rfl, rfl, rfl⟩

end PollWork

end FlagReplica
