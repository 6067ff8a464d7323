import FlagReplica.Proofs.Status.Report
import FlagReplica.Proofs.Source.Standing
import FlagReplica.Source.Poll

/-!
# What the parts of a poll do

One equation for each way in which the outcome of a fetch can be dealt with by a source that has not
been stopped.
-/

namespace FlagReplica

namespace Gateway

variable {σ : Type}

/-- The gateway after a source that runs has taken note of a poll that failed and will be repeated.
A failed write has been reported already. -/
def afterFailedPoll (g : Gateway σ) (fault : Fault) : Gateway σ :=
  match fault with
  | .fetchRejected status =>
    ((g.note (.pollRejected status)).report .interrupted (some (.ofFault fault))).2
  | .storeUpdate _ _ => g.note (.pollNotStored fault)
  | .invalidData _ => ((g.note (.pollInvalid fault)).report .interrupted (some (.ofFault fault))).2
  | _ => ((g.note (.pollFailed fault)).report .interrupted (some (.ofFault fault))).2

end Gateway

namespace PollSource

variable {σ : Type} {s : PollSource σ}

/-- A polling source that nothing has happened to yet, at a gateway that nothing has gone
through. -/
structure Fresh (p : PollSource σ) : Prop where
  state : p.gateway.status.state = .initializing
  error : p.gateway.status.error = none
  readiness : p.readiness = .pending
  begun : p.begun = false
  stopped : p.stopped = false
  writing : p.writing = none

/-- The first start sets the work going. -/
theorem start_of_unbegun (hb : s.begun = false) (hs : s.stopped = false) :
    s.start = (.ok (), { s.note (.pollStarting s.interval) with
      started := true
      begun := true
      fetching := true
      fetches := s.fetches + 1 }) := by
  simp [start, note, hb, hs, fetchNext]

/-- A poll that failed is noted and reported. -/
theorem pollFailed_eq (hs : s.stopped = false) {fault : Fault}
    (hretried : ∀ status, fault = .fetchRejected status → Rejection.isRecoverable status = true) :
    s.pollFailed fault = { s with gateway := s.gateway.afterFailedPoll fault } := by
  cases fault with
  | fetchRejected status =>
    have hrec := hretried status rfl
    simp [pollFailed, hrec, hs, interrupted, note, report, Gateway.afterFailedPoll]
  | _ => simp [pollFailed, hs, interrupted, note, report, Gateway.afterFailedPoll]

/-- A poll whose credentials were rejected ends the source. -/
theorem pollFailed_of_rejected (hs : s.stopped = false) {status : Int}
    (hrejected : Rejection.isRecoverable status = false) :
    s.pollFailed (.fetchRejected status) =
      { s with
        gateway := (((s.gateway.note (.pollRejected status)).note .pollStopping).report .off
          (some (.ofFault (.fetchRejected status)))).2
        stopped := true
        readiness := s.readiness.settled false } := by
  simp [pollFailed, hrejected, stopWith, hs, note, report, Readiness.settled]

/-- A full data set makes the status valid and the signal a success. -/
theorem dataStored_eq (hs : s.stopped = false) :
    s.dataStored =
      { s with
        gateway := s.gateway.afterData s.readiness .pollReady
        readiness := s.readiness.settled true } := by
  cases hread : s.readiness <;>
    simp [dataStored, hs, report, hread, Readiness.resolve, Readiness.settled,
      Gateway.afterData, note]

/-! ## A whole poll -/

/-- A source that waits for the outcome of a fetch. -/
structure Fetching (s : PollSource σ) : Prop where
  stopped : s.stopped = false
  fetching : s.fetching = true
  writing : s.writing = none

/-- A source that has ended for good and fetches nothing any more. -/
structure Ended (s : PollSource σ) : Prop where
  stopped : s.stopped = true
  fetching : s.fetching = false
  writing : s.writing = none

section Poll

variable [Repository σ] {fetched : Except Fault Payload}

/-- A fetch that brings nothing usable is a failed poll. -/
theorem poll_of_error (hs : s.Fetching) {fault : Fault}
    (h : fetched.bind Payload.toDataSet = .error fault)
    (hretried : ∀ status, fault = .fetchRejected status → Rejection.isRecoverable status = true) :
    s.poll fetched =
      { s with
        gateway := s.gateway.afterFailedPoll fault
        fetching := true
        fetches := s.fetches + 1 } := by
  have hreceive : s.receive fetched = (s.pollFailed fault).fetchNext := by
    simp only [receive, h]
  rw [poll, hreceive, pollFailed_eq hs.stopped hretried]
  simp [fetchNext, hs.stopped, write, hs.writing]

/-- A fetch that the server will never answer ends the source. -/
theorem poll_of_rejected (hs : s.Fetching) {status : Int}
    (hrejected : Rejection.isRecoverable status = false) :
    s.poll (.error (.fetchRejected status)) =
      { s with
        gateway := (((s.gateway.note (.pollRejected status)).note .pollStopping).report .off
          (some (.ofFault (.fetchRejected status)))).2
        stopped := true
        readiness := s.readiness.settled false
        fetching := false } := by
  have hreceive : s.receive (.error (.fetchRejected status)) =
      (s.pollFailed (.fetchRejected status)).fetchNext := rfl
  rw [poll, hreceive, pollFailed_of_rejected hs.stopped hrejected]
  simp [fetchNext, write, hs.writing]

/-- The source when its store has answered a write and nothing has been made of the answer yet. -/
def answered (s : PollSource σ) (data : DataSet) : PollSource σ :=
  { s with writing := none, gateway := (s.gateway.write (.replace data)).gateway }

/-- A fetch that brings a full data set is done with when the data set has been written. -/
theorem poll_of_data {data : DataSet} (h : fetched.bind Payload.toDataSet = .ok data) :
    s.poll fetched =
      (match (s.gateway.write (.replace data)).result with
        | .ok _ => (s.answered data).dataStored
        | .error fault => (s.answered data).pollFailed fault).fetchNext := by
  have hreceive : s.receive fetched = { s with writing := some data } := by
    simp only [receive, h]
  rw [poll, hreceive]
  rfl

/-- The store takes a full data set that was fetched. -/
theorem poll_of_stored (hs : s.Fetching) {data : DataSet}
    (h : fetched.bind Payload.toDataSet = .ok data) {changed : Bool}
    (hres : (Gateway.request s.gateway.store (.replace data)).result = .ok changed) :
    s.poll fetched =
      { s.answered data with
        gateway := (s.gateway.write (.replace data)).gateway.afterData s.readiness .pollReady
        readiness := s.readiness.settled true
        fetching := true
        fetches := s.fetches + 1 } := by
  have hwritten : (s.gateway.write (.replace data)).result = .ok changed := by
    rw [Gateway.write_of_ok hres]
  have hgoing : (s.answered data).stopped = false := hs.stopped
  rw [poll_of_data h, hwritten]
  dsimp only
  rw [dataStored_eq hgoing]
  simp [fetchNext, answered, hs.stopped]

/-- The store refuses a full data set that was fetched. -/
theorem poll_of_refused (hs : s.Fetching) {data : DataSet}
    (h : fetched.bind Payload.toDataSet = .ok data) {fault : Fault}
    (hres : (Gateway.request s.gateway.store (.replace data)).result = .error fault) :
    s.poll fetched =
      { s.answered data with
        gateway := (s.gateway.write (.replace data)).gateway.afterFailedPoll
          (Gateway.storeFault fault)
        fetching := true
        fetches := s.fetches + 1 } := by
  have hwritten : (s.gateway.write (.replace data)).result =
      .error (Gateway.storeFault fault) := by
    rw [Gateway.write_of_error hres]
  have hgoing : (s.answered data).stopped = false := hs.stopped
  have hretried : ∀ status, Gateway.storeFault fault = .fetchRejected status →
      Rejection.isRecoverable status = true := by
    intro status hstatus
    exact absurd hstatus (by simp [Gateway.storeFault])
  rw [poll_of_data h, hwritten]
  dsimp only
  -- the failure has been reported by the gateway and is only noted here
  rw [pollFailed_eq hgoing hretried]
  simp [fetchNext, answered, hs.stopped]

end Poll

end PollSource

end FlagReplica
